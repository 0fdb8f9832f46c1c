/-
SerialHid.Proofs.Retry — a request gets exactly the attempts that its budgets allow.

* `Round` — what the connection and the others do in the course of one attempt.
* `Job.after : Settings → List UInt8 → Desk → (Nat → Round) → Nat → Progress × Desk` — where a
  request stands after so many rounds.
* `IsLastAttempt`, `AttemptsMade` — after which attempt a request is over, said of the answers
  and of the moment at which the engine is to stop, without a look at the request's counters.
* `attempts_exact` — the request is over after just these attempts, and sent nothing else.
-/
import Mathlib.Data.Nat.Find
import SerialHid.Proofs.Job
import SerialHid.Proofs.Verdict

namespace SerialHid

/-! ## Rounds -/

/-- What happens in the course of one attempt. Others may act before it begins, while its
answer is awaited, and after that: while the answer to a probe is awaited, if there is one. -/
structure Round where
  before : List Act
  asking : List Act
  answer : Answer
  probing : List Act
  probe : Answer

/-- All that others do in a round. -/
def Round.acts (r : Round) : List Act := r.before ++ r.asking ++ r.probing

namespace Job

/-- One step of a request, after what others do. A request that is over stays as it is, and so
does one that does not wait for what comes. -/
def carry (settings : Settings) (acts : List Act) (i : Input) : Progress × Desk → Progress × Desk
  | (.underway j, d) => (j.step? settings (d.acts acts) i).getD (.underway j, d.acts acts)
  | (.returned ok, d) => (.returned ok, d)

/-- One attempt, if one is made: its beginning, its answer, and the answer to its probe. -/
def round (settings : Settings) (r : Round) (s : Progress × Desk) : Progress × Desk :=
  carry settings r.probing (.answer r.probe)
    (carry settings r.asking (.answer r.answer) (carry settings r.before .proceed s))

/-- Where a request stands after so many rounds. -/
def after (settings : Settings) (request : List UInt8) (d : Desk) (rounds : Nat → Round) :
    Nat → Progress × Desk
  | 0 => (.underway (.start settings request), d)
  | n + 1 => round settings (rounds n) (after settings request d rounds n)

end Job

/-! ## Which attempt is the last -/

section Spec

variable (settings : Settings) (request : List UInt8) (d : Desk) (rounds : Nat → Round)

/-- How many of the first `n` attempts ended in silence. -/
def silences (n : Nat) : Nat := (List.range n).countP fun k => (rounds k).answer.isSilent

/-- The engine is to stop, by the time when attempt `n` is over and another one could begin. -/
def StoppedAfter (n : Nat) : Prop :=
  d.stop = true ∨ .stop ∈ (List.range n).flatMap (fun k => (rounds k).acts) ++ (rounds n).before

/-- Attempt `n` is one after which there may be no other; the attempts are counted from one. -/
def IsLastAttempt (n : Nat) : Prop :=
  1 ≤ n ∧
  (Settles request (rounds (n - 1)).answer ∨
    Hopeless request (rounds (n - 1)).answer ∨
    ((∀ k < n, ¬ Settles request (rounds k).answer) ∧ n = settings.commonRetries) ∨
    silences rounds n = settings.readRetries ∨
    StoppedAfter d rounds n)

/-- The number of attempts: none without a budget, and otherwise up to the first one after which
there may be no other. -/
def AttemptsMade (n : Nat) : Prop :=
  (settings.commonRetries = 0 ∨ settings.readRetries = 0) ∧ n = 0 ∨
  settings.commonRetries ≠ 0 ∧ settings.readRetries ≠ 0 ∧
    IsLastAttempt settings request d rounds n ∧
    ∀ m < n, ¬ IsLastAttempt settings request d rounds m

/-- What goes out for one attempt: the request, and the probe if the answer is malformed. -/
def attemptExchanges (a : Answer) : List (List UInt8) :=
  request :: if a.isMalformed then [getInfoFrame.bytes] else []

/-- What goes out for the first `n` attempts. -/
def exchangesOf (n : Nat) : List (List UInt8) :=
  (List.range n).flatMap fun k => attemptExchanges request (rounds k).answer

end Spec

/-- The same rounds, in which the probes are answered otherwise. -/
def reprobed (rounds : Nat → Round) (probes : Nat → Answer) (k : Nat) : Round :=
  { rounds k with probe := probes k }

/-! ## One answer -/

namespace Job

variable {settings : Settings} {request : List UInt8} {j : Job} {d d' : Desk} {r : Round}
  {a : Answer} {f : Failure} {rounds : Nat → Round}

@[simp] theorem exchanges_tell (j : Job) (a : Answer) (d : Desk) :
    (j.tell a d).exchanges = d.exchanges := by
  rcases tell_eq j a d with h | ⟨n, h⟩ <;> simp [h, Entry.request?]

@[simp] theorem exchanges_finish (j : Job) (ok : Bool) (d : Desk) :
    (j.finish ok d).2.exchanges = d.exchanges := by
  unfold finish
  cases j.exhausted <;> simp [Entry.request?]

@[simp] theorem exchanges_fail (j : Job) (f : Failure) (d : Desk) :
    (j.fail f d).2.exchanges = d.exchanges := by
  unfold fail
  cases f.isPermanent <;> simp [Entry.request?]

/-- An answer that completes the request ends it well. -/
theorem receive_of_settles (h : Settles j.request a) (d : Desk) :
    ∃ d', j.receive a d = (.returned true, d') ∧ d'.exchanges = d.exchanges := by
  have hsuccess := (judge_isSuccess_iff j.request a).mpr h
  unfold receive
  cases hjudge : judge j.request a with
  | settled => exact ⟨(j.finish true (j.tell a d)).2, rfl, by simp⟩
  | status s => exact ⟨(j.finish true _).2, rfl, by simp [Entry.request?]⟩
  | failed f => simp [hjudge, Verdict.isSuccess] at hsuccess

/-- Any other answer is a failure. -/
theorem judge_of_not_settles (h : ¬ Settles request a) : ∃ f, judge request a = .failed f := by
  have hno := mt (judge_isSuccess_iff request a).mp h
  cases hjudge : judge request a with
  | settled => simp [hjudge, Verdict.isSuccess] at hno
  | status s => simp [hjudge, Verdict.isSuccess] at hno
  | failed f => exact ⟨f, rfl⟩

/-- An answer that rules completion out ends the request badly. -/
theorem receive_of_hopeless (h : Hopeless j.request a) (d : Desk) :
    ∃ d', j.receive a d = (.returned false, d') ∧ d'.exchanges = d.exchanges := by
  obtain ⟨f, hjudge⟩ := judge_of_not_settles (not_settles_of_hopeless h)
  obtain ⟨hpermanent, -, -⟩ := judge_failed hjudge
  have hp : f.isPermanent = true := hpermanent.mpr h
  have hg : f.isGarbled = false := by
    cases f <;> first | rfl | exact absurd hp Bool.false_ne_true
  refine ⟨(j.fail f (j.tell a d)).2, ?_, by simp⟩
  simp only [receive, hjudge, hg, Bool.false_eq_true, if_false]
  exact Prod.ext (by simp [hp]) rfl

/-- Any other answer that is a frame, or that never came, fails the attempt. -/
theorem receive_of_failure (hsettles : ¬ Settles j.request a) (hhopeless : ¬ Hopeless j.request a)
    (hformed : a.isMalformed = false) (d : Desk) :
    ∃ f d', f.isShortRead = a.isSilent ∧ j.receive a d = (.underway (j.charge f), d') ∧
      d'.exchanges = d.exchanges ∧ d'.stop = d.stop := by
  obtain ⟨f, hjudge⟩ := judge_of_not_settles hsettles
  obtain ⟨hpermanent, hsilent, hgarbled⟩ := judge_failed hjudge
  have hp : f.isPermanent = false := by simpa using mt hpermanent.mp hhopeless
  refine ⟨f, (j.fail f (j.tell a d)).2, hsilent, ?_, by simp, by simp⟩
  simp only [receive, hjudge, hgarbled, hformed, Bool.false_eq_true, if_false]
  exact Prod.ext (by simp [hp]) rfl

/-- After a malformed answer the probe goes out. -/
theorem receive_of_malformed (h : a.isMalformed = true) (d : Desk) :
    ∃ f d', f.isShortRead = a.isSilent ∧ f.isPermanent = false ∧
      j.receive a d = (.underway { j with stage := .probing f }, d') ∧
      d'.exchanges = d.exchanges ++ [getInfoFrame.bytes] ∧ d'.stop = d.stop := by
  have hsettles : ¬ Settles j.request a := by
    intro hs
    rw [not_malformed_of_settles hs] at h
    exact Bool.false_ne_true h
  obtain ⟨f, hjudge⟩ := judge_of_not_settles hsettles
  obtain ⟨-, hsilent, hgarbled⟩ := judge_failed hjudge
  have hg : f.isGarbled = true := hgarbled.trans h
  have hp : f.isPermanent = false := by
    cases f <;> first | rfl | exact absurd hg Bool.false_ne_true
  refine ⟨f, (j.tell a d).record (.sent getInfoFrame.bytes true (j.tell a d).state), hsilent, hp,
    ?_, by simp [Entry.request?], by simp⟩
  simp only [receive, hjudge, hg, if_true]

/-- Whatever the probe brings, the attempt fails as its answer had it. -/
theorem resume_of_temporary (hp : f.isPermanent = false) (j : Job) (a : Answer) (d : Desk) :
    ∃ d', j.resume f a d = (.underway (j.charge f), d') ∧ d'.exchanges = d.exchanges ∧
      d'.stop = d.stop := by
  refine ⟨(j.resume f a d).2, ?_⟩
  rcases resume_eq j f a d with h | ⟨n, h⟩
  · rw [h]
    exact ⟨Prod.ext (by simp [hp]) rfl, by simp, by simp⟩
  · rw [h]
    exact ⟨Prod.ext (by simp [hp]) rfl, by simp [Entry.request?], by simp⟩

/-! ## One round -/

/-- A request that can make no other attempt is given up; if that is for the engine to stop, it is
told. -/
theorem round_eq_finish {first : Bool} (hstage : j.stage = .ready first)
    (hover : j.exhausted = true ∨ first = false ∧ (d.acts r.before).stop = true) :
    ∃ d', (d' = d.acts r.before ∨ d' = (d.acts r.before).note (.abandoned j.request)) ∧
      round settings r (.underway j, d) = j.finish false d' := by
  by_cases hspent : j.exhausted = true
  · refine ⟨d.acts r.before, .inl rfl, ?_⟩
    simp only [round, carry, step?, hstage, attempt, hspent, if_true, Option.getD_some]
    rfl
  · obtain ⟨rfl, hstop⟩ := hover.resolve_left hspent
    refine ⟨(d.acts r.before).note (.abandoned j.request), .inr rfl, ?_⟩
    simp only [round, carry, step?, hstage, attempt, hspent, hstop, Option.getD_some]
    rfl

/-- Such a request is over, and nothing goes out. -/
theorem round_over {first : Bool} (hstage : j.stage = .ready first)
    (hover : j.exhausted = true ∨ first = false ∧ (d.acts r.before).stop = true) :
    ∃ d', round settings r (.underway j, d) = (.returned false, d') ∧
      d'.exchanges = d.exchanges := by
  obtain ⟨d', hd, hround⟩ := round_eq_finish hstage hover
  refine ⟨(j.finish false d').2, hround, ?_⟩
  rcases hd with rfl | rfl <;> simp [Entry.request?]

/-- The desk when the answer to an attempt arrives. -/
def asked (j : Job) (r : Round) (d : Desk) : Desk :=
  ((d.acts r.before).record (.sent j.request false (d.acts r.before).state)).acts r.asking

@[simp] theorem exchanges_asked (j : Job) (r : Round) (d : Desk) :
    (j.asked r d).exchanges = d.exchanges ++ [j.request] := by
  simp [asked, Entry.request?]

theorem stop_asked (j : Job) (r : Round) (d : Desk) :
    (j.asked r d).stop = true ↔ d.stop = true ∨ .stop ∈ r.before ++ r.asking := by
  simp [asked, Desk.stop_acts, or_assoc]

theorem round_eq {first : Bool} (hnoop : settings.noop = false)
    (hstage : j.stage = .ready first) (hleft : j.exhausted = false)
    (hgo : first = true ∨ (d.acts r.before).stop = false) :
    round settings r (.underway j, d) =
      carry settings r.probing (.answer r.probe)
        (({ j with stage := .asked } : Job).receive r.answer (j.asked r d)) := by
  have hgo' : (!first && (d.acts r.before).stop) = false := by
    rcases hgo with rfl | hgo
    · rfl
    · simp [hgo]
  simp [round, carry, step?, hstage, attempt, hleft, hgo', hnoop, asked]

/-- A request that can make an attempt makes it, and is over if the answer completes it or rules
its completion out. Otherwise the attempt is charged. What comes of the probe does not matter. -/
theorem round_attempt {first : Bool} (hnoop : settings.noop = false)
    (hstage : j.stage = .ready first) (hleft : j.exhausted = false)
    (hgo : first = true ∨ (d.acts r.before).stop = false) :
    ∃ d', d'.exchanges = d.exchanges ++ attemptExchanges j.request r.answer ∧
      ((Settles j.request r.answer ∧
          round settings r (.underway j, d) = (.returned true, d')) ∨
        (Hopeless j.request r.answer ∧
          round settings r (.underway j, d) = (.returned false, d')) ∨
        (¬ Settles j.request r.answer ∧ ¬ Hopeless j.request r.answer ∧
          (d'.stop = true ↔ d.stop = true ∨ .stop ∈ r.acts) ∧
          ∃ f, f.isShortRead = r.answer.isSilent ∧
            round settings r (.underway j, d) = (.underway (j.charge f), d'))) := by
  rw [round_eq hnoop hstage hleft hgo]
  have hstop := stop_asked j r d
  by_cases hmal : r.answer.isMalformed = true
  · obtain ⟨f, d₁, hsilent, hp, hreceive, hexchanges, hstop₁⟩ :=
      receive_of_malformed (j := { j with stage := .asked }) hmal (j.asked r d)
    obtain ⟨d₂, hresume, hexchanges₂, hstop₂⟩ :=
      resume_of_temporary hp { j with stage := .probing f } r.probe (d₁.acts r.probing)
    refine ⟨d₂, ?_, .inr (.inr ⟨?_, ?_, ?_, f, hsilent, ?_⟩)⟩
    · simp [hexchanges₂, hexchanges, attemptExchanges, hmal]
    · intro hs
      exact absurd hmal (by simp [not_malformed_of_settles hs])
    · exact not_hopeless_of_malformed hmal
    · simp [hstop₂, hstop₁, hstop, Desk.stop_acts, Round.acts, or_assoc]
    · rw [hreceive]
      simp only [carry, step?, hresume, Option.getD_some]
      rfl
  · have hformed : r.answer.isMalformed = false := by simpa using hmal
    have hexchanges : attemptExchanges j.request r.answer = [j.request] := by
      simp [attemptExchanges, hformed]
    by_cases hs : Settles j.request r.answer
    · obtain ⟨d₁, hreceive, hexchanges₁⟩ :=
        receive_of_settles (j := { j with stage := .asked }) hs (j.asked r d)
      exact ⟨d₁, by simp [hexchanges₁, hexchanges], .inl ⟨hs, by rw [hreceive]; rfl⟩⟩
    by_cases hh : Hopeless j.request r.answer
    · obtain ⟨d₁, hreceive, hexchanges₁⟩ :=
        receive_of_hopeless (j := { j with stage := .asked }) hh (j.asked r d)
      exact ⟨d₁, by simp [hexchanges₁, hexchanges], .inr (.inl ⟨hh, by rw [hreceive]; rfl⟩)⟩
    · obtain ⟨f, d₁, hsilent, hreceive, hexchanges₁, hstop₁⟩ :=
        receive_of_failure (j := { j with stage := .asked }) hs hh hformed (j.asked r d)
      refine ⟨d₁.acts r.probing, by simp [hexchanges₁, hexchanges],
        .inr (.inr ⟨hs, hh, ?_, f, hsilent, ?_⟩)⟩
      · simp [hstop₁, hstop, Desk.stop_acts, Round.acts, or_assoc]
      · rw [hreceive]
        rfl

end Job

/-! ## All rounds -/

section Run

variable {settings : Settings} {request : List UInt8} {d : Desk} {rounds : Nat → Round}

/-- Where a request stands that was not over after its first `n` attempts: nothing was spent but
what the attempts cost. -/
structure Underway (settings : Settings) (request : List UInt8) (d : Desk)
    (rounds : Nat → Round) (n : Nat) (j : Job) (d' : Desk) : Prop where
  request_eq : j.request = request
  stage_eq : j.stage = .ready (n == 0)
  common_eq : j.common + n = settings.commonRetries
  read_eq : j.read + silences rounds n = settings.readRetries
  stop_iff : d'.stop = true ↔
    d.stop = true ∨ .stop ∈ (List.range n).flatMap fun k => (rounds k).acts
  exchanges_eq : d'.exchanges = d.exchanges ++ exchangesOf request rounds n

theorem silences_succ (rounds : Nat → Round) (n : Nat) :
    silences rounds (n + 1) =
      silences rounds n + if (rounds n).answer.isSilent then 1 else 0 := by
  simp [silences, List.range_succ, List.countP_append, List.countP_singleton]

theorem exchangesOf_succ (request : List UInt8) (rounds : Nat → Round) (n : Nat) :
    exchangesOf request rounds (n + 1) =
      exchangesOf request rounds n ++ attemptExchanges request (rounds n).answer := by
  simp [exchangesOf, List.range_succ, List.flatMap_append]

theorem Underway.start (settings : Settings) (request : List UInt8) (d : Desk)
    (rounds : Nat → Round) :
    Underway settings request d rounds 0 (.start settings request) d where
  request_eq := rfl
  stage_eq := rfl
  common_eq := rfl
  read_eq := rfl
  stop_iff := by simp
  exchanges_eq := by simp [exchangesOf]

variable {n : Nat} {j : Job} {d' : Desk}

/-- A request that is not to stop may make another attempt. -/
theorem Underway.unstopped (h : Underway settings request d rounds n j d')
    (hgo : n = 0 ∨ ¬ StoppedAfter d rounds n) :
    (n == 0) = true ∨ (d'.acts (rounds n).before).stop = false := by
  rcases hgo with rfl | hgo
  · exact .inl rfl
  · refine .inr (Bool.eq_false_iff.mpr fun hs => hgo ?_)
    rw [Desk.stop_acts, h.stop_iff] at hs
    simpa [StoppedAfter, or_assoc] using hs

/-- One without budget, or one that is to stop, may not. -/
theorem Underway.isOver (h : Underway settings request d rounds n j d')
    (hover : j.common = 0 ∨ j.read = 0 ∨ n ≠ 0 ∧ StoppedAfter d rounds n) :
    j.exhausted = true ∨ (n == 0) = false ∧ (d'.acts (rounds n).before).stop = true := by
  rcases hover with hcommon | hread | ⟨hn, hstopped⟩
  · exact .inl (by simp [Job.exhausted, hcommon])
  · exact .inl (by simp [Job.exhausted, hread])
  · refine .inr ⟨by simpa using hn, ?_⟩
    rw [Desk.stop_acts, h.stop_iff]
    simpa [StoppedAfter, or_assoc] using hstopped

/-- The next attempt of a request that has budget left and is not to stop. -/
theorem Underway.next (hnoop : settings.noop = false)
    (h : Underway settings request d rounds n j d') (hcommon : j.common ≠ 0) (hread : j.read ≠ 0)
    (hgo : n = 0 ∨ ¬ StoppedAfter d rounds n) :
    ∃ d'', d''.exchanges = d.exchanges ++ exchangesOf request rounds (n + 1) ∧
      ((Settles request (rounds n).answer ∧
          Job.round settings (rounds n) (.underway j, d') = (.returned true, d'')) ∨
        (Hopeless request (rounds n).answer ∧
          Job.round settings (rounds n) (.underway j, d') = (.returned false, d'')) ∨
        (¬ Settles request (rounds n).answer ∧ ¬ Hopeless request (rounds n).answer ∧
          ∃ j', Job.round settings (rounds n) (.underway j, d') = (.underway j', d'') ∧
            Underway settings request d rounds (n + 1) j' d'')) := by
  have hleft : j.exhausted = false := by simp [Job.exhausted, hcommon, hread]
  obtain ⟨d'', hexchanges, hcases⟩ := Job.round_attempt hnoop h.stage_eq hleft (h.unstopped hgo)
  rw [h.request_eq] at hexchanges hcases
  have hall : d''.exchanges = d.exchanges ++ exchangesOf request rounds (n + 1) := by
    rw [hexchanges, h.exchanges_eq, exchangesOf_succ, List.append_assoc]
  refine ⟨d'', hall, ?_⟩
  rcases hcases with ⟨hs, hround⟩ | ⟨hh, hround⟩ | ⟨hs, hh, hstopped, f, hsilent, hround⟩
  · exact .inl ⟨hs, hround⟩
  · exact .inr (.inl ⟨hh, hround⟩)
  · refine .inr (.inr ⟨hs, hh, j.charge f, hround, ?_⟩)
    have hc := h.common_eq
    have hr := h.read_eq
    exact {
      request_eq := h.request_eq
      stage_eq := rfl
      common_eq := by
        show j.common - 1 + (n + 1) = settings.commonRetries
        omega
      read_eq := by
        show (if f.isShortRead then j.read - 1 else j.read) + silences rounds (n + 1) = _
        rw [silences_succ, hsilent]
        split <;> omega
      stop_iff := by
        rw [hstopped, h.stop_iff, List.range_succ, List.flatMap_append, List.mem_append, or_assoc]
        simp
      exchanges_eq := hall }

/-- A request without budget, or one that is to stop, makes no other attempt. -/
theorem Underway.over (h : Underway settings request d rounds n j d')
    (hover : j.common = 0 ∨ j.read = 0 ∨ n ≠ 0 ∧ StoppedAfter d rounds n) :
    ∃ d'', Job.round settings (rounds n) (.underway j, d') = (.returned false, d'') ∧
      d''.exchanges = d.exchanges ++ exchangesOf request rounds n := by
  rw [← h.exchanges_eq]
  exact Job.round_over h.stage_eq (h.isOver hover)

/-- A request that is underway after `n` rounds has made `n` attempts and paid for each of them. -/
theorem underway_of_after (hnoop : settings.noop = false)
    (h : Job.after settings request d rounds n = (.underway j, d')) :
    Underway settings request d rounds n j d' := by
  induction n generalizing j d' with
  | zero =>
    cases h
    exact .start settings request d rounds
  | succ n ih =>
    rw [Job.after] at h
    rcases hafter : Job.after settings request d rounds n with ⟨j₀ | ok, d₀⟩
    · have hunder := ih hafter
      rw [hafter] at h
      -- Had it been over, or the attempt the last, no request would be underway now.
      by_cases hover : j₀.common = 0 ∨ j₀.read = 0 ∨ n ≠ 0 ∧ StoppedAfter d rounds n
      · obtain ⟨d₁, hround, -⟩ := hunder.over hover
        rw [hround] at h
        cases h
      · simp only [not_or, not_and_or, not_not] at hover
        obtain ⟨hcommon, hread, hgo⟩ := hover
        obtain ⟨d₁, -, hcases⟩ := hunder.next hnoop hcommon hread hgo
        rcases hcases with ⟨-, hround⟩ | ⟨-, hround⟩ | ⟨-, -, j₁, hround, hnext⟩
        · rw [hround] at h
          cases h
        · rw [hround] at h
          cases h
        · rw [hround] at h
          cases h
          exact hnext
    · rw [hafter] at h
      cases h

theorem after_of_returned {ok : Bool} (h : Job.after settings request d rounds n = (.returned ok, d'))
    {k : Nat} (hk : n ≤ k) : Job.after settings request d rounds k = (.returned ok, d') := by
  induction hk with
  | refl => exact h
  | step _ ih => rw [Job.after, ih]; rfl

/-- What is left of the budgets before the last attempt. -/
theorem Underway.budget_left (h : Underway settings request d rounds n j d')
    (hcommon : settings.commonRetries ≠ 0) (hread : settings.readRetries ≠ 0)
    (hlast : ∀ m ≤ n, ¬ IsLastAttempt settings request d rounds m) :
    j.common ≠ 0 ∧ j.read ≠ 0 := by
  have hc := h.common_eq
  have hr := h.read_eq
  rcases Nat.eq_zero_or_pos n with rfl | hpos
  · simp only [silences, List.range_zero, List.countP_nil] at hr
    omega
  · have hunsettled : ∀ k < n, ¬ Settles request (rounds k).answer := fun k hk hs =>
      hlast (k + 1) hk ⟨by omega, .inl hs⟩
    have hspent := hlast n (Nat.le_refl n)
    constructor
    · intro hzero
      exact hspent ⟨hpos, .inr (.inr (.inl ⟨hunsettled, by omega⟩))⟩
    · intro hzero
      exact hspent ⟨hpos, .inr (.inr (.inr (.inl (by omega))))⟩

/-- A request that is still underway after its last attempt makes no other one. -/
theorem Underway.over_of_last (h : Underway settings request d rounds n j d')
    (hlast : IsLastAttempt settings request d rounds n)
    (hs : ¬ Settles request (rounds (n - 1)).answer)
    (hh : ¬ Hopeless request (rounds (n - 1)).answer) :
    j.common = 0 ∨ j.read = 0 ∨ n ≠ 0 ∧ StoppedAfter d rounds n := by
  have hc := h.common_eq
  have hr := h.read_eq
  obtain ⟨hpos, h₁ | h₁ | ⟨-, h₁⟩ | h₁ | h₁⟩ := hlast
  · exact absurd h₁ hs
  · exact absurd h₁ hh
  · exact .inl (by omega)
  · exact .inr (.inl (by omega))
  · exact .inr (.inr ⟨by omega, h₁⟩)

/-- The engine is not to stop before the last attempt is over. -/
theorem not_stoppedAfter (hlast : ¬ IsLastAttempt settings request d rounds n) :
    n = 0 ∨ ¬ StoppedAfter d rounds n := by
  rcases Nat.eq_zero_or_pos n with hzero | hpos
  · exact .inl hzero
  · exact .inr fun hstopped => hlast ⟨hpos, .inr (.inr (.inr (.inr hstopped)))⟩

/-- As long as no attempt was the last, the request is underway. -/
theorem after_of_not_last (hnoop : settings.noop = false) (hcommon : settings.commonRetries ≠ 0)
    (hread : settings.readRetries ≠ 0)
    (hlast : ∀ m ≤ n, ¬ IsLastAttempt settings request d rounds m) :
    ∃ j d', Job.after settings request d rounds n = (.underway j, d') := by
  induction n with
  | zero => exact ⟨_, _, rfl⟩
  | succ n ih =>
    have hbefore : ∀ m ≤ n, ¬ IsLastAttempt settings request d rounds m :=
      fun m hm => hlast m (Nat.le_succ_of_le hm)
    obtain ⟨j, d', hafter⟩ := ih hbefore
    have hunder := underway_of_after hnoop hafter
    obtain ⟨hc, hr⟩ := hunder.budget_left hcommon hread hbefore
    obtain ⟨d'', -, hcases⟩ :=
      hunder.next hnoop hc hr (not_stoppedAfter (hbefore n (Nat.le_refl n)))
    rw [Job.after, hafter]
    rcases hcases with ⟨hs, -⟩ | ⟨hh, -⟩ | ⟨-, -, j', hround, -⟩
    · exact absurd ⟨by omega, .inl hs⟩ (hlast (n + 1) (Nat.le_refl _))
    · exact absurd ⟨by omega, .inr (.inl hh)⟩ (hlast (n + 1) (Nat.le_refl _))
    · exact ⟨j', d'', hround⟩

variable (rounds) in
/-- After the last attempt the request is over, at the latest when the next one would begin. -/
theorem after_of_last (hnoop : settings.noop = false) (hcommon : settings.commonRetries ≠ 0)
    (hread : settings.readRetries ≠ 0) (hlast : IsLastAttempt settings request d rounds (n + 1))
    (hbefore : ∀ m ≤ n, ¬ IsLastAttempt settings request d rounds m) :
    ∃ ok d', Job.after settings request d rounds (n + 2) = (.returned ok, d') ∧
      (ok = true ↔ Settles request (rounds n).answer) ∧
      d'.exchanges = d.exchanges ++ exchangesOf request rounds (n + 1) ∧
      n + 1 ≤ settings.commonRetries ∧ silences rounds (n + 1) ≤ settings.readRetries := by
  obtain ⟨j, d₀, hafter⟩ := after_of_not_last hnoop hcommon hread hbefore
  have hunder := underway_of_after hnoop hafter
  obtain ⟨hc, hr⟩ := hunder.budget_left hcommon hread hbefore
  have hbounds : n + 1 ≤ settings.commonRetries ∧
      silences rounds (n + 1) ≤ settings.readRetries := by
    have hc' := hunder.common_eq
    have hr' := hunder.read_eq
    rw [silences_succ]
    split <;> omega
  obtain ⟨d', hexchanges, hcases⟩ :=
    hunder.next hnoop hc hr (not_stoppedAfter (hbefore n (Nat.le_refl n)))
  have hround : Job.after settings request d rounds (n + 1) =
      Job.round settings (rounds n) (.underway j, d₀) := by rw [Job.after, hafter]
  rcases hcases with ⟨hs, h⟩ | ⟨hh, h⟩ | ⟨hs, hh, j', h, hnext⟩
  · exact ⟨true, d', after_of_returned (hround.trans h) (Nat.le_succ _), by simp [hs], hexchanges,
      hbounds⟩
  · exact ⟨false, d', after_of_returned (hround.trans h) (Nat.le_succ _),
      by simp [not_settles_of_hopeless hh], hexchanges, hbounds⟩
  · obtain ⟨d'', hover, hexchanges'⟩ := hnext.over (hnext.over_of_last hlast hs hh)
    refine ⟨false, d'', ?_, by simp [hs], hexchanges', hbounds⟩
    rw [Job.after, hround, h, hover]

variable (request d rounds) in
/-- Some attempt is the last: at the latest the one that spends the budget. -/
theorem exists_isLastAttempt (hcommon : settings.commonRetries ≠ 0) :
    ∃ n, IsLastAttempt settings request d rounds n := by
  by_cases h : ∃ k < settings.commonRetries, Settles request (rounds k).answer
  · obtain ⟨k, -, hs⟩ := h
    exact ⟨k + 1, by omega, .inl hs⟩
  · exact ⟨settings.commonRetries, by omega,
      .inr (.inr (.inl ⟨fun k hk hs => h ⟨k, hk, hs⟩, rfl⟩))⟩

variable (request d rounds) in
/-- There is a first one of them. -/
theorem exists_lastAttempt (hcommon : settings.commonRetries ≠ 0) :
    ∃ n, IsLastAttempt settings request d rounds (n + 1) ∧
      ∀ m ≤ n, ¬ IsLastAttempt settings request d rounds m := by
  classical
  have hexists := exists_isLastAttempt request d rounds hcommon
  have hlast := Nat.find_spec hexists
  obtain ⟨n, hn⟩ : ∃ n, Nat.find hexists = n + 1 := ⟨Nat.find hexists - 1, by
    have := hlast.1
    omega⟩
  rw [hn] at hlast
  refine ⟨n, hlast, ?_⟩
  intro m hm
  exact Nat.find_min hexists (by omega)

end Run

/-- **A request gets exactly its attempts.** However the connection answers and whenever the
engine is told to stop, a request is over after the number of attempts that `AttemptsMade` gives,
and stays so; it has succeeded exactly if the last attempt was completed. What goes out is the
request once for each attempt, and a probe after each malformed answer. Number and outcome are
fixed before the answers to the probes are, and neither budget is ever overdrawn: what is left and
what was spent always add up. -/
theorem attempts_exact (settings : Settings) (hnoop : settings.noop = false)
    (request : List UInt8) (d : Desk) (rounds : Nat → Round) :
    ∃ n ok, AttemptsMade settings request d rounds n ∧
      (ok = true ↔ 1 ≤ n ∧ Settles request (rounds (n - 1)).answer) ∧
      n ≤ settings.commonRetries ∧ silences rounds n ≤ settings.readRetries ∧
      ∀ probes : Nat → Answer,
        (∃ d', (∀ k, n < k →
            Job.after settings request d (reprobed rounds probes) k = (.returned ok, d')) ∧
          d'.exchanges = d.exchanges ++ exchangesOf request rounds n) ∧
        ∀ k j d', Job.after settings request d (reprobed rounds probes) k = (.underway j, d') →
          j.request = request ∧ j.common + k = settings.commonRetries ∧
            j.read + silences rounds k = settings.readRetries := by
  have hcounters : ∀ (probes : Nat → Answer) k j d',
      Job.after settings request d (reprobed rounds probes) k = (.underway j, d') →
      j.request = request ∧ j.common + k = settings.commonRetries ∧
        j.read + silences rounds k = settings.readRetries := by
    intro probes k j d' h
    have hunder := underway_of_after hnoop h
    exact ⟨hunder.request_eq, hunder.common_eq, hunder.read_eq⟩
  by_cases hzero : settings.commonRetries = 0 ∨ settings.readRetries = 0
  · refine ⟨0, false, .inl ⟨hzero, rfl⟩, by simp, Nat.zero_le _, Nat.zero_le _, ?_⟩
    intro probes
    refine ⟨?_, hcounters probes⟩
    obtain ⟨d', hover, hexchanges⟩ :=
      (Underway.start settings request d (reprobed rounds probes)).over
        (hzero.elim .inl (.inr ∘ .inl))
    have hone : Job.after settings request d (reprobed rounds probes) 1 = (.returned false, d') :=
      hover
    exact ⟨d', fun k hk => after_of_returned hone hk, hexchanges⟩
  · obtain ⟨hcommon, hread⟩ := not_or.mp hzero
    obtain ⟨n, hlast, hbefore⟩ := exists_lastAttempt request d rounds hcommon
    -- `IsLastAttempt` does not look at the probes, so one number serves for all their answers.
    have hover : ∀ probes : Nat → Answer, _ := fun probes =>
      after_of_last (reprobed rounds probes) hnoop hcommon hread hlast hbefore
    obtain ⟨ok, -, -, hok, -, hbounds⟩ := hover fun k => (rounds k).probe
    refine ⟨n + 1, ok, .inr ⟨hcommon, hread, hlast, fun m hm => hbefore m (Nat.le_of_lt_succ hm)⟩,
      ?_, hbounds.1, hbounds.2, ?_⟩
    · rw [hok]
      exact ⟨fun hs => ⟨by omega, hs⟩, And.right⟩
    · intro probes
      refine ⟨?_, hcounters probes⟩
      obtain ⟨ok', d', hafter, hok', hexchanges, -⟩ := hover probes
      obtain rfl : ok' = ok := Bool.eq_iff_iff.mpr (hok'.trans hok.symm)
      exact ⟨d', fun k hk => after_of_returned hafter hk, hexchanges⟩

/-- A connection that garbles every answer; in the second attempt the engine is told to stop. -/
def garblingRounds (k : Nat) : Round where
  before := []
  asking := if k = 1 then [.stop] else []
  answer := .error (.badFrame (.badHeader 0x00 0xAB 0x00))
  probing := []
  probe := .error (.shortRead 5 0)

/-- The attempts of a request for the status over such a connection. -/
theorem attempts_exact_garbling :
    ({} : Settings).noop = false ∧
    ∃ n ok, AttemptsMade {} getInfoFrame.bytes .initial garblingRounds n ∧
      (ok = true ↔ 1 ≤ n ∧ Settles getInfoFrame.bytes (garblingRounds (n - 1)).answer) ∧
      n ≤ 5 ∧ silences garblingRounds n ≤ 5 ∧
      ∀ probes : Nat → Answer,
        (∃ d', (∀ k, n < k → Job.after {} getInfoFrame.bytes .initial
            (reprobed garblingRounds probes) k = (.returned ok, d')) ∧
          d'.exchanges = Desk.initial.exchanges ++
            exchangesOf getInfoFrame.bytes garblingRounds n) ∧
        ∀ k j d', Job.after {} getInfoFrame.bytes .initial (reprobed garblingRounds probes) k =
            (.underway j, d') →
          j.request = getInfoFrame.bytes ∧ j.common + k = 5 ∧
            j.read + silences garblingRounds k = 5 :=
  ⟨rfl, attempts_exact {} rfl getInfoFrame.bytes .initial garblingRounds⟩

end SerialHid
