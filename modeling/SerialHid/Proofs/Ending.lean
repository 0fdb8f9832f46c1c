/-
SerialHid.Proofs.Ending — how a request ends, and what its attempts left behind until then.

* `Lull` — what passes between two moments at which something is decided: nothing fails, and no
  error is told.
* `Round.Ends` — the ways in which an attempt ends, one constructor for each; by `Job.round_ends`
  there are no others.
* `failuresOf`, `netState` — the failures and the published state that belong to so many attempts,
  read off their answers.
* `Accounts` — the books of a request after so many attempts; `Accounts.ends` keeps them over one.
* `ended` — every request is over after its attempts, with these books.
-/
import SerialHid.Proofs.Retry

namespace SerialHid

/-! ## What an entry tells -/

/-- The failure of an attempt. -/
def Entry.failure? : Entry → Option Failure
  | .failed f => some f
  | _ => none

/-- The text of a line that tells an error. -/
def Entry.error? : Entry → Option String
  | .notice n => if n.level = .error then some n.text else none
  | _ => none

/-- The entry tells that no attempt is left. -/
def Entry.isExhausted : Entry → Bool
  | .notice (.exhausted _) => true
  | _ => false

/-- The entry is about no failure, and tells no error. -/
def Entry.isCalm (e : Entry) : Bool := e.failure?.isNone && e.error?.isNone

/-- The failures of attempts, the earliest first. -/
def Desk.failures (d : Desk) : List Failure := d.journal.reverse.filterMap Entry.failure?

@[simp] theorem Desk.failures_record (d : Desk) (e : Entry) :
    (d.record e).failures = d.failures ++ e.failure?.toList := by
  cases h : e.failure? <;> simp [failures, h]

@[simp] theorem Desk.failures_write (d : Desk) (change : DeviceState → DeviceState) :
    (d.write change).failures = d.failures := rfl

@[simp] theorem Desk.failures_notes (d : Desk) (ns : List Notice) :
    (d.notes ns).failures = d.failures := by
  simp [failures, Function.comp_def, Entry.failure?]

@[simp] theorem Job.failures_finish (j : Job) (ok : Bool) (d : Desk) :
    (j.finish ok d).2.failures = d.failures := by
  unfold finish
  cases j.exhausted <;> simp [Entry.failure?]

/-! ## Between two decisions -/

/-- Nothing fails and no error is told, whatever these acts of others are, and the state stays as
it was if none of them publishes another one. -/
structure Lull (others : List Act) (d d' : Desk) : Prop where
  adds : d.Adds Entry.isCalm d'
  state : (∀ s, .publish s ∉ others) → d'.state = d.state

section Lull

variable {others as : List Act} {d d' : Desk} {e : Entry}

theorem Lull.refl (others : List Act) (d : Desk) : Lull others d d := ⟨.of_eq rfl, fun _ => rfl⟩

theorem Lull.acts (h : Lull others d d') (has : as ⊆ others) : Lull others d (d'.acts as) where
  adds := by
    refine h.adds.trans ((d'.adds_acts as).mono fun e he => ?_)
    cases e <;> first | rfl | cases he
  state := by
    intro halone
    rw [Desk.state_acts d' fun s hs => halone s (has hs), h.state halone]

theorem Lull.record (h : Lull others d d') (he : e.isCalm = true) : Lull others d (d'.record e) :=
  ⟨h.adds.record e he, h.state⟩

theorem Lull.tell (h : Lull others d d') (j : Job) (a : Answer) : Lull others d (j.tell a d') where
  adds := h.adds.tell_of (fun _ _ => rfl) j a
  state := by simpa using h.state

theorem Lull.failures_eq (h : Lull others d d') : d'.failures = d.failures := by
  refine h.adds.filterMap_eq fun e he => ?_
  simpa using ((Bool.and_eq_true ..).mp he).1

theorem Lull.unspent (h : Lull others d d') : d.Adds (fun e => !e.isExhausted) d' := by
  refine h.adds.mono fun e he => ?_
  cases e with
  | notice n => cases n <;> first | rfl | cases he
  | _ => rfl

end Lull

/-! ## One attempt -/

/-- The answers that fail an attempt, though another one may help. -/
def Temporary (request : List UInt8) (a : Answer) : Prop :=
  ¬ Settles request a ∧ ¬ Hopeless request a

instance (request : List UInt8) (a : Answer) : Decidable (Temporary request a) :=
  inferInstanceAs (Decidable (_ ∧ _))

/-- The failure that an attempt came to, if it failed. -/
def Verdict.failure? : Verdict → Option Failure
  | failed f => some f
  | _ => none

/-- The state that an attempt leaves behind. -/
def Verdict.apply : Verdict → DeviceState → DeviceState
  | settled, s => s
  | status told, _ => .setStatus told.online told.leds
  | failed f, s => if f.isPermanent then s else s.setOnline false

theorem not_settles_of_failed {request : List UInt8} {a : Answer} {f : Failure}
    (hjudge : judge request a = .failed f) : ¬ Settles request a := by
  rw [← judge_isSuccess_iff, hjudge]
  exact Bool.false_ne_true

theorem temporary_iff_of_failed {request : List UInt8} {a : Answer} {f : Failure}
    (hjudge : judge request a = .failed f) : Temporary request a ↔ f.isPermanent = false := by
  rw [Temporary, ← (judge_failed hjudge).1]
  simp [not_settles_of_failed hjudge]

theorem Verdict.apply_of_permanent {f : Failure} (hf : f.isPermanent = true) :
    (failed f).apply = id := by
  funext s
  simp [apply, hf]

theorem Verdict.apply_of_temporary {f : Failure} (hf : f.isPermanent = false) :
    (failed f).apply = (·.setOnline false) := by
  funext s
  simp [apply, hf]

/-- The desk after an attempt that failed. -/
def Job.spend (j : Job) (f : Failure) (d : Desk) : Desk :=
  ((d.record (.failed f)).notes ((j.burst.record f).1.map .attemptFailed)).write
    (Verdict.failed f).apply

/-- The ways in which an attempt ends, and what is then done. -/
inductive Round.Ends (r : Round) (j : Job) (d : Desk) : Progress × Desk → Prop where
  | completed (d₁ : Desk) (hsuccess : (judge j.request r.answer).isSuccess = true)
      (hlull : Lull r.acts d d₁) :
      Ends r j d (j.finish true (d₁.write (judge j.request r.answer).apply))
  /-- The attempt failed for good. -/
  | hopeless (f : Failure) (d₁ : Desk) (hjudge : judge j.request r.answer = .failed f)
      (hf : f.isPermanent = true) (hlull : Lull r.acts d d₁) :
      Ends r j d ((j.charge f).finish false (j.spend f d₁))
  /-- The attempt failed; others may act before the next one. -/
  | failed (f : Failure) (d₁ : Desk) (as : List Act) (hjudge : judge j.request r.answer = .failed f)
      (hf : f.isPermanent = false) (hlull : Lull r.acts d d₁) (has : as ⊆ r.acts) :
      Ends r j d (.underway (j.charge f), (j.spend f d₁).acts as)

namespace Job

variable {settings : Settings} {j : Job} {d : Desk} {r : Round} {f : Failure}

theorem fail_eq (j : Job) (f : Failure) (d : Desk) :
    j.fail f d = if f.isPermanent then (j.charge f).finish false (j.spend f d)
      else (.underway (j.charge f), j.spend f d) := by
  unfold fail spend
  cases hf : f.isPermanent with
  | true =>
    rw [Verdict.apply_of_permanent hf]
    rfl
  | false =>
    rw [Verdict.apply_of_temporary hf]
    rfl

/-- A request that is over stays as it is. -/
theorem carry_fail_of_permanent (hf : f.isPermanent = true) (as : List Act) (i : Input) (j : Job)
    (d : Desk) :
    carry settings as i (j.fail f d) = (j.charge f).finish false (j.spend f d) := by
  rw [fail_eq, if_pos hf]
  rfl

/-- One that is not waits for no answer. -/
theorem carry_fail_of_temporary (hf : f.isPermanent = false) (as : List Act) (a : Answer) (j : Job)
    (d : Desk) :
    carry settings as (.answer a) (j.fail f d) =
      (.underway (j.charge f), (j.spend f d).acts as) := by
  rw [fail_eq, if_neg (by simp [hf])]
  rfl

theorem lull_asked (j : Job) (r : Round) (d : Desk) : Lull r.acts d (j.asked r d) := by
  have hbefore : Lull r.acts d (d.acts r.before) :=
    (Lull.refl r.acts d).acts (by simp [Round.acts])
  have hsent := hbefore.record (e := .sent j.request false (d.acts r.before).state) rfl
  exact hsent.acts (by simp [Round.acts])

/-- Where no other attempt can be made, the request is given up. -/
theorem round_gives_up {first : Bool} (hstage : j.stage = .ready first)
    (hover : j.exhausted = true ∨ first = false ∧ (d.acts r.before).stop = true) :
    ∃ d₁, Lull r.acts d d₁ ∧ round settings r (.underway j, d) = j.finish false d₁ := by
  obtain ⟨d₁, hd, hround⟩ := round_eq_finish hstage hover
  refine ⟨d₁, ?_, hround⟩
  have hbefore : Lull r.acts d (d.acts r.before) :=
    (Lull.refl r.acts d).acts (by simp [Round.acts])
  rcases hd with rfl | rfl
  · exact hbefore
  · exact hbefore.record rfl

/-- A request is pretended without an attempt, unless it has no budget. -/
theorem round_pretended (hnoop : settings.noop = true) (hstage : j.stage = .ready true) (r : Round)
    (d : Desk) :
    round settings r (.underway j, d) = if j.exhausted then j.finish false (d.acts r.before)
      else j.finish true (((d.acts r.before).write (·.pretend)).record .pretended) := by
  cases hspent : j.exhausted <;>
    simp [round, carry, step?, hstage, attempt, hspent, hnoop, finish]

/-- Where one can be made, it is, and it ends in one of these ways. -/
theorem round_ends {first : Bool} (hnoop : settings.noop = false) (hstage : j.stage = .ready first)
    (hleft : j.exhausted = false) (hgo : first = true ∨ (d.acts r.before).stop = false) :
    r.Ends j d (round settings r (.underway j, d)) := by
  have htold := (lull_asked j r d).tell j r.answer
  have hprobing : r.probing ⊆ r.acts := by simp [Round.acts]
  rw [round_eq hnoop hstage hleft hgo]
  unfold receive
  cases hjudge : judge j.request r.answer with
  | settled =>
    have hends := Round.Ends.completed (j := j) (j.tell r.answer (j.asked r d))
      (by rw [hjudge]; rfl) htold
    rwa [hjudge] at hends
  | status s =>
    have htold' := (htold.record (e := .notice (.firmware s.version)) rfl).record
      (e := .accepted s) rfl
    have hends := Round.Ends.completed (j := j) _ (by rw [hjudge]; rfl) htold'
    rwa [hjudge] at hends
  | failed f =>
    by_cases hgarbled : f.isGarbled = true
    · have hf : f.isPermanent = false := by
        cases f <;> first | rfl | exact absurd hgarbled Bool.false_ne_true
      have hprobe := (htold.record
        (e := .sent getInfoFrame.bytes true (j.tell r.answer (j.asked r d)).state) rfl).acts hprobing
      simp only [hgarbled, if_true, carry, step?, Option.getD_some]
      cases r.probe with
      | ok response =>
        rw [resume, fail_eq, if_neg (by simp [hf])]
        exact .failed f _ [] hjudge hf hprobe (List.nil_subset _)
      | error e =>
        rw [resume, fail_eq, if_neg (by simp [hf])]
        exact .failed f _ [] hjudge hf (hprobe.record rfl) (List.nil_subset _)
    · simp only [hgarbled, Bool.false_eq_true, if_false]
      cases hf : f.isPermanent with
      | true =>
        rw [carry_fail_of_permanent hf]
        exact .hopeless f _ hjudge hf htold
      | false =>
        rw [carry_fail_of_temporary hf]
        exact .failed f _ r.probing hjudge hf htold hprobing

end Job

/-! ## All attempts -/

section Spec

variable (settings : Settings) (request : List UInt8) (d : Desk) (rounds : Nat → Round)

/-- The failures of the first `n` attempts. -/
def failuresOf (n : Nat) : List Failure :=
  (List.range n).filterMap fun k => (judge request (rounds k).answer).failure?

/-- The state after the first `n` attempts, if nobody else publishes one. -/
def netState (s : DeviceState) (n : Nat) : DeviceState :=
  (List.range n).foldl (fun s k => (judge request (rounds k).answer).apply s) s

/-- The number of attempts; none if requests are only pretended. -/
def Attempted (n : Nat) : Prop :=
  if settings.noop then n = 0 else AttemptsMade settings request d rounds n

end Spec

/-- The books of a request after so many attempts: what is left of its budgets and what it spent
add up, its failures are in the journal, and the state is what the attempts made of it. -/
structure Accounts (settings : Settings) (request : List UInt8) (d : Desk)
    (rounds : Nat → Round) (n : Nat) (j : Job) (d' : Desk) : Prop where
  request_eq : j.request = request
  common_eq : j.common + (failuresOf request rounds n).length = settings.commonRetries
  read_eq : j.read + silences rounds n = settings.readRetries
  failures_eq : d'.failures = d.failures ++ failuresOf request rounds n
  unspent : d.Adds (fun e => !e.isExhausted) d'
  state_eq : settings.noop = false → (∀ k s, .publish s ∉ (rounds k).acts) →
    d'.state = netState request rounds d.state n

section Run

variable {settings : Settings} {request : List UInt8} {d d' d₁ : Desk} {rounds : Nat → Round}
  {n : Nat} {j j' : Job} {pd : Progress × Desk}

theorem failuresOf_succ (request : List UInt8) (rounds : Nat → Round) (n : Nat) :
    failuresOf request rounds (n + 1) = failuresOf request rounds n ++
      (judge request (rounds n).answer).failure?.toList := by
  rw [failuresOf, List.range_succ, List.filterMap_append]
  cases h : (judge request (rounds n).answer).failure? <;> simp [failuresOf, h]

theorem length_failuresOf (h : ∀ k < n, ¬ Settles request (rounds k).answer) :
    (failuresOf request rounds n).length = n := by
  induction n with
  | zero => rfl
  | succ n ih =>
    obtain ⟨f, hjudge⟩ := Job.judge_of_not_settles (h n (Nat.lt_succ_self n))
    have hbefore := ih fun k hk => h k (Nat.lt_succ_of_lt hk)
    simp [failuresOf_succ, hjudge, Verdict.failure?, hbefore]

theorem netState_succ (request : List UInt8) (rounds : Nat → Round) (s : DeviceState) (n : Nat) :
    netState request rounds s (n + 1) =
      (judge request (rounds n).answer).apply (netState request rounds s n) := by
  rw [netState, List.range_succ, List.foldl_append]
  rfl

namespace Accounts

theorem start (settings : Settings) (request : List UInt8) (d : Desk) (rounds : Nat → Round) :
    Accounts settings request d rounds 0 (.start settings request) d where
  request_eq := rfl
  common_eq := rfl
  read_eq := rfl
  failures_eq := by simp [failuresOf]
  unspent := .of_eq rfl
  state_eq := fun _ _ => rfl

/-- While nothing is decided, the books stay as they are. -/
theorem lull (h : Accounts settings request d rounds n j d') {k : Nat}
    (hlull : Lull (rounds k).acts d' d₁) : Accounts settings request d rounds n j d₁ :=
  { h with
    failures_eq := by rw [hlull.failures_eq, h.failures_eq]
    unspent := h.unspent.trans hlull.unspent
    state_eq := by
      intro hnoop halone
      rw [hlull.state (halone k), h.state_eq hnoop halone] }

theorem acts (h : Accounts settings request d rounds n j d') {k : Nat} {as : List Act}
    (has : as ⊆ (rounds k).acts) : Accounts settings request d rounds n j (d'.acts as) :=
  h.lull ((Lull.refl (rounds k).acts d').acts has)

/-- An attempt that is completed costs nothing. -/
theorem complete (h : Accounts settings request d rounds n j d')
    (hsuccess : (judge request (rounds n).answer).isSuccess = true) :
    Accounts settings request d rounds (n + 1) j
      (d'.write (judge request (rounds n).answer).apply) := by
  have hnone : (judge request (rounds n).answer).failure? = none := by
    cases hjudge : judge request (rounds n).answer with
    | failed f => simp [hjudge, Verdict.isSuccess] at hsuccess
    | _ => rfl
  have hheard := not_silent_of_settles ((judge_isSuccess_iff request _).mp hsuccess)
  have hfailures : failuresOf request rounds (n + 1) = failuresOf request rounds n := by
    simp [failuresOf_succ, hnone]
  exact {
    request_eq := h.request_eq
    common_eq := by rw [hfailures, h.common_eq]
    read_eq := by simp [silences_succ, hheard, h.read_eq]
    failures_eq := by rw [hfailures, ← h.failures_eq, Desk.failures_write]
    unspent := h.unspent.write _
    state_eq := by
      intro hnoop halone
      simp [netState_succ, h.state_eq hnoop halone] }

/-- One that failed is charged, and its failure told of. -/
theorem charge (h : Accounts settings request d rounds n j d') (hleft : j.exhausted = false)
    {f : Failure} (hjudge : judge request (rounds n).answer = .failed f) :
    Accounts settings request d rounds (n + 1) (j.charge f) (j.spend f d') := by
  have hfailures : failuresOf request rounds (n + 1) = failuresOf request rounds n ++ [f] := by
    simp [failuresOf_succ, hjudge, Verdict.failure?]
  obtain ⟨hcommon, hread⟩ : j.common ≠ 0 ∧ j.read ≠ 0 := by simpa [Job.exhausted] using hleft
  have hsilent := (judge_failed hjudge).2.1
  exact {
    request_eq := h.request_eq
    common_eq := by
      have hc := h.common_eq
      show j.common - 1 + _ = _
      rw [hfailures, List.length_append, List.length_singleton]
      omega
    read_eq := by
      have hr := h.read_eq
      show (if f.isShortRead then j.read - 1 else j.read) + _ = _
      rw [silences_succ, hsilent]
      split <;> omega
    failures_eq := by
      rw [hfailures, ← List.append_assoc, ← h.failures_eq]
      simp [Job.spend, Entry.failure?]
    unspent := by
      refine ((h.unspent.record (.failed f) rfl).notes_of_mem fun m hm => ?_).write _
      obtain ⟨f', -, rfl⟩ := List.mem_map.mp hm
      rfl
    state_eq := by
      intro hnoop halone
      rw [netState_succ, hjudge, ← h.state_eq hnoop halone]
      simp [Job.spend] }

end Accounts

/-- What an attempt does to the books: it closes them, or leaves the request underway. -/
theorem Accounts.ends (h : Accounts settings request d rounds n j d')
    (hleft : j.exhausted = false) (hends : (rounds n).Ends j d' pd) :
    (∃ ok j' d₁, pd = j'.finish ok d₁ ∧ Accounts settings request d rounds (n + 1) j' d₁ ∧
      (ok = true ↔ Settles request (rounds n).answer) ∧ (ok = true → j'.exhausted = false)) ∨
    Temporary request (rounds n).answer ∧
      ∃ j' d₁, pd = (.underway j', d₁) ∧ Accounts settings request d rounds (n + 1) j' d₁ := by
  cases hends with
  | completed d₁ hsuccess hlull =>
    rw [h.request_eq] at hsuccess ⊢
    have hsettles := (judge_isSuccess_iff request _).mp hsuccess
    exact .inl ⟨true, j, _, rfl, (h.lull hlull).complete hsuccess, by simp [hsettles],
      fun _ => hleft⟩
  | hopeless f d₁ hjudge hf hlull =>
    rw [h.request_eq] at hjudge
    exact .inl ⟨false, j.charge f, _, rfl, (h.lull hlull).charge hleft hjudge,
      by simp [not_settles_of_failed hjudge], nofun⟩
  | failed f d₁ as hjudge hf hlull has =>
    rw [h.request_eq] at hjudge
    exact .inr ⟨(temporary_iff_of_failed hjudge).mpr hf, j.charge f, _, rfl,
      ((h.lull hlull).charge hleft hjudge).acts has⟩

/-- The next round of a request that may make no other attempt. -/
theorem Accounts.over (h : Accounts settings request d rounds n j d')
    (hunder : Underway settings request d rounds n j d')
    (hover : j.common = 0 ∨ j.read = 0 ∨ n ≠ 0 ∧ StoppedAfter d rounds n) :
    ∃ d₁, Job.round settings (rounds n) (.underway j, d') = j.finish false d₁ ∧
      Accounts settings request d rounds n j d₁ := by
  obtain ⟨d₁, hlull, hround⟩ := Job.round_gives_up hunder.stage_eq (hunder.isOver hover)
  exact ⟨d₁, hround, h.lull hlull⟩

/-- The next round of one that may. -/
theorem Accounts.next (h : Accounts settings request d rounds n j d')
    (hnoop : settings.noop = false) (hunder : Underway settings request d rounds n j d')
    (hcommon : j.common ≠ 0) (hread : j.read ≠ 0) (hgo : n = 0 ∨ ¬ StoppedAfter d rounds n) :
    (∃ ok j' d₁, Job.round settings (rounds n) (.underway j, d') = j'.finish ok d₁ ∧
      Accounts settings request d rounds (n + 1) j' d₁ ∧
      (ok = true ↔ Settles request (rounds n).answer) ∧ (ok = true → j'.exhausted = false)) ∨
    Temporary request (rounds n).answer ∧
      ∃ j' d₁, Job.round settings (rounds n) (.underway j, d') = (.underway j', d₁) ∧
        Accounts settings request d rounds (n + 1) j' d₁ := by
  have hleft : j.exhausted = false := by simp [Job.exhausted, hcommon, hread]
  exact h.ends hleft (Job.round_ends hnoop hunder.stage_eq hleft (hunder.unstopped hgo))

/-- The books of a request that is underway. -/
theorem accounts_of_after (hnoop : settings.noop = false)
    (h : Job.after settings request d rounds n = (.underway j, d')) :
    Accounts settings request d rounds n j d' := by
  induction n generalizing j d' with
  | zero =>
    cases h
    exact .start settings request d rounds
  | succ n ih =>
    rw [Job.after] at h
    rcases hafter : Job.after settings request d rounds n with ⟨j₀ | ok, d₀⟩
    · have hunder := underway_of_after hnoop hafter
      rw [hafter] at h
      by_cases hover : j₀.common = 0 ∨ j₀.read = 0 ∨ n ≠ 0 ∧ StoppedAfter d rounds n
      · obtain ⟨d₁, hround, -⟩ := (ih hafter).over hunder hover
        rw [hround] at h
        cases h
      · simp only [not_or, not_and_or, not_not] at hover
        obtain ⟨hcommon, hread, hgo⟩ := hover
        obtain ⟨ok, j', d₁, hround, -⟩ | ⟨-, j', d₁, hround, haccounts⟩ :=
          (ih hafter).next hnoop hunder hcommon hread hgo
        · rw [hround] at h
          cases h
        · rw [hround] at h
          cases h
          exact haccounts
    · rw [hafter] at h
      cases h

/-- A request is over after `n` attempts, with these books; it succeeded if the last attempt did,
or if it was pretended. -/
structure Ended (settings : Settings) (request : List UInt8) (d : Desk) (rounds : Nat → Round)
    (n : Nat) (ok : Bool) (j : Job) (d₁ : Desk) : Prop where
  attempted : Attempted settings request d rounds n
  after_eq : ∀ k, n < k → Job.after settings request d rounds k = j.finish ok d₁
  accounts : Accounts settings request d rounds n j d₁
  ok_iff : ok = true ↔ settings.noop = true ∧ j.exhausted = false ∨
    1 ≤ n ∧ Settles request (rounds (n - 1)).answer
  left : ok = true → j.exhausted = false

/-- No attempt but the last one decides the request. -/
theorem Attempted.undecided (h : Attempted settings request d rounds n) {k : Nat}
    (hk : k + 1 < n) : Temporary request (rounds k).answer := by
  unfold Attempted at h
  split at h
  · omega
  obtain ⟨-, hzero⟩ | ⟨-, -, -, hbefore⟩ := h
  · omega
  have hlast := hbefore (k + 1) hk
  exact ⟨fun hs => hlast ⟨by omega, .inl hs⟩, fun hh => hlast ⟨by omega, .inr (.inl hh)⟩⟩

/-- An attempt that is completed is the last one of a request that succeeds. -/
theorem Ended.ok_of_settles {ok : Bool} (h : Ended settings request d rounds n ok j d₁) {k : Nat}
    (hk : k < n) (hsettles : Settles request (rounds k).answer) : ok = true := by
  have hlast : ¬ k + 1 < n := fun hlt => (h.attempted.undecided hlt).1 hsettles
  obtain rfl : k = n - 1 := by omega
  exact h.ok_iff.mpr (.inr ⟨by omega, hsettles⟩)

/-- A request that is pretended is over before any attempt. -/
theorem ended_pretended (hnoop : settings.noop = true) (request : List UInt8) (d : Desk)
    (rounds : Nat → Round) : ∃ ok j d₁, Ended settings request d rounds 0 ok j d₁ := by
  have hbefore : (rounds 0).before ⊆ (rounds 0).acts := by simp [Round.acts]
  have hstart := (Accounts.start settings request d rounds).acts hbefore
  have hone {ok : Bool} {d₁ : Desk}
      (h : Job.round settings (rounds 0) (.underway (.start settings request), d) =
        (Job.start settings request).finish ok d₁) :
      ∀ k, 0 < k → Job.after settings request d rounds k =
        (Job.start settings request).finish ok d₁ :=
    fun k hk => after_of_returned (n := 1) h hk
  rw [Job.round_pretended hnoop rfl] at hone
  by_cases hspent : (Job.start settings request).exhausted = true
  · exact ⟨false, _, _, {
      attempted := by simp [Attempted, hnoop]
      after_eq := hone (if_pos hspent)
      accounts := hstart
      ok_iff := by simp [hspent]
      left := by simp }⟩
  · have hleft : (Job.start settings request).exhausted = false := by simpa using hspent
    exact ⟨true, _, _, {
      attempted := by simp [Attempted, hnoop]
      after_eq := hone (if_neg hspent)
      accounts := { hstart with
        failures_eq := by simpa [Entry.failure?] using hstart.failures_eq
        unspent := (hstart.unspent.write _).record _ rfl
        state_eq := by simp [hnoop] }
      ok_iff := by simp [hnoop, hleft]
      left := fun _ => hleft }⟩

/-- One that is sent is over after the attempts that its budgets allow. -/
theorem ended_sent (hnoop : settings.noop = false) (request : List UInt8) (d : Desk)
    (rounds : Nat → Round) : ∃ n ok j d₁, Ended settings request d rounds n ok j d₁ := by
  have hattempted {n : Nat} (h : AttemptsMade settings request d rounds n) :
      Attempted settings request d rounds n := by simpa [Attempted, hnoop] using h
  by_cases hzero : settings.commonRetries = 0 ∨ settings.readRetries = 0
  · obtain ⟨d₁, hround, haccounts⟩ := (Accounts.start settings request d rounds).over
      (.start settings request d rounds) (hzero.elim .inl (.inr ∘ .inl))
    exact ⟨0, false, _, d₁, {
      attempted := hattempted (.inl ⟨hzero, rfl⟩)
      after_eq := fun k hk => after_of_returned (n := 1) hround hk
      accounts := haccounts
      ok_iff := by simp [hnoop]
      left := by simp }⟩
  · obtain ⟨hcommon, hread⟩ := not_or.mp hzero
    obtain ⟨n, hlast, hbefore⟩ := exists_lastAttempt request d rounds hcommon
    have hmade := hattempted (.inr ⟨hcommon, hread, hlast,
      fun m hm => hbefore m (Nat.le_of_lt_succ hm)⟩)
    obtain ⟨j, d₀, hafter⟩ := after_of_not_last hnoop hcommon hread hbefore
    have hunder := underway_of_after hnoop hafter
    obtain ⟨hc, hr⟩ := hunder.budget_left hcommon hread hbefore
    have hgo := not_stoppedAfter (hbefore n (Nat.le_refl n))
    have hround : Job.after settings request d rounds (n + 1) =
        Job.round settings (rounds n) (.underway j, d₀) := by rw [Job.after, hafter]
    obtain ⟨ok, j', d₁, h, haccounts, hok, hleft⟩ | ⟨⟨hs, hh⟩, j', d₁, h, haccounts⟩ :=
      (accounts_of_after hnoop hafter).next hnoop hunder hc hr hgo
    · exact ⟨n + 1, ok, j', d₁, {
        attempted := hmade
        after_eq := fun k hk => after_of_returned (hround.trans h) (by omega)
        accounts := haccounts
        ok_iff := by simp [hnoop, hok]
        left := hleft }⟩
    · -- The attempt failed, and was the last: the next round finds nothing else to do.
      rw [h] at hround
      have hunder' := underway_of_after hnoop hround
      obtain ⟨d₂, hround', haccounts'⟩ :=
        haccounts.over hunder' (hunder'.over_of_last hlast hs hh)
      refine ⟨n + 1, false, j', d₂, {
        attempted := hmade
        after_eq := fun k hk => after_of_returned (n := n + 2) ?_ hk
        accounts := haccounts'
        ok_iff := by simp [hnoop, hs]
        left := by simp }⟩
      rw [Job.after, hround, hround']
      rfl

/-- **Every request ends**, after just these attempts. -/
theorem ended (settings : Settings) (request : List UInt8) (d : Desk) (rounds : Nat → Round) :
    ∃ n ok j d₁, Ended settings request d rounds n ok j d₁ := by
  cases hnoop : settings.noop with
  | true => exact ⟨0, ended_pretended hnoop request d rounds⟩
  | false => exact ended_sent hnoop request d rounds

end Run

end SerialHid
