/-
SerialHid.Proofs.Report — what the log tells of the failures of a request, and when.

* `failuresIn`, `errorsIn`, `attemptsIn` — what a stretch of the journal holds.
* `Paced` — before every exchange stand just the messages that are due by then.
* `Log` — what the journal holds since a request began; one lemma for each way in which it grows.
* `Told` — what it holds of a request that is underway, and of one that is over; kept by every step
  (`told_of_turn`), and so after every number of rounds (`told_after`).
* `failures_told` — all messages are told, once and in order, none too early and none too late.

The journal records the failures themselves, next to the lines that tell them. `Paced` compares
the two at every exchange, so it can be kept step by step, without a look at the answers to come.
-/
import SerialHid.Proofs.Burst
import SerialHid.Proofs.Ending

namespace SerialHid

/-! ## Stretches of the journal -/

/-- A request goes out that is no probe. -/
def Entry.isAttempt : Entry → Bool
  | .sent _ probe _ => !probe
  | _ => false

/-- The entry is about no failure, tells no error, and is no exchange. -/
def Entry.isQuiet (e : Entry) : Bool := e.isCalm && e.request?.isNone

def failuresIn (w : List Entry) : List Failure := w.filterMap Entry.failure?

def errorsIn (w : List Entry) : List String := w.filterMap Entry.error?

def attemptsIn (w : List Entry) : Nat := w.countP Entry.isAttempt

/-- The lines that are due while a request is underway, if it failed in these ways so far. -/
def dueErrors (threshold : Nat) (failures : List Failure) : List String :=
  (Burst.told threshold failures).map Failure.message

/-- What stands before an exchange: one failure for each attempt that is over, and the lines that
are due for them. -/
structure Prompt (threshold : Nat) (before : List Entry) (probe : Bool) : Prop where
  attempts_eq : attemptsIn before = (failuresIn before).length + probe.toNat
  errors_eq : errorsIn before = dueErrors threshold (failuresIn before)

/-- Before every exchange stands what is due by then. -/
def Paced (threshold : Nat) (w : List Entry) : Prop :=
  ∀ before request probe s, before ++ [.sent request probe s] <+: w → Prompt threshold before probe

section Stretch

variable {threshold : Nat} {w es : List Entry} {e : Entry}

@[simp] theorem failuresIn_notices (ns : List Notice) : failuresIn (ns.map .notice) = [] := by
  simp [failuresIn, Entry.failure?]

@[simp] theorem errorsIn_attemptFailed (failures : List Failure) :
    errorsIn ((failures.map Notice.attemptFailed).map .notice) = failures.map Failure.message := by
  have htext : ∀ f, Entry.error? (.notice (.attemptFailed f)) = some f.message := fun _ => rfl
  simp [errorsIn, Function.comp_def, htext]

theorem isAttempt_of_unsent (h : e.request? = none) : e.isAttempt = false := by
  cases e <;> first | rfl | cases h

theorem attemptsIn_of_unsent (h : ∀ e ∈ es, e.request? = none) : attemptsIn es = 0 := by
  rw [attemptsIn, List.countP_eq_zero]
  intro e he
  simp [isAttempt_of_unsent (h e he)]

theorem Paced.concat (h : Paced threshold w)
    (he : ∀ request probe s, e = .sent request probe s → Prompt threshold w probe) :
    Paced threshold (w ++ [e]) := by
  intro before request probe s hbefore
  rcases List.prefix_concat_iff.mp hbefore with heq | hearlier
  · obtain ⟨rfl, hlast⟩ := List.append_inj' heq rfl
    exact he request probe s (List.singleton_inj.mp hlast).symm
  · exact h before request probe s hearlier

/-- What is no exchange stands before none. -/
theorem Paced.append (h : Paced threshold w) (hes : ∀ e ∈ es, e.request? = none) :
    Paced threshold (w ++ es) := by
  induction es generalizing w with
  | nil => simpa using h
  | cons e es ih =>
    have hunsent := hes e List.mem_cons_self
    rw [← List.singleton_append, ← List.append_assoc]
    refine ih (h.concat fun request probe s heq => ?_) fun e he => hes e (List.mem_cons_of_mem _ he)
    rw [heq] at hunsent
    cases hunsent

end Stretch

/-! ## The journal since a request began -/

/-- Since `d₀` the journal holds these failures, these error lines and so many attempts, and every
exchange came when it should. -/
def Log (threshold : Nat) (d₀ : Desk) (failures : List Failure) (errors : List String)
    (attempts : Nat) (d : Desk) : Prop :=
  ∃ w, d.journal = w.reverse ++ d₀.journal ∧ failuresIn w = failures ∧ errorsIn w = errors ∧
    attemptsIn w = attempts ∧ Paced threshold w

namespace Log

variable {threshold : Nat} {d₀ d d' : Desk} {failures : List Failure} {errors : List String}
  {attempts : Nat}

theorem refl (threshold : Nat) (d : Desk) : Log threshold d [] [] 0 d := by
  refine ⟨[], rfl, rfl, rfl, rfl, ?_⟩
  intro before request probe s hbefore
  simp at hbefore

/-- More entries, none of which is an exchange. -/
theorem append (h : Log threshold d₀ failures errors attempts d) (es : List Entry) (d' : Desk)
    (hjournal : d'.journal = es.reverse ++ d.journal) (hunsent : ∀ e ∈ es, e.request? = none) :
    Log threshold d₀ (failures ++ failuresIn es) (errors ++ errorsIn es) attempts d' := by
  obtain ⟨w, hw, rfl, rfl, rfl, hpaced⟩ := h
  refine ⟨w ++ es, ?_, List.filterMap_append, List.filterMap_append, ?_, hpaced.append hunsent⟩
  · rw [hjournal, hw, List.reverse_append, List.append_assoc]
  · have hnone : es.countP Entry.isAttempt = 0 := attemptsIn_of_unsent hunsent
    rw [attemptsIn, List.countP_append, hnone]
    rfl

/-- Entries that do not matter here. -/
theorem quiet (h : Log threshold d₀ failures errors attempts d) (hadds : d.Adds Entry.isQuiet d') :
    Log threshold d₀ failures errors attempts d' := by
  obtain ⟨added, hadded, hquiet⟩ := hadds
  have hnone : ∀ e ∈ added.reverse,
      e.failure? = none ∧ e.error? = none ∧ e.request? = none := by
    intro e he
    simpa [Entry.isQuiet, Entry.isCalm, and_assoc] using hquiet e (List.mem_reverse.mp he)
  have hfailures : failuresIn added.reverse = [] :=
    List.filterMap_eq_nil_iff.mpr fun e he => (hnone e he).1
  have herrors : errorsIn added.reverse = [] :=
    List.filterMap_eq_nil_iff.mpr fun e he => (hnone e he).2.1
  have hlog := h.append added.reverse d' (by rw [List.reverse_reverse, hadded])
    fun e he => (hnone e he).2.2
  rwa [hfailures, herrors, List.append_nil, List.append_nil] at hlog

theorem acts (h : Log threshold d₀ failures errors attempts d) (as : List Act) :
    Log threshold d₀ failures errors attempts (d.acts as) := by
  refine h.quiet ((d.adds_acts as).mono fun e he => ?_)
  cases e <;> first | rfl | cases he

/-- An exchange that comes when it should. -/
theorem sent (request : List UInt8) (probe : Bool) (s : DeviceState)
    (h : Log threshold d₀ failures (dueErrors threshold failures)
      (failures.length + probe.toNat) d) :
    Log threshold d₀ failures (dueErrors threshold failures) (failures.length + 1)
      (d.record (.sent request probe s)) := by
  obtain ⟨w, hw, rfl, herrors, hattempts, hpaced⟩ := h
  refine ⟨w ++ [.sent request probe s], ?_, ?_, ?_, ?_, hpaced.concat ?_⟩
  · simp [hw]
  · simp [failuresIn, Entry.failure?]
  · rw [← herrors]
    simp [errorsIn, Entry.error?]
  · rw [attemptsIn] at hattempts ⊢
    cases probe <;> simp [hattempts, Entry.isAttempt]
  · intro request' probe' s' heq
    cases heq
    exact ⟨hattempts, herrors⟩

/-- A failure, and the lines that are due for it. -/
theorem spend {j : Job} {failures : List Failure}
    (h : Log threshold d₀ failures (dueErrors threshold failures) attempts d)
    (hburst : j.burst = .after threshold failures) (f : Failure) :
    Log threshold d₀ (failures ++ [f]) (dueErrors threshold (failures ++ [f])) attempts
      (j.spend f d) := by
  have hlog := h.append
    (.failed f :: ((j.burst.record f).1.map Notice.attemptFailed).map .notice) (j.spend f d)
    (by simp [Job.spend]) (by simp [Entry.request?])
  have hfailures : failuresIn (.failed f ::
      ((j.burst.record f).1.map Notice.attemptFailed).map .notice) = [f] :=
    congrArg (f :: ·) (failuresIn_notices _)
  have herrors : errorsIn (.failed f ::
      ((j.burst.record f).1.map Notice.attemptFailed).map .notice) =
        (j.burst.record f).1.map Failure.message :=
    errorsIn_attemptFailed _
  rw [hfailures, herrors, dueErrors, ← List.map_append, hburst,
    (Burst.record_after threshold failures f).1] at hlog
  exact hlog

/-- The end of a request: what is still held is told, and whether the budget is spent. -/
theorem finish {j : Job} {failures : List Failure}
    (h : Log threshold d₀ failures (dueErrors threshold failures) attempts d)
    (hburst : j.burst = .after threshold failures) (ok : Bool) :
    ∃ last, (last = [] ∨ last = [(Notice.exhausted j.request).text]) ∧
      Log threshold d₀ failures (failures.map Failure.message ++ last) attempts
        (j.finish ok d).2 := by
  have hall : dueErrors threshold failures ++ j.burst.finish.map Failure.message =
      failures.map Failure.message := by
    rw [dueErrors, hburst, ← List.map_append, Burst.told_append_finish]
  have hnotes := h.append ((j.burst.finish.map Notice.attemptFailed).map .notice)
    (d.notes (j.burst.finish.map .attemptFailed)) (by simp) (by simp [Entry.request?])
  rw [failuresIn_notices, errorsIn_attemptFailed, List.append_nil, hall] at hnotes
  cases hspent : j.exhausted with
  | true =>
    have hlast := hnotes.append ([Notice.exhausted j.request].map .notice)
      (j.finish ok d).2 (by simp [Job.finish, hspent]) (by simp [Entry.request?])
    rw [failuresIn_notices, List.append_nil] at hlast
    exact ⟨_, .inr rfl, hlast⟩
  | false =>
    refine ⟨[], .inl rfl, ?_⟩
    rw [List.append_nil]
    simpa [Job.finish, hspent] using hnotes

end Log

/-! ## Requests -/

/-- The attempts that were begun and are not over. -/
def Stage.begun : Stage → Nat
  | .ready _ => 0
  | .asked => 1
  | .probing _ => 1

/-- What the journal holds of a request. While it is underway, the lines that are due; in the end,
all of them, and perhaps that the budget is spent. -/
inductive Told (settings : Settings) (request : List UInt8) (d₀ : Desk) :
    Progress × Desk → Prop where
  | underway (j : Job) (d : Desk) (failures : List Failure) (hrequest : j.request = request)
      (hburst : j.burst = .after settings.errorsThreshold failures)
      (hlog : Log settings.errorsThreshold d₀ failures
        (dueErrors settings.errorsThreshold failures) (failures.length + j.stage.begun) d) :
      Told settings request d₀ (.underway j, d)
  | returned (ok : Bool) (d : Desk) (failures : List Failure) (last : List String)
      (attempts : Nat) (hlast : last = [] ∨ last = [(Notice.exhausted request).text])
      (hlog : Log settings.errorsThreshold d₀ failures (failures.map Failure.message ++ last)
        attempts d) :
      Told settings request d₀ (.returned ok, d)

section Request

variable {settings : Settings} {request : List UInt8} {d₀ d : Desk} {rounds : Nat → Round}
  {j : Job} {i : Job.Input} {pd : Progress × Desk} {failures : List Failure} {attempts : Nat}

theorem told_start (settings : Settings) (request : List UInt8) (d : Desk) :
    Told settings request d (.underway (.start settings request), d) := by
  refine .underway _ d [] rfl (Burst.start_eq_after _) ?_
  simpa [dueErrors, Burst.told_nil, Job.start, Stage.begun] using
    Log.refl settings.errorsThreshold d

theorem told_acts (h : Told settings request d₀ (.underway j, d)) (as : List Act) :
    Told settings request d₀ (.underway j, d.acts as) := by
  cases h with
  | underway _ _ failures hrequest hburst hlog =>
    exact .underway j _ failures hrequest hburst (hlog.acts as)

theorem told_finish (hrequest : j.request = request)
    (hburst : j.burst = .after settings.errorsThreshold failures)
    (hlog : Log settings.errorsThreshold d₀ failures
      (dueErrors settings.errorsThreshold failures) attempts d) (ok : Bool) :
    Told settings request d₀ (j.finish ok d) := by
  obtain ⟨last, hlast, hfinish⟩ := hlog.finish hburst ok
  rw [hrequest] at hlast
  exact .returned ok _ failures last attempts hlast hfinish

theorem told_fail (hrequest : j.request = request)
    (hburst : j.burst = .after settings.errorsThreshold failures)
    (hlog : Log settings.errorsThreshold d₀ failures
      (dueErrors settings.errorsThreshold failures) (failures.length + 1) d) (f : Failure) :
    Told settings request d₀ (j.fail f d) := by
  have hspend := hlog.spend hburst f
  have hcharge : (j.charge f).burst = .after settings.errorsThreshold (failures ++ [f]) := by
    rw [← (Burst.record_after settings.errorsThreshold failures f).2, ← hburst]
    rfl
  rw [Job.fail_eq]
  cases f.isPermanent with
  | true => exact told_finish (j := j.charge f) hrequest hcharge hspend false
  | false =>
    refine .underway (j.charge f) _ (failures ++ [f]) hrequest hcharge ?_
    simpa [Job.charge, Stage.begun] using hspend

/-- Every step of a request keeps this. -/
theorem told_of_turn (h : Told settings request d₀ (.underway j, d))
    (hturn : Job.Turn settings j d i pd) : Told settings request d₀ pd := by
  cases h with
  | underway _ _ failures hrequest hburst hlog =>
    have hsame : d.Adds Entry.isQuiet d := .of_eq rfl
    have htell (a : Answer) : d.Adds Entry.isQuiet (j.tell a d) := hsame.tell_of (fun _ _ => rfl) j a
    cases hturn with
    | exhausted first hstage hspent => exact told_finish hrequest hburst hlog false
    | abandoned hstage hleft hstop =>
      exact told_finish hrequest hburst (hlog.quiet (hsame.record _ rfl)) false
    | pretended first hstage hleft hnoop =>
      exact told_finish hrequest hburst (hlog.quiet ((hsame.write _).record _ rfl)) true
    | sent first hstage hleft hgo hnoop =>
      rw [hstage] at hlog
      exact .underway _ _ failures hrequest hburst (.sent j.request false d.state hlog)
    | settled a hstage hjudge =>
      exact told_finish hrequest hburst (hlog.quiet (htell a)) true
    | status a s hstage hjudge =>
      have hadds := (((htell a).record (.notice (.firmware s.version)) rfl).record (.accepted s)
        rfl).write fun _ => .setStatus s.online s.leds
      exact told_finish hrequest hburst (hlog.quiet hadds) true
    | garbled a f hstage hjudge hgarbled =>
      rw [hstage] at hlog
      exact .underway _ _ failures hrequest hburst
        (.sent getInfoFrame.bytes true d.state (hlog.quiet (htell a)))
    | failed a f hstage hjudge hformed =>
      rw [hstage] at hlog
      exact told_fail hrequest hburst (hlog.quiet (htell a)) f
    | resumed a f hstage =>
      rw [hstage] at hlog
      cases a with
      | ok response => exact told_fail hrequest hburst hlog f
      | error e => exact told_fail hrequest hburst (hlog.quiet (hsame.record _ rfl)) f

/-- What every step of a request keeps, and acts of others keep, holds after every number of
rounds. -/
theorem Job.after_induction {P : Progress × Desk → Prop}
    (hstart : P (.underway (.start settings request), d))
    (hacts : ∀ j d as, P (.underway j, d) → P (.underway j, d.acts as))
    (hturn : ∀ j d i pd, P (.underway j, d) → Turn settings j d i pd → P pd) (n : Nat) :
    P (after settings request d rounds n) := by
  have hcarry (as : List Act) (i : Input) (s : Progress × Desk) (h : P s) :
      P (carry settings as i s) := by
    rcases s with ⟨j | ok, d⟩
    · have hacted := hacts j d as h
      show P ((j.step? settings (d.acts as) i).getD (.underway j, d.acts as))
      cases hstep : j.step? settings (d.acts as) i with
      | none => exact hacted
      | some pd => exact hturn j _ i pd hacted (turn_of_step? hstep)
    · exact h
  induction n with
  | zero => exact hstart
  | succ n ih => exact hcarry _ _ _ (hcarry _ _ _ (hcarry _ _ _ ih))

theorem told_after (settings : Settings) (request : List UInt8) (d : Desk) (rounds : Nat → Round)
    (n : Nat) : Told settings request d (Job.after settings request d rounds n) :=
  Job.after_induction (told_start settings request d) (fun _ _ as h => told_acts h as)
    (fun _ _ _ _ h hturn => told_of_turn h hturn) n

end Request

/-- **No message is lost, repeated or reordered.** A request logs the messages of its failed
attempts, all of them, once and in order, and after them at most the line that its budget is spent;
it logs no other error. When an exchange goes out, nothing was logged yet if no more attempts
failed than may be held back, and otherwise the messages of all that failed. -/
theorem failures_told (settings : Settings) (request : List UInt8) (d : Desk)
    (rounds : Nat → Round) :
    ∃ n ok d' w, Attempted settings request d rounds n ∧
      (∀ k, n < k → Job.after settings request d rounds k = (.returned ok, d')) ∧
      d'.journal = w.reverse ++ d.journal ∧
      (∃ last, (last = [] ∨ last = [(Notice.exhausted request).text]) ∧
        errorsIn w = (failuresOf request rounds n).map Failure.message ++ last) ∧
      ∀ before sent probe s, before ++ [.sent sent probe s] <+: w →
        ∃ i ≤ (failuresOf request rounds n).length, attemptsIn before = i + probe.toNat ∧
          errorsIn before = if i ≤ settings.errorsThreshold then []
            else ((failuresOf request rounds n).take i).map Failure.message := by
  obtain ⟨n, ok, j, d₁, hended⟩ := ended settings request d rounds
  have hafter : ∀ k, n < k →
      Job.after settings request d rounds k = (.returned ok, (j.finish ok d₁).2) := hended.after_eq
  have htold := told_after settings request d rounds (n + 1)
  rw [hafter (n + 1) (Nat.lt_succ_self n)] at htold
  cases htold with
  | returned _ _ failures last attempts hlast hlog =>
    obtain ⟨w, hw, rfl, herrors, -, hpaced⟩ := hlog
    have hfailures : failuresIn w = failuresOf request rounds n := by
      have hbooks := hended.accounts.failures_eq
      rw [← Job.failures_finish j ok, Desk.failures, hw, List.reverse_append, List.reverse_reverse,
        List.filterMap_append] at hbooks
      exact List.append_cancel_left hbooks
    rw [hfailures] at herrors
    refine ⟨n, ok, _, w, hended.attempted, hafter, hw, ⟨last, hlast, herrors⟩, ?_⟩
    intro before sent probe s hbefore
    obtain ⟨hattempts, hdue⟩ := hpaced before sent probe s hbefore
    -- The failures before an exchange are the first ones of them all.
    have hearlier : failuresIn before <+: failuresOf request rounds n := by
      rw [← hfailures]
      exact ((List.prefix_append before _).trans hbefore).filterMap _
    refine ⟨(failuresIn before).length, hearlier.length_le, hattempts, ?_⟩
    rw [hdue, dueErrors, Burst.told, ← List.prefix_iff_eq_take.mp hearlier]
    split <;> rfl

end SerialHid
