/-
SerialHid.Proofs.Job — everything that a step of a request can do.

* `Job.Turn` — the steps of a request, one constructor for each; `Job.turn_of_step?` says that
  there are no others.
* `Job.Turn.frame` — what every one of them leaves alone: the requests to the worker, and the
  queue.
* `Job.Turn.adds` — the entries of the journal that can come of one.
* `Job.Turn.probing` — nothing that fails for good is followed by a probe.
-/
import SerialHid.Job
import SerialHid.Proofs.Desk

namespace SerialHid

/-- An entry that belongs to a request, and shows no state but `s`. -/
def Entry.isOfRequest (s : DeviceState) : Entry → Bool
  | .notice _ => true
  | .sent _ _ shown => shown = s
  | .accepted _ => true
  | .failed _ => true
  | .pretended => true
  | _ => false

namespace Job

variable {settings : Settings} {j : Job} {d d' : Desk} {i : Input} {p : Progress}
  {pd : Progress × Desk}

/-! ## The parts of a step -/

@[simp] theorem tell_fields (j : Job) (a : Answer) (d : Desk) :
    (j.tell a d).state = d.state ∧ (j.tell a d).stop = d.stop ∧
      (j.tell a d).resetWanted = d.resetWanted ∧ (j.tell a d).queue = d.queue ∧
      (j.tell a d).accepting = d.accepting := by
  cases a <;> exact ⟨rfl, rfl, rfl, rfl, rfl⟩

/-- The last lines about a request: the failures still held, and that its budget is spent. -/
def lastNotices (j : Job) : List Entry :=
  (if j.exhausted then [.notice (.exhausted j.request)] else []) ++
    ((j.burst.finish.map Notice.attemptFailed).map .notice).reverse

@[simp] theorem finish_fst (j : Job) (ok : Bool) (d : Desk) :
    (j.finish ok d).1 = .returned ok := rfl

@[simp] theorem finish_fields (j : Job) (ok : Bool) (d : Desk) :
    (j.finish ok d).2.state = d.state ∧ (j.finish ok d).2.stop = d.stop ∧
      (j.finish ok d).2.resetWanted = d.resetWanted ∧ (j.finish ok d).2.queue = d.queue ∧
      (j.finish ok d).2.accepting = d.accepting ∧
      (j.finish ok d).2.journal = j.lastNotices ++ d.journal := by
  unfold finish lastNotices
  cases j.exhausted <;> simp

/-- The lines that are due when an attempt has failed. -/
def failureNotices (j : Job) (f : Failure) : List Entry :=
  (if f.isPermanent then (j.charge f).lastNotices else []) ++
    (((j.burst.record f).1.map Notice.attemptFailed).map .notice).reverse

@[simp] theorem fail_fst (j : Job) (f : Failure) (d : Desk) :
    (j.fail f d).1 = if f.isPermanent then .returned false else .underway (j.charge f) := by
  unfold fail
  cases f.isPermanent <;> rfl

@[simp] theorem fail_fields (j : Job) (f : Failure) (d : Desk) :
    (j.fail f d).2.state = (if f.isPermanent then d.state else d.state.setOnline false) ∧
      (j.fail f d).2.stop = d.stop ∧ (j.fail f d).2.resetWanted = d.resetWanted ∧
      (j.fail f d).2.queue = d.queue ∧ (j.fail f d).2.accepting = d.accepting ∧
      (j.fail f d).2.journal = j.failureNotices f ++ .failed f :: d.journal := by
  unfold fail failureNotices
  cases f.isPermanent <;> simp

/-- What comes of the probe is at most told before the attempt fails. -/
theorem resume_eq (j : Job) (f : Failure) (a : Answer) (d : Desk) :
    j.resume f a d = j.fail f d ∨ ∃ n, j.resume f a d = j.fail f (d.note n) := by
  cases a with
  | ok _ => exact .inl rfl
  | error e => exact .inr ⟨.resyncFailed e, rfl⟩

/-- An answer is at most told. -/
theorem tell_eq (j : Job) (a : Answer) (d : Desk) :
    j.tell a d = d ∨ ∃ n, j.tell a d = d.note n := by
  cases a with
  | ok response => exact .inr ⟨.exchanged j.request response, rfl⟩
  | error _ => exact .inl rfl

/-! ## The steps -/

/-- The steps of a request. -/
inductive Turn (settings : Settings) (j : Job) (d : Desk) : Input → Progress × Desk → Prop where
  /-- No attempt is left. -/
  | exhausted (first : Bool) (hstage : j.stage = .ready first) (hspent : j.exhausted = true) :
      Turn settings j d .proceed (j.finish false d)
  /-- The engine stops, and no other attempt is made. -/
  | abandoned (hstage : j.stage = .ready false) (hleft : j.exhausted = false)
      (hstop : d.stop = true) :
      Turn settings j d .proceed (j.finish false (d.note (.abandoned j.request)))
  /-- The request is only pretended. -/
  | pretended (first : Bool) (hstage : j.stage = .ready first) (hleft : j.exhausted = false)
      (hnoop : settings.noop = true) :
      Turn settings j d .proceed (j.finish true ((d.write (·.pretend)).record .pretended))
  /-- The request goes out. -/
  | sent (first : Bool) (hstage : j.stage = .ready first) (hleft : j.exhausted = false)
      (hgo : first = true ∨ d.stop = false) (hnoop : settings.noop = false) :
      Turn settings j d .proceed
        (.underway { j with stage := .asked }, d.record (.sent j.request false d.state))
  /-- The answer completes the request. -/
  | settled (a : Answer) (hstage : j.stage = .asked) (hjudge : judge j.request a = .settled) :
      Turn settings j d (.answer a) (j.finish true (j.tell a d))
  /-- The answer completes a request for the status. -/
  | status (a : Answer) (s : Status) (hstage : j.stage = .asked)
      (hjudge : judge j.request a = .status s) :
      Turn settings j d (.answer a)
        (j.finish true ((((j.tell a d).note (.firmware s.version)).record (.accepted s)).write
          fun _ => .setStatus s.online s.leds))
  /-- The answer is malformed, and the probe goes out. -/
  | garbled (a : Answer) (f : Failure) (hstage : j.stage = .asked)
      (hjudge : judge j.request a = .failed f) (hgarbled : f.isGarbled = true) :
      Turn settings j d (.answer a)
        (.underway { j with stage := .probing f },
          (j.tell a d).record (.sent getInfoFrame.bytes true d.state))
  /-- The attempt failed. -/
  | failed (a : Answer) (f : Failure) (hstage : j.stage = .asked)
      (hjudge : judge j.request a = .failed f) (hformed : f.isGarbled = false) :
      Turn settings j d (.answer a) (j.fail f (j.tell a d))
  /-- The probe is over, and with it the attempt. -/
  | resumed (a : Answer) (f : Failure) (hstage : j.stage = .probing f) :
      Turn settings j d (.answer a) (j.resume f a d)

/-- There are no other steps. -/
theorem turn_of_step? (h : j.step? settings d i = some pd) : Turn settings j d i pd := by
  cases i with
  | proceed =>
    cases hstage : j.stage with
    | ready first =>
      simp only [step?, hstage, Option.some.injEq] at h
      subst h
      unfold attempt
      by_cases hspent : j.exhausted = true
      · rw [if_pos hspent]
        exact .exhausted first hstage hspent
      rw [if_neg hspent]
      have hleft : j.exhausted = false := by simpa using hspent
      by_cases hstop : (!first && d.stop) = true
      · rw [if_pos hstop]
        obtain ⟨hlater, hstop⟩ := (Bool.and_eq_true ..).mp hstop
        obtain rfl : first = false := by simpa using hlater
        exact .abandoned hstage hleft hstop
      rw [if_neg hstop]
      by_cases hnoop : settings.noop = true
      · rw [if_pos hnoop]
        exact .pretended first hstage hleft hnoop
      · rw [if_neg hnoop]
        refine .sent first hstage hleft ?_ (by simpa using hnoop)
        cases first <;> simp_all
    | asked => simp [step?, hstage] at h
    | probing f => simp [step?, hstage] at h
  | answer a =>
    cases hstage : j.stage with
    | ready first => simp [step?, hstage] at h
    | asked =>
      simp only [step?, hstage, Option.some.injEq] at h
      subst h
      unfold receive
      cases hjudge : judge j.request a with
      | settled => exact .settled a hstage hjudge
      | status s => exact .status a s hstage hjudge
      | failed f =>
        by_cases hgarbled : f.isGarbled = true
        · simp only [hgarbled, if_true, tell_fields]
          exact .garbled a f hstage hjudge hgarbled
        · simp only [hgarbled]
          exact .failed a f hstage hjudge (by simpa using hgarbled)
    | probing f =>
      simp only [step?, hstage, Option.some.injEq] at h
      subst h
      exact .resumed a f hstage

end Job

/-! ## What every step leaves alone -/

section Adds

variable {s : DeviceState} {d d' : Desk}

theorem Desk.Adds.tell_of {kind : Entry → Bool} (h : d.Adds kind d')
    (hkind : ∀ request response, kind (.notice (.exchanged request response)) = true) (j : Job)
    (a : Answer) : d.Adds kind (j.tell a d') := by
  cases a with
  | ok response => exact h.record _ (hkind j.request response)
  | error e => exact h

theorem Desk.Adds.tell (h : d.Adds (Entry.isOfRequest s) d') (j : Job) (a : Answer) :
    d.Adds (Entry.isOfRequest s) (j.tell a d') :=
  h.tell_of (fun _ _ => rfl) j a

theorem Desk.Adds.finish (h : d.Adds (Entry.isOfRequest s) d') (j : Job) (ok : Bool) :
    d.Adds (Entry.isOfRequest s) (j.finish ok d').2 := by
  unfold Job.finish
  cases j.exhausted with
  | true => exact (h.notes (fun _ => rfl) _).record _ rfl
  | false => exact h.notes (fun _ => rfl) _

theorem Desk.Adds.fail (h : d.Adds (Entry.isOfRequest s) d') (j : Job) (f : Failure) :
    d.Adds (Entry.isOfRequest s) (j.fail f d').2 := by
  have hnotes := (h.record (.failed f) rfl).notes (fun _ => rfl)
    ((j.burst.record f).1.map .attemptFailed)
  unfold Job.fail
  cases f.isPermanent with
  | true => exact hnotes.finish _ _
  | false => exact hnotes.write _

end Adds

namespace Job

theorem Turn.frame (h : Turn settings j d i pd) :
    pd.2.stop = d.stop ∧ pd.2.resetWanted = d.resetWanted ∧ pd.2.queue = d.queue ∧
      pd.2.accepting = d.accepting := by
  cases h with
  | resumed a f hstage => rcases resume_eq j f a d with heq | ⟨n, heq⟩ <;> simp [heq]
  | _ => simp

/-- What a step shows is the state that it leaves behind. -/
theorem Turn.adds (h : Turn settings j d i pd) : d.Adds (Entry.isOfRequest pd.2.state) pd.2 := by
  have hsame {s : DeviceState} : d.Adds (Entry.isOfRequest s) d := .of_eq rfl
  cases h with
  | exhausted first hstage hspent => exact hsame.finish _ _
  | abandoned hstage hleft hstop => exact (hsame.record _ rfl).finish _ _
  | pretended first hstage hleft hnoop => exact ((hsame.write _).record _ rfl).finish _ _
  | sent first hstage hleft hgo hnoop => exact hsame.record _ (by simp [Entry.isOfRequest])
  | settled a hstage hjudge => exact (hsame.tell _ _).finish _ _
  | status a s hstage hjudge =>
    exact ((((hsame.tell _ _).record _ rfl).record _ rfl).write _).finish _ _
  | garbled a f hstage hjudge hgarbled =>
    exact (hsame.tell _ _).record _ (by simp [Entry.isOfRequest])
  | failed a f hstage hjudge hformed => exact (hsame.tell _ _).fail _ _
  | resumed a f hstage =>
    rcases resume_eq j f a d with heq | ⟨n, heq⟩
    · rw [heq]
      exact hsame.fail _ _
    · rw [heq]
      exact (hsame.record _ rfl).fail _ _

/-- A probe follows a failure that is worth another attempt. -/
theorem Turn.probing (h : Turn settings j d i pd) {j' : Job} (hj : pd.1 = .underway j')
    {f : Failure} (hstage' : j'.stage = .probing f) : f.isPermanent = false := by
  have hcharge : ∀ f₀, (j.charge f₀).stage ≠ .probing f := fun f₀ => Stage.noConfusion
  have hfail : ∀ f₀ d₀, (j.fail f₀ d₀).1 ≠ .underway j' := by
    intro f₀ d₀ heq
    rw [fail_fst] at heq
    split at heq
    · cases heq
    · cases heq
      exact hcharge f₀ hstage'
  cases h with
  | sent first hstage hleft hgo hnoop =>
    cases hj
    cases hstage'
  | garbled a f₀ hstage hjudge hgarbled =>
    cases hj
    cases hstage'
    cases f <;> first | rfl | cases hgarbled
  | failed a f₀ hstage hjudge hformed => exact absurd hj (hfail f₀ _)
  | resumed a f₀ hstage =>
    rcases resume_eq j f₀ a d with heq | ⟨n, heq⟩ <;> rw [heq] at hj <;>
      exact absurd hj (hfail f₀ _)
  | exhausted | abandoned | pretended | settled | status => cases hj

end Job

end SerialHid
