/-
SerialHid.Proofs.Requests — the requests of the worker are well formed, so none of them fails for
good.

* `RefusesOnly` — a connection that refuses requests of one kind only; `Chip.isRefused_iff` and
  `Uart.isRefused_iff` find the simulated chip and the serial line among them.
* `Job.Strives` — how a request goes on as long as it is not refused.
* `Worker.Unheard` — what is published once the latest attempt has failed; `Unheard.step` keeps it
  over every step.
* `Worker.requests_wellformed` — what is sent, and what a request that fails leaves behind, in every
  run.
-/
import SerialHid.Chip
import SerialHid.Proofs.Due
import SerialHid.Proofs.History
import SerialHid.Proofs.Reader
import SerialHid.Proofs.Sent
import SerialHid.Uart

namespace SerialHid

/-! ## Connections that refuse -/

/-- A connection refuses no requests but bad ones. -/
def RefusesOnly (bad : List UInt8 → Prop) : Config × Move → Prop
  | (c, .reply (.answer a)) => a.isRefused = true → ∀ r ∈ c.point.pending?, bad r
  | _ => True

instance (bad : List UInt8 → Prop) [DecidablePred bad] (x : Config × Move) :
    Decidable (RefusesOnly bad x) :=
  match x with
  | (c, .reply (.answer a)) =>
    inferInstanceAs (Decidable (a.isRefused = true → ∀ r ∈ c.point.pending?, bad r))
  | (_, .reply (.crash _)) => isTrue trivial
  | (_, .outside _) | (_, .proceed) | (_, .presence _) | (_, .opened _) | (_, .pulse _)
  | (_, .timeout) => isTrue trivial

theorem isRefused_of_checkRequest {r : List UInt8} {e : LinkError} (h : checkRequest r = .error e) :
    Answer.isRefused (.error e) = true := by
  unfold checkRequest at h
  split at h
  · cases h
  · cases h
    rfl

/-- The simulated chip refuses what does not pass the check, and nothing else. -/
theorem Chip.isRefused_iff (chip : Chip) (r : List UInt8) :
    (chip.exchange r).1.isRefused = true ↔ checkRequest r ≠ .ok () := by
  unfold exchange
  cases hcheck : checkRequest r with
  | error e => simp [isRefused_of_checkRequest hcheck]
  | ok _ =>
    have hanswer (fault : Option ChipFault) :
        (chip.respond (commandOf r) fault).isRefused = false := by
      rcases fault with _ | _ | _ | _ | _ | _ <;> rfl
    simp [hanswer]

/-- So does the serial line. -/
theorem Uart.isRefused_iff (u : Uart) (r : List UInt8) (reply : List (List UInt8)) :
    (u.exchange r reply).1.answer.isRefused = true ↔ checkRequest r ≠ .ok () := by
  unfold exchange
  cases hcheck : checkRequest r with
  | error e => simp [isRefused_of_checkRequest hcheck]
  | ok _ =>
    have hanswer : (Reader.response (reads reply)).answer.isRefused = false := by
      rw [(Reader.response_answer _).1]
      unfold answerTo brokenOff
      repeat' split
      all_goals rfl
    simp [hanswer]

/-! ## Requests that are not refused -/

namespace Job

variable {settings : Settings} {j : Job} {d : Desk} {i : Input} {pd : Progress × Desk}

/-- How a request goes on as long as no answer to it is hopeless. -/
inductive Strives (j : Job) (d : Desk) : Progress × Desk → Prop where
  /-- It waits for an answer. -/
  | waits (j' : Job) (d' : Desk) (hstage : ∀ first, j'.stage ≠ .ready first) :
      Strives j d (.underway j', d')
  /-- An attempt failed. -/
  | failed (j' : Job) (d' : Desk) (hstage : j'.stage = .ready false)
      (hoffline : d'.state.online = false) : Strives j d (.underway j', d')
  | succeeded (d' : Desk) : Strives j d (.returned true, d')
  /-- It ends without success, but only after an attempt that failed. -/
  | gaveUp (d' : Desk) (hstage : j.stage = .ready false) (hstate : d'.state = d.state) :
      Strives j d (.returned false, d')

theorem Strives.of_fail {f : Failure} {d' : Desk} (hf : f.isPermanent = false) :
    Strives j d (j.fail f d') := by
  have hfst := fail_fst j f d'
  have hstate := (fail_fields j f d').1
  rw [hf] at hfst hstate
  rcases hfail : j.fail f d' with ⟨progress, d''⟩
  rw [hfail] at hfst hstate
  obtain rfl : progress = .underway (j.charge f) := by simpa using hfst
  exact .failed _ d'' rfl (by rw [hstate]; rfl)

theorem Turn.strives (hbudget : j.stage = .ready true → j.exhausted = false)
    (hprobe : ∀ f, j.stage = .probing f → f.isPermanent = false)
    (hhope : ∀ a, i = .answer a → ¬ Hopeless j.request a) (h : Turn settings j d i pd) :
    Strives j d pd := by
  cases h with
  | exhausted first hstage hspent =>
    cases first with
    | true => exact Bool.noConfusion (hspent.symm.trans (hbudget hstage))
    | false => exact .gaveUp _ hstage (finish_fields j false d).1
  | abandoned hstage hleft hstop => exact .gaveUp _ hstage (finish_fields j false _).1
  | pretended | settled | status => exact .succeeded _
  | sent => exact .waits _ _ fun _ => nofun
  | garbled => exact .waits _ _ fun _ => nofun
  | failed a f hstage hjudge hformed =>
    have hpermanent : f.isPermanent ≠ true := mt (judge_failed hjudge).1.mp (hhope a rfl)
    exact .of_fail (by simpa using hpermanent)
  | resumed a f hstage =>
    rcases resume_eq j f a d with heq | ⟨n, heq⟩ <;> rw [heq] <;> exact .of_fail (hprobe f hstage)

end Job

/-- What a move tells the request under way. -/
def Move.input? : Move → Option Job.Input
  | .proceed => some .proceed
  | .reply (.answer a) => some (.answer a)
  | _ => none

/-- The latest attempt at a request failed, and the worker has not made another one. -/
def Point.isUnheard : Point → Bool
  | .session (.request _ j) => j.stage = .ready false
  | .session .flushing => true
  | .session .checking => true
  | _ => false

namespace Worker

variable {setup : Setup} {d : Desk} {p : Point} {m : Move} {c c' : Config}
  {steps : List (Config × Move)}

theorem returned_of_follow {settings : Settings} {q q' : Purpose} {j : Job} {i : Job.Input}
    {pd : Progress × Desk} {added : List Entry} {ok : Bool} {s : DeviceState}
    (hturn : Job.Turn settings j d i pd)
    (hadded : (follow q' pd).desk.journal = added ++ d.journal)
    (hreturned : .returned q ok s ∈ added) :
    ∃ d', pd = (.returned ok, d') ∧ q' = q ∧ s = d'.state := by
  obtain ⟨own, hown, hkind⟩ := hturn.adds
  have hforeign : .returned q ok s ∉ own := fun hmem => Bool.noConfusion (hkind _ hmem)
  rcases pd with ⟨j' | ok', d'⟩
  · obtain rfl : added = own := List.append_cancel_right (hadded.symm.trans hown)
    exact absurd hreturned hforeign
  · obtain rfl : added = .returned q' ok' d'.state :: own :=
      List.append_cancel_right (hadded.symm.trans (congrArg _ hown))
    obtain ⟨rfl, rfl, rfl⟩ : q = q' ∧ ok = ok' ∧ s = d'.state := by
      simpa [hforeign] using hreturned
    exact ⟨d', rfl, rfl, rfl⟩

/-- Only a step of a request ends one. -/
theorem Transition.turn_of_returned (h : Transition setup d p m c') {added : List Entry}
    (hadded : c'.desk.journal = added ++ d.journal) {q : Purpose} {ok : Bool} {s : DeviceState}
    (hreturned : .returned q ok s ∈ added) :
    ∃ j i d', p = .session (.request q j) ∧ m.input? = some i ∧
      Job.Turn setup.settings j d i (.returned ok, d') ∧ s = d'.state := by
  have hrequest : p.isRequest = true := h.adds.of_mem hadded hreturned
  cases h with
  | others p a => exact Bool.noConfusion ((d.adds_act a).of_mem hadded hreturned)
  | requestWent q' j pd hturn | requestAnswered q' j a pd hturn =>
    obtain ⟨d', rfl, rfl, rfl⟩ := returned_of_follow hturn hadded hreturned
    exact ⟨j, _, d', rfl, rfl, hturn, rfl⟩
  | crashed q' j message request =>
    obtain rfl : added = [.closed d.state] :=
      List.append_cancel_right (hadded.symm.trans (List.singleton_append ..).symm)
    simp at hreturned
  | _ => cases hrequest

/-- Someone else published a state, and the worker has learned nothing since that would have changed
it. -/
def Overwritten (steps : List (Config × Move)) : Prop :=
  ∃ before c s after, steps = before ++ (c, .outside (.publish s)) :: after ∧
    ∀ x ∈ after, mark? x = none

theorem Overwritten.concat (h : Overwritten steps) {x : Config × Move} (hx : mark? x = none) :
    Overwritten (steps ++ [x]) := by
  obtain ⟨before, c, s, after, rfl, hafter⟩ := h
  refine ⟨before, c, s, after ++ [x], by simp, ?_⟩
  exact List.forall_mem_append.mpr ⟨hafter, List.forall_mem_singleton.mpr hx⟩

/-- A request is begun with a budget, and where an attempt has failed, the chip is offline, unless
someone else has published another state since. -/
structure Unheard (steps : List (Config × Move)) (c : Config) : Prop where
  budget : ∀ q j, c.point = .session (.request q j) → j.stage = .ready true → j.exhausted = false
  offline : c.point.isUnheard = true → c.desk.state.online = false ∨ Overwritten steps

theorem Unheard.of_heard (hrequest : c.point.isRequest = false)
    (hheard : c.point.isUnheard = false) : Unheard steps c where
  budget := by
    intro q j hpoint
    simp [hpoint, Point.isRequest] at hrequest
  offline := by simp [hheard]

theorem Unheard.begun (hcommon : 0 < setup.settings.commonRetries)
    (hread : 0 < setup.settings.readRetries) (q : Purpose) (d : Desk) :
    Unheard steps (begin setup q d) where
  budget := by
    rintro _ _ ⟨⟩ -
    simp [Job.exhausted, Job.start, Nat.ne_of_gt hcommon, Nat.ne_of_gt hread]
  offline := by simp [begin, Point.isUnheard, Job.start]

/-- Where nothing is learned, what is published stays true. -/
theorem Unheard.keeps {d' : Desk} (h : Unheard steps c) (hunheard : c.point.isUnheard = true)
    (hmark : mark? (c, m) = none) (hstate : d'.state = c.desk.state) :
    d'.state.online = false ∨ Overwritten (steps ++ [(c, m)]) := by
  rw [hstate]
  exact (h.offline hunheard).imp_right (·.concat hmark)

theorem mark?_of_ready {q : Purpose} {j : Job} {first : Bool} (hstage : j.stage = .ready first) :
    mark? (⟨d, .session (.request q j)⟩, m) = none := by
  cases m with
  | reply r => cases r <;> simp [mark?, Job.mark?, hstage]
  | _ => rfl

theorem Unheard.act (h : Unheard steps c) (a : Act) :
    Unheard (steps ++ [(c, .outside a)]) { c with desk := c.desk.act a } where
  budget := h.budget
  offline := by
    intro hunheard
    by_cases hpublish : ∃ s, a = .publish s
    · obtain ⟨s, rfl⟩ := hpublish
      exact .inr ⟨steps, c, s, [], rfl, by simp⟩
    · refine h.keeps hunheard (mark?_outside c a) (c.desk.state_act fun s hs => ?_)
      exact hpublish ⟨s, hs⟩

theorem Unheard.follow {q : Purpose} {j : Job} {pd : Progress × Desk}
    (h : Unheard steps ⟨d, .session (.request q j)⟩) (hstrives : j.Strives d pd) :
    Unheard (steps ++ [(⟨d, .session (.request q j)⟩, m)]) (Worker.follow q pd) := by
  cases hstrives with
  | waits j' d' hstage =>
    refine ⟨?_, ?_⟩
    · rintro _ _ ⟨⟩ hready
      exact absurd hready (hstage true)
    · intro hunheard
      exact absurd (by simpa [Worker.follow, Point.isUnheard] using hunheard) (hstage false)
  | failed j' d' hstage hoffline =>
    refine ⟨?_, fun _ => .inl hoffline⟩
    rintro _ _ ⟨⟩ hready
    cases hready.symm.trans hstage
  | succeeded d' => exact .of_heard (by cases q <;> rfl) (by cases q <;> rfl)
  | gaveUp d' hstage hstate =>
    refine ⟨?_, fun _ => ?_⟩
    · intro q' j' hpoint
      cases q <;> cases hpoint
    · refine h.keeps ?_ (mark?_of_ready hstage) hstate
      simp [Point.isUnheard, hstage]

/-- How the worker stands after a run in which no connection refused a frame. -/
structure Unrefused (setup : Setup) (steps : List (Config × Move)) (c : Config) : Prop where
  passes : ∃ v, InPasses setup v c.point
  probes : c.point.ProbesInHope
  unheard : Unheard steps c

theorem Unrefused.start (setup : Setup) (d : Desk) : Unrefused setup [] (initial d) where
  passes := ⟨[], .start setup d⟩
  probes := trivial
  unheard := .of_heard rfl rfl

section Refusals

-- Of the requests that a connection may refuse none is a frame.
variable {bad : List UInt8 → Prop} (hbad : ∀ f : Frame, ¬ bad f.bytes)
include hbad

/-- No answer to a request is hopeless, as long as no connection refuses a frame. -/
theorem not_hopeless {q : Purpose} {j : Job} {a : Answer} (hfaithful : j.request = q.request)
    (hrefuses : RefusesOnly bad (⟨d, .session (.request q j)⟩, .reply (.answer a)))
    (hwaits : ∀ first, j.stage ≠ .ready first) : ¬ Hopeless j.request a := by
  obtain ⟨f, hf⟩ := q.exists_frame
  -- It would be a refusal, or the request would be too short to have a command.
  rintro (hrefused | ⟨-, hshort⟩)
  · cases hstage : j.stage with
    | ready first => exact hwaits first hstage
    | asked =>
      refine hbad f (hrefuses hrefused _ ?_)
      simp [Point.pending?, Job.pending?, hstage, hfaithful, hf]
    | probing reason =>
      refine hbad getInfoFrame (hrefuses hrefused _ ?_)
      simp [Point.pending?, Job.pending?, hstage]
  · rw [hfaithful, hf, f.length_bytes] at hshort
    simp only [minFrameSize] at hshort
    omega

theorem strives_of_turn {q : Purpose} {j : Job} {i : Job.Input} {pd : Progress × Desk}
    (hbudget : j.stage = .ready true → j.exhausted = false) (hfaithful : j.request = q.request)
    (hprobes : Point.ProbesInHope (.session (.request q j)))
    (hrefuses : RefusesOnly bad (⟨d, .session (.request q j)⟩, m)) (hm : m.input? = some i)
    (hturn : Job.Turn setup.settings j d i pd) : j.Strives d pd := by
  refine hturn.strives hbudget hprobes ?_
  rintro a rfl
  cases m with
  | reply r =>
    cases r with
    | answer b =>
      cases hm
      exact not_hopeless hbad hfaithful hrefuses hturn.stage_of_answer
    | crash message => cases hm
  | _ => cases hm

theorem Unheard.step (hcommon : 0 < setup.settings.commonRetries)
    (hread : 0 < setup.settings.readRetries) (h : Unheard steps c) (hfaithful : Faithful c.point)
    (hprobes : c.point.ProbesInHope) (hrefuses : RefusesOnly bad (c, m))
    (hstep : Transition setup c.desk c.point m c') : Unheard (steps ++ [(c, m)]) c' := by
  obtain ⟨d, p⟩ := c
  cases hstep with
  | others p a => exact h.act a
  | opened | chipReset | received | idled => exact .begun hcommon hread _ _
  | requestWent q j pd hturn | requestAnswered q j a pd hturn =>
    exact h.follow (strives_of_turn hbad (h.budget q j rfl) (hfaithful q j rfl) hprobes hrefuses rfl
      hturn)
  | flushed =>
    -- The failure of an event is still the latest news when the device is looked for.
    refine ⟨?_, fun _ => h.keeps rfl rfl d.discard_fields.1⟩
    rintro _ _ ⟨⟩
  | waited | headed => split <;> exact .of_heard rfl rfl
  | _ => exact .of_heard rfl rfl

theorem Unrefused.step (hcommon : 0 < setup.settings.commonRetries)
    (hread : 0 < setup.settings.readRetries) (h : Unrefused setup steps c)
    (hrefuses : RefusesOnly bad (c, m)) (hstep : Transition setup c.desk c.point m c') :
    Unrefused setup (steps ++ [(c, m)]) c' := by
  obtain ⟨⟨v, hpasses⟩, hprobes, hunheard⟩ := h
  obtain ⟨added, -, hpasses'⟩ := hpasses.step hstep
  exact ⟨⟨_, hpasses'⟩, hstep.probesInHope hprobes,
    hunheard.step hbad hcommon hread hpasses.faithful hprobes hrefuses hstep⟩

theorem unrefused_of_run (hcommon : 0 < setup.settings.commonRetries)
    (hread : 0 < setup.settings.readRetries) {ms : List Move}
    (hrefuses : ∀ x ∈ trail setup (initial d) ms, RefusesOnly bad x)
    (hrun : run setup (initial d) ms = some c) :
    Unrefused setup (trail setup (initial d) ms) c := by
  refine run_induction (P := fun steps c => (∀ x ∈ steps, RefusesOnly bad x) →
    Unrefused setup steps c) (fun _ => .start setup d) ?_ hrun hrefuses
  intro steps m c c' _ h hstep hrefuses
  obtain ⟨hbefore, hnow⟩ := List.forall_mem_append.mp hrefuses
  exact (h hbefore).step hbad hcommon hread (hnow _ (List.mem_singleton_self _)) hstep

/-- A request that ends without success ends after an attempt that failed. -/
theorem Unrefused.returned (h : Unrefused setup steps c) (hrefuses : RefusesOnly bad (c, m))
    (hstep : Transition setup c.desk c.point m c') {added : List Entry}
    (hadded : c'.desk.journal = added ++ c.desk.journal) {q : Purpose} {s : DeviceState}
    (hreturned : .returned q false s ∈ added) : s.online = false ∨ Overwritten steps := by
  obtain ⟨d, p⟩ := c
  obtain ⟨j, i, d', rfl, hm, hturn, rfl⟩ := hstep.turn_of_returned hadded hreturned
  obtain ⟨v, hpasses⟩ := h.passes
  have hstrives := strives_of_turn hbad (h.unheard.budget q j rfl) (hpasses.faithful q j rfl)
    h.probes hrefuses hm hturn
  cases hstrives with
  | gaveUp _ hstage hstate =>
    rw [hstate]
    exact h.unheard.offline (by simp [Point.isUnheard, hstage])

end Refusals

end Worker

/-- **Requests are well formed, and fail only where the chip is offline.** Whatever the events, the
answers, the faults and the resets of a run: everything that the worker sends is the question for
the status, the reset of the chip or the frame of an event that was queued; it is a frame, and it
passes the check that a connection makes. So, as long as no connection refuses anything else, and
with a budget for each request, a request that ends without success shows that the chip is offline,
unless someone else has published another state since. The simulated chip and the serial line refuse
nothing else. -/
theorem Worker.requests_wellformed (setup : Setup) (d : Desk) (ms : List Move) (c : Config)
    (hrun : run setup (initial d) ms = some c) :
    (∃ journal, c.desk.journal = journal ++ d.journal ∧
      ∀ r probe s, .sent r probe s ∈ journal →
        Sendable (d.queue ++ arrivals journal) r ∧ WellFormed r) ∧
    (0 < setup.settings.commonRetries → 0 < setup.settings.readRetries →
      ∀ m c', step? setup c m = some c' →
      (∀ x ∈ trail setup (initial d) (ms ++ [m]), RefusesOnly (checkRequest · ≠ .ok ()) x) →
      ∃ added, c'.desk.journal = added ++ c.desk.journal ∧
        ∀ q s, .returned q false s ∈ added →
          s.online = false ∨ Overwritten (trail setup (initial d) ms)) ∧
    (∀ (chip : Chip) (r : List UInt8),
      (chip.exchange r).1.isRefused = true ↔ checkRequest r ≠ .ok ()) ∧
    ∀ (u : Uart) (r : List UInt8) (reply : List (List UInt8)),
      (u.exchange r reply).1.answer.isRefused = true ↔ checkRequest r ≠ .ok () := by
  refine ⟨?_, ?_, Chip.isRefused_iff, Uart.isRefused_iff⟩
  · obtain ⟨journal, hjournal, -⟩ := conveyed_of_run hrun
    refine ⟨journal, hjournal, fun r probe s hsent => ?_⟩
    have hsendable := sendable_of_run rfl hrun hjournal hsent
    exact ⟨hsendable.mono (handedOver_subset_of_run hrun hjournal), hsendable.wellFormed⟩
  · intro hcommon hread m c' hstep hrefuses
    have hbad (f : Frame) : ¬ checkRequest f.bytes ≠ .ok () := not_not_intro (checkRequest_bytes f)
    rw [trail_concat hrun hstep] at hrefuses
    obtain ⟨hbefore, hnow⟩ := List.forall_mem_append.mp hrefuses
    have hunrefused := unrefused_of_run hbad hcommon hread hbefore hrun
    have hturn := transition_of_step? hstep
    obtain ⟨added, hadded, -⟩ := hturn.adds
    exact ⟨added, hadded, fun q s => hunrefused.returned hbad (hnow _ (List.mem_singleton_self _))
      hturn hadded⟩

namespace Worker

/-- Settings under which the second silence ends a request. -/
def impatient : Settings := { commonRetries := 2, readRetries := 2 }

/-- A session in which an event meets with silence twice. -/
def silentSession : List Move :=
  [.proceed, .proceed, .pulse .done, .presence true, .opened none, .proceed,
    .reply (.answer (.ok [0x57, 0xAB, 0x00, 0x81, 0x03, 0x30, 0x01, 0x05, 0xBC])),
    .outside (.queue (.wheel 0 (-128))), .proceed, .proceed, .proceed, .proceed,
    .reply (.answer (.error (.shortRead 5 0))), .proceed,
    .reply (.answer (.error (.shortRead 5 0)))]

example :
    (run ⟨impatient, false, 1⟩ (initial .initial) (silentSession ++ [.proceed])).map
        (·.desk.deeds) =
      some [.pulsed, .looked true, .opened true, .began .entry, .sent getInfoFrame.bytes,
        .returned .entry true, .began (.event (.wheel 0 (-128))),
        .sent (Event.wheel 0 (-128)).frame.bytes, .sent (Event.wheel 0 (-128)).frame.bytes,
        .returned (.event (.wheel 0 (-128))) false] := by
  decide

theorem requests_wellformed_silent :
    ∃ c c', run ⟨impatient, false, 1⟩ (initial .initial) silentSession = some c ∧
      step? ⟨impatient, false, 1⟩ c .proceed = some c' ∧
      (∃ journal, c.desk.journal = journal ++ [] ∧
        ∀ r probe s, .sent r probe s ∈ journal →
          Sendable ([] ++ arrivals journal) r ∧ WellFormed r) ∧
      ∃ added, c'.desk.journal = added ++ c.desk.journal ∧
        ∀ q s, .returned q false s ∈ added → s.online = false ∨
          Overwritten (trail ⟨impatient, false, 1⟩ (initial .initial) silentSession) := by
  obtain ⟨c', hwhole⟩ : ∃ c',
      run ⟨impatient, false, 1⟩ (initial .initial) (silentSession ++ [.proceed]) = some c' :=
    Option.isSome_iff_exists.mp (by decide)
  obtain ⟨c, hrun, hstep⟩ := run_concat.mp hwhole
  obtain ⟨hsent, hfails, -, -⟩ :=
    requests_wellformed ⟨impatient, false, 1⟩ .initial silentSession c hrun
  exact ⟨c, c', hrun, hstep, hsent,
    hfails (by decide) (by decide) .proceed c' hstep (by decide)⟩

end Worker

end SerialHid
