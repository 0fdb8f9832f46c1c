/-
SerialHid.Proofs.Drain — a worker that is to end sends what waits, if nothing goes wrong.

* `GoesWell` — a step in which nothing goes wrong; `Undisturbed` — where a worker can stand as
  long as that is so.
* `Carried` — the frames that were sent or are due are those of the events that came, by
  `Transition.frames_eq`.
* `Drains` — the end is reached with an empty queue only, by `Drains.step`.
* `exists_goesWell` — the worker can always go on without anything going wrong.
* `Worker.shutdown_sends` — what comes of all that if the end is asked for in a pass, and that
  nothing is sent otherwise; `unsent_when_cleaned_at_once` is such a run.
-/
import SerialHid.Proofs.Codec
import SerialHid.Proofs.Retry
import SerialHid.Proofs.Shutdown

namespace SerialHid

/-! ## What is promised -/

/-- The device is looked for, and requests are really sent. -/
structure Setup.Sends (setup : Setup) : Prop where
  looks : 0 < setup.attempts
  real : setup.settings.noop = false
  common : 0 < setup.settings.commonRetries
  read : 0 < setup.settings.readRetries

/-- Nothing goes wrong in a step: the device is there and can be opened, a request is answered
with its acknowledgement, and nobody throws events away. -/
def GoesWell : Config × Move → Prop
  | (c, .reply (.answer a)) => ∀ r ∈ c.point.pending?, Settles r a
  | (_, .reply (.crash _)) => False
  | (_, .presence present) => present = true
  | (_, .opened failure) => failure = none
  | (_, .outside a) => a ≠ .clear
  | (_, .proceed) | (_, .pulse _) | (_, .timeout) => True

instance (s : Config × Move) : Decidable (GoesWell s) :=
  match s with
  | (c, .reply (.answer a)) => inferInstanceAs (Decidable (∀ r ∈ c.point.pending?, Settles r a))
  | (_, .reply (.crash _)) => isFalse id
  | (_, .presence present) => inferInstanceAs (Decidable (present = true))
  | (_, .opened failure) => inferInstanceAs (Decidable (failure = none))
  | (_, .outside a) => inferInstanceAs (Decidable (a ≠ .clear))
  | (_, .proceed) | (_, .pulse _) | (_, .timeout) => isTrue trivial

/-! ## One step -/

/-- Where a worker can stand as long as nothing goes wrong. -/
def Undisturbed : Point → Prop
  | .looking left => 0 < left
  | .session (.request _ j) =>
    j.exhausted = false ∧ (j.stage = .ready true ∨ j.stage = .asked)
  | .absent _ | .faulted _ | .telling _ | .pausing => False
  | .session .flushing | .session .checking => False
  | _ => True

namespace Worker

variable {setup : Setup} {d : Desk} {p : Point} {m : Move} {c c' : Config}

theorem undisturbed_begin (hsends : setup.Sends) (q : Purpose) (d : Desk) :
    Undisturbed (begin setup q d).point := by
  have hcommon : setup.settings.commonRetries ≠ 0 := Nat.ne_of_gt hsends.common
  have hread : setup.settings.readRetries ≠ 0 := Nat.ne_of_gt hsends.read
  refine ⟨?_, .inl rfl⟩
  simp [Job.exhausted, Job.start, hcommon, hread]

/-- A request that nothing disturbs goes out, and then it is settled. -/
theorem undisturbed_follow {q : Purpose} {j : Job} {i : Job.Input} {pd : Progress × Desk}
    (hsends : setup.Sends) (h : Undisturbed (.session (.request q j)))
    (hwell : ∀ a, i = .answer a → ∀ r ∈ j.pending?, Settles r a)
    (hturn : Job.Turn setup.settings j d i pd) : Undisturbed (follow q pd).point := by
  obtain ⟨hleft, hstage⟩ := h
  have hfailed {a : Answer} {f : Failure} (hi : i = .answer a) (hasked : j.stage = .asked)
      (hjudge : judge j.request a = .failed f) : False := by
    have hsettles : Settles j.request a := hwell a hi _ (by simp [Job.pending?, hasked])
    have hsuccess := (judge_isSuccess_iff j.request a).mpr hsettles
    simp [hjudge, Verdict.isSuccess] at hsuccess
  cases hturn with
  | exhausted first _ hspent => exact Bool.noConfusion (hspent.symm.trans hleft)
  | abandoned hready => simp [hready] at hstage
  | pretended first _ _ hnoop => exact Bool.noConfusion (hnoop.symm.trans hsends.real)
  | sent => exact ⟨hleft, .inr rfl⟩
  | settled | status => cases q <;> trivial
  | garbled a f hasked hjudge => exact (hfailed rfl hasked hjudge).elim
  | failed a f hasked hjudge => exact (hfailed rfl hasked hjudge).elim
  | resumed a f hprobing => simp [hprobing] at hstage

theorem Transition.undisturbed (hsends : setup.Sends) (hwell : GoesWell (⟨d, p⟩, m))
    (h : Undisturbed p) (hstep : Transition setup d p m c') : Undisturbed c'.point := by
  cases hstep with
  | others p a => exact h
  | initialPulsed hit => exact hsends.looks
  | gaveUp => exact absurd h (Nat.lt_irrefl 0)
  | notFound left => exact Bool.noConfusion hwell
  | waited | emptied | faultTold | rested => exact h.elim
  | flushed | stillThere | disappeared => exact h.elim
  | openFailed e => cases hwell
  | crashed q j message request hpending => exact hwell.elim
  | opened | chipReset | received | idled => exact undisturbed_begin hsends _ _
  | requestWent q j pd hturn =>
    exact undisturbed_follow hsends h (fun _ ha => Job.Input.noConfusion ha) hturn
  | requestAnswered q j a pd hturn =>
    refine undisturbed_follow hsends h ?_ hturn
    rintro _ ⟨⟩
    exact hwell
  | headed => cases d.stop <;> trivial
  | _ => trivial

/-- A step that goes well loses no frame that is due. -/
theorem Transition.frames_eq (hsends : setup.Sends) (hwell : GoesWell (⟨d, p⟩, m))
    (h : Undisturbed p) (hfaithful : Faithful p) (hstep : Transition setup d p m c') :
    c'.frames =
      Config.frames ⟨d, p⟩ ++ (accepted? (⟨d, p⟩, m)).toList.map (·.frame.bytes) := by
  have hhandover : Handover setup d p m c' := hstep.handover hfaithful
  cases hhandover with
  | kept p m c' hnone hsame =>
    rw [hsame, hnone]
    exact (List.append_nil _).symm
  | queued p e hopen =>
    have hdeeds := d.deeds_act (.queue e)
    simp only [Desk.act, hopen, if_true] at hdeeds ⊢
    simp only [Config.frames, Config.due, accepted?, hopen, hdeeds, if_true, Desk.record_fields]
    simp
  | lost p m c' hless hcause =>
    exfalso
    cases hcause with
    | cleared p => exact hwell rfl
    | flushed | faulted f => exact h
    | unsent q j hnone =>
      rcases hnone with hspent | hnoop
      · exact Bool.noConfusion (hspent.symm.trans h.1)
      · exact Bool.noConfusion (hnoop.symm.trans hsends.real)
  | resent q j c' hstage hgo =>
    obtain ⟨-, hstage'⟩ := h
    simp [hstage] at hstage'

/-- The worker has looked once whether it is to end, and comes to the end with an empty queue
only. -/
structure Drains (c : Config) : Prop where
  begun : c.point ≠ .starting
  emptied : c.point = .top ∨ c.point = .ended → c.desk.queue = []

theorem Drains.of_pass (h : c.point.isIdle = false) : Drains c where
  begun := by
    intro hpoint
    simp [hpoint, Point.isIdle] at h
  emptied := by
    rintro (hpoint | hpoint) <;> simp [hpoint, Point.isIdle] at h

theorem exists_session_follow (q : Purpose) (pd : Progress × Desk) :
    ∃ s, (follow q pd).point = .session s := by
  rcases pd with ⟨_ | _, d⟩ <;> exact ⟨_, rfl⟩

theorem Drains.step (h : Drains c) (hstop : c.desk.stop = true) (hclear : Undisturbed c.point)
    (hquiet : bringsWork (c, m) = false) (hstep : Transition setup c.desk c.point m c') :
    Drains c' := by
  obtain ⟨hbegun, hemptied⟩ := h
  obtain ⟨d, p⟩ := c
  cases hstep with
  | others p a =>
    have hnone : d.queue = [] → (d.act a).queue = [] := by
      have haccepted := accepted?_eq_none hquiet
      cases a <;> simp_all [Desk.act, accepted?, apply_ite Desk.queue]
    exact ⟨hbegun, fun hpoint => hnone (hemptied hpoint)⟩
  | requestWent q j pd hturn | requestAnswered q j a pd hturn =>
    obtain ⟨s, hs⟩ := exists_session_follow q pd
    exact ⟨by simp [hs], by simp [hs]⟩
  | started => exact absurd rfl hbegun
  | drained hqueue => exact ⟨Point.noConfusion, fun _ => hqueue⟩
  | queueClosed hqueue hclosed => exact ⟨Point.noConfusion, fun _ => hqueue⟩
  | stopped => exact ⟨Point.noConfusion, fun _ => hemptied (.inl rfl)⟩
  | gaveUp => exact absurd hclear (Nat.lt_irrefl 0)
  | passBegan hgo => exact Bool.noConfusion (hgo.symm.trans hstop)
  | waited | emptied | faultTold | rested => exact hclear.elim
  | flushed | stillThere | disappeared => exact hclear.elim
  | _ => exact ⟨by simp [begin], by simp [begin]⟩

/-! ## Runs -/

theorem accepted_append (s t : List (Config × Move)) :
    accepted (s ++ t) = accepted s ++ accepted t :=
  List.filterMap_append

/-- How the worker stands after a run in which nothing went wrong. -/
structure Carried (setup : Setup) (d : Desk) (steps : List (Config × Move)) (c : Config) :
    Prop where
  passes : ∃ v, InPasses setup v c.point
  clear : Undisturbed c.point
  frames : c.frames =
    eventFrames d.deeds ++ (d.queue ++ accepted steps).map (·.frame.bytes)

theorem Carried.start (setup : Setup) (d : Desk) : Carried setup d [] (initial d) where
  passes := ⟨[], .start setup d⟩
  clear := trivial
  frames := by simp [Config.frames, Config.due, initial, Point.inHand, accepted]

theorem Carried.step {steps : List (Config × Move)} (hsends : setup.Sends)
    (h : Carried setup d steps c) (hwell : GoesWell (c, m))
    (hstep : Transition setup c.desk c.point m c') : Carried setup d (steps ++ [(c, m)]) c' := by
  obtain ⟨v, hpasses⟩ := h.passes
  obtain ⟨added, -, hpasses'⟩ := hpasses.step hstep
  refine ⟨⟨_, hpasses'⟩, hstep.undisturbed hsends hwell h.clear, ?_⟩
  have hframes : c'.frames = c.frames ++ (accepted? (c, m)).toList.map (·.frame.bytes) :=
    hstep.frames_eq hsends hwell h.clear hpasses.faithful
  have haccepted : accepted (steps ++ [(c, m)]) = accepted steps ++ (accepted? (c, m)).toList := by
    rw [accepted_append]
    cases hs : accepted? (c, m) <;> simp [accepted, hs]
  rw [hframes, h.frames, haccepted]
  simp

theorem carried_of_run {ms : List Move} (hsends : setup.Sends)
    (hwell : ∀ s ∈ trail setup (initial d) ms, GoesWell s)
    (hrun : run setup (initial d) ms = some c) :
    Carried setup d (trail setup (initial d) ms) c := by
  refine run_induction (P := fun steps c => (∀ s ∈ steps, GoesWell s) → Carried setup d steps c)
    (fun _ => .start setup d) ?_ hrun hwell
  intro steps m c c' _ h hstep hwell
  obtain ⟨hbefore, hnow⟩ := List.forall_mem_append.mp hwell
  exact (h hbefore).step hsends (hnow _ (List.mem_singleton_self _)) hstep

theorem deeds_of_stopped {ms : List Move} (hstop : c.desk.stop = true)
    (hidle : c.point.isIdle = true) (hrun : run setup c ms = some c') :
    c'.desk.deeds = c.desk.deeds := by
  have h : c'.desk.stop = true ∧ c'.point.isIdle = true ∧ c'.desk.deeds = c.desk.deeds := by
    refine run_induction (P := fun _ c' => c'.desk.stop = true ∧ c'.point.isIdle = true ∧
      c'.desk.deeds = c.desk.deeds) ⟨hstop, hidle, rfl⟩ ?_ hrun
    rintro - m c₁ c₂ - ⟨hstop, hidle, hsame⟩ hstep
    obtain ⟨hsame', hidle'⟩ := hstep.stays_idle hstop hidle
    exact ⟨hstep.stop_of_stop hstop, hidle', hsame'.trans hsame⟩
  exact h.2.2

theorem drains_of_run {ms : List Move} (hsends : setup.Sends) (hstop : c.desk.stop = true)
    (hclear : Undisturbed c.point) (hdrains : Drains c)
    (hwell : ∀ s ∈ trail setup c ms, GoesWell s)
    (hquiet : ∀ s ∈ trail setup c ms, bringsWork s = false)
    (hrun : run setup c ms = some c') : Drains c' := by
  have h : c'.desk.stop = true ∧ Undisturbed c'.point ∧ Drains c' := by
    refine run_induction (P := fun steps c' => (∀ s ∈ steps, GoesWell s ∧ bringsWork s = false) →
      c'.desk.stop = true ∧ Undisturbed c'.point ∧ Drains c')
      (fun _ => ⟨hstop, hclear, hdrains⟩) ?_ hrun (fun s hs => ⟨hwell s hs, hquiet s hs⟩)
    intro steps m c₁ c₂ _ h hstep hsteps
    obtain ⟨hbefore, hnow⟩ := List.forall_mem_append.mp hsteps
    obtain ⟨hstop, hclear, hdrains⟩ := h hbefore
    obtain ⟨hwell, hquiet⟩ := hnow _ (List.mem_singleton_self _)
    exact ⟨hstep.stop_of_stop hstop, hstep.undisturbed hsends hwell hclear,
      hdrains.step hstop hclear hquiet hstep⟩
  exact h.2.2

/-! ## Acknowledgements -/

/-- A simple command can be acknowledged. -/
theorem exists_settles_frame (f : Frame) (hpos : 0x01 ≤ f.command) (hsimple : f.command ≤ 0x0F) :
    ∃ a, Settles f.bytes a := by
  let ack : Frame := ⟨ackOf f.command, [0x30, 0x01, 0x00], by decide⟩
  have hframe : ack ∈ Answer.frame? (.ok ack.bytes) := by
    rw [Answer.frame?, Frame.parse_bytes]
    rfl
  have hcode : f.command ∈ f.bytes[3]? := by simp [Frame.bytes, Frame.body, frameHeader]
  refine ⟨.ok ack.bytes, ack, hframe, f.command, hcode, .inr ?_⟩
  by_cases hinfo : f.command = 0x01
  · left
    refine ⟨hinfo, ?_, Nat.le_refl _⟩
    simp only [ack, hinfo]
    decide
  · right
    have hpos' := UInt8.le_iff_toNat_le.mp hpos
    have hsimple' := UInt8.le_iff_toNat_le.mp hsimple
    have hne : f.command.toNat ≠ (0x01 : UInt8).toNat := mt UInt8.toNat_inj.mp hinfo
    refine ⟨?_, hsimple, ?_⟩
    · rw [UInt8.le_iff_toNat_le]
      simp at hne hpos' ⊢
      omega
    · simp [ack, ackOf, ackOffset, UInt8.toNat_add] at hsimple' ⊢
      omega

theorem exists_settles (q : Purpose) : ∃ a, Settles q.request a := by
  cases q with
  | entry | idle => exact exists_settles_frame getInfoFrame (by decide) (by decide)
  | chipReset => exact exists_settles_frame resetFrame (by decide) (by decide)
  | event e =>
    have hcommand := e.command_mem
    simp only [List.mem_cons, List.not_mem_nil, or_false] at hcommand
    refine exists_settles_frame e.frame ?_ ?_ <;>
      rcases hcommand with hcode | hcode | hcode <;> rw [hcode] <;> decide

/-- Where nothing went wrong, the worker can go on without anything going wrong. -/
theorem exists_goesWell (hclear : Undisturbed c.point) (hfaithful : Faithful c.point)
    (hpoint : c.point ≠ .ended) :
    ∃ m c', m.isOwn = true ∧ GoesWell (c, m) ∧ step? setup c m = some c' := by
  suffices hwell : ∃ a, GoesWell (c, nextMove a c) by
    obtain ⟨a, hwell⟩ := hwell
    obtain ⟨c', hstep⟩ := exists_step?_nextMove setup a hpoint
    exact ⟨nextMove a c, c', isOwn_nextMove a c, hwell, hstep⟩
  obtain ⟨d, p⟩ := c
  cases p with
  | looking left =>
    cases left with
    | zero => exact ⟨.ok [], trivial⟩
    | succ left => exact ⟨.ok [], rfl⟩
  | opening => exact ⟨.ok [], rfl⟩
  | session s =>
    cases s with
    | request q j =>
      obtain ⟨a, ha⟩ := exists_settles q
      refine ⟨a, ?_⟩
      rcases hclear.2 with hstage | hstage
      · simp [nextMove, Job.pending?, hstage, GoesWell]
      · have hrequest : j.request = q.request := hfaithful q j rfl
        simpa [nextMove, Job.pending?, hstage, GoesWell, Point.pending?, hrequest] using ha
    | receiving =>
      refine ⟨.ok [], ?_⟩
      simp only [nextMove]
      split <;> trivial
    | checking => exact hclear.elim
    | _ => exact ⟨.ok [], trivial⟩
  | _ => exact ⟨.ok [], trivial⟩

end Worker

/-- What is promised of a worker whose end is asked for while a pass is under way: what came
before is `events`, and so many of them wait. -/
structure SendsOut (setup : Setup) (d : Desk) (events : List Event) (n : Nat) (ms : List Move)
    (c : Config) : Prop where
  /-- In the end everything that came was sent, once and in its order, and nothing waits. -/
  sent : c.point = .ended →
    c.desk.queue = [] ∧
      ∃ w, c.desk.deeds = d.deeds ++ w ∧ eventFrames w = events.map (·.frame.bytes)
  /-- There is an end to the moves of the worker, -/
  moves : ms.countP Move.isOwn ≤ 10 * n + 27
  /-- and until it has ended there is another one, in which nothing goes wrong. -/
  goesOn : c.point ≠ .ended →
    ∃ m c', m.isOwn = true ∧ GoesWell (c, m) ∧ Worker.step? setup c m = some c'

/-- **A worker that is to end sends what waits, but only in a pass.** If nothing goes wrong from
the start, and the end is asked for in a pass, every event that came before is sent once and in
order until the worker ends, which it does. If the end is asked for before the first pass, nothing
is done any more. -/
theorem Worker.shutdown_sends (setup : Setup) (hsends : setup.Sends) (d : Desk)
    (early late : List Move) (c₀ c : Config) (hearly : run setup (initial d) early = some c₀)
    (hlate : run setup c₀ (.outside .stop :: late) = some c)
    (hwell : ∀ s ∈ trail setup (initial d) (early ++ .outside .stop :: late), GoesWell s)
    (hquiet : ∀ s ∈ trail setup c₀ (.outside .stop :: late), bringsWork s = false) :
    (c₀.point.isIdle = false →
      SendsOut setup d (d.queue ++ accepted (trail setup (initial d) early))
        c₀.desk.queue.length late c) ∧
    (c₀.point.isIdle = true → c.desk.deeds = c₀.desk.deeds) := by
  obtain ⟨hrun, htrail⟩ := run_append hearly (.outside .stop :: late)
  replace hrun := hrun.trans hlate
  have hall : Carried setup d _ c := carried_of_run hsends hwell hrun
  rw [htrail] at hwell hall
  obtain ⟨hwellEarly, hwellLate⟩ := List.forall_mem_append.mp hwell
  have hbefore : Carried setup d _ c₀ := carried_of_run hsends hwellEarly hearly
  -- The stop is one step, and the worker winds down from there.
  let c₁ : Config := ⟨c₀.desk.act .stop, c₀.point⟩
  have hlate₁ : run setup c₁ late = some c := hlate
  have hsteps : trail setup c₀ (.outside .stop :: late) =
      (c₀, .outside .stop) :: trail setup c₁ late := rfl
  have haccepted : accepted (trail setup c₀ (.outside .stop :: late)) = [] :=
    List.filterMap_eq_nil_iff.mpr fun s hs => accepted?_eq_none (hquiet s hs)
  rw [hsteps] at hwellLate hquiet
  have hquiet₁ : ∀ s ∈ trail setup c₁ late, bringsWork s = false :=
    fun s hs => hquiet s (List.mem_cons_of_mem _ hs)
  refine ⟨fun hpass => ⟨?_, ?_, ?_⟩, fun hidle => ?_⟩
  · intro hended
    have hwell₁ : ∀ s ∈ trail setup c₁ late, GoesWell s :=
      fun s hs => hwellLate s (List.mem_cons_of_mem _ hs)
    have hdrained : Drains c :=
      drains_of_run (c := c₁) hsends rfl hbefore.clear (.of_pass hpass) hwell₁ hquiet₁ hlate₁
    have hqueue : c.desk.queue = [] := hdrained.emptied (.inr hended)
    have hdue : c.due = [] := by simp [Config.due, hended, Point.inHand, hqueue]
    obtain ⟨w, hw, -⟩ := inPasses_of_run hrun
    refine ⟨hqueue, w, hw, ?_⟩
    have hframes := hall.frames
    rw [Config.frames, hdue, List.append_nil, hw, eventFrames_append, accepted_append,
      haccepted, List.append_nil] at hframes
    exact List.append_cancel_left hframes
  · have hearly₁ : run setup (initial d) (early ++ [.outside .stop]) = some c₁ :=
      run_concat.mpr ⟨c₀, hearly, rfl⟩
    exact (wound_of_run hearly₁ rfl hlate₁ hquiet₁).countP_isOwn hlate₁
  · intro hended
    obtain ⟨v, hpasses⟩ := hall.passes
    exact exists_goesWell hall.clear hpasses.faithful hended
  · exact (deeds_of_stopped (c := c₁) rfl hidle hlate₁).trans (c₀.desk.deeds_act .stop)

namespace Worker

/-- The right answer to a request for the status, and the one to an event of the mouse. -/
def statusAnswer : Answer := .ok [0x57, 0xAB, 0x00, 0x81, 0x03, 0x30, 0x01, 0x05, 0xBC]

def mouseAnswer : Answer := .ok [0x57, 0xAB, 0x00, 0x85, 0x01, 0x00, 0x88]

/-- Two events are queued, and the end is asked for while the device is being looked for. -/
def lookingAtStop : List Move :=
  [.outside (.queue (.wheel 0 1)), .proceed, .proceed, .pulse .done,
    .outside (.queue (.wheel 0 2))]

def drainedAtStop : List Move :=
  [.outside .closeQueue, .presence true, .opened none, .proceed, .reply (.answer statusAnswer),
    .proceed, .proceed, .proceed, .proceed, .proceed, .reply (.answer mouseAnswer), .proceed,
    .proceed, .proceed, .proceed, .proceed, .reply (.answer mouseAnswer), .proceed, .proceed,
    .proceed]

example :
    (run ⟨{}, true, 10⟩ (initial .initial)
        (lookingAtStop ++ .outside .stop :: drainedAtStop)).map
      (fun c => (eventFrames c.desk.deeds, c.point)) =
      some ([(Event.wheel 0 1).frame.bytes, (Event.wheel 0 2).frame.bytes], .ended) := by
  decide

/-- The end is asked for, and no more events can come, before the worker has begun. -/
def cleanedAtOnce : List Move :=
  [.outside (.queue (.wheel 0 1)), .outside .stop, .outside .closeQueue, .proceed, .proceed]

theorem unsent_when_cleaned_at_once :
    ∃ c, run ⟨{}, true, 10⟩ (initial .initial) cleanedAtOnce = some c ∧
      (∀ s ∈ trail ⟨{}, true, 10⟩ (initial .initial) cleanedAtOnce, GoesWell s) ∧
      accepted (trail ⟨{}, true, 10⟩ (initial .initial) cleanedAtOnce) = [.wheel 0 1] ∧
      c.point = .ended ∧ c.desk.queue = [.wheel 0 1] ∧ c.desk.deeds = [] := by
  obtain ⟨c, hrun⟩ : ∃ c, run ⟨{}, true, 10⟩ (initial .initial) cleanedAtOnce = some c :=
    Option.isSome_iff_exists.mp (by decide)
  have hend : (run ⟨{}, true, 10⟩ (initial .initial) cleanedAtOnce).map
      (fun c => (c.point, c.desk.queue, c.desk.deeds)) = some (.ended, [.wheel 0 1], []) := by
    decide
  rw [hrun] at hend
  simp only [Option.map_some, Option.some.injEq, Prod.mk.injEq] at hend
  exact ⟨c, hrun, by decide, by decide, hend⟩

theorem shutdown_sends_looking :
    ∃ c₀ c, Setup.Sends ⟨{}, true, 10⟩ ∧
      run ⟨{}, true, 10⟩ (initial .initial) lookingAtStop = some c₀ ∧
      c₀.point.isIdle = false ∧
      run ⟨{}, true, 10⟩ c₀ (.outside .stop :: drainedAtStop) = some c ∧
      (∀ s ∈ trail ⟨{}, true, 10⟩ (initial .initial)
        (lookingAtStop ++ .outside .stop :: drainedAtStop), GoesWell s) ∧
      (∀ s ∈ trail ⟨{}, true, 10⟩ c₀ (.outside .stop :: drainedAtStop), bringsWork s = false) ∧
      SendsOut ⟨{}, true, 10⟩ .initial
        (accepted (trail ⟨{}, true, 10⟩ (initial .initial) lookingAtStop)) c₀.desk.queue.length
        drainedAtStop c := by
  have hsends : Setup.Sends ⟨{}, true, 10⟩ := ⟨by decide, by decide, by decide, by decide⟩
  obtain ⟨c₀, hearly⟩ : ∃ c, run ⟨{}, true, 10⟩ (initial .initial) lookingAtStop = some c :=
    Option.isSome_iff_exists.mp (by decide)
  have hfits : (run ⟨{}, true, 10⟩ (initial .initial) lookingAtStop).all (fun c =>
      !c.point.isIdle && (run ⟨{}, true, 10⟩ c (.outside .stop :: drainedAtStop)).isSome &&
        (trail ⟨{}, true, 10⟩ c (.outside .stop :: drainedAtStop)).all
          fun s => !bringsWork s) = true := by
    decide
  rw [hearly, Option.all_some, Bool.and_eq_true, Bool.and_eq_true] at hfits
  obtain ⟨⟨hpass, hlate⟩, hquiet⟩ := hfits
  obtain ⟨c, hlate⟩ := Option.isSome_iff_exists.mp hlate
  have hpass : c₀.point.isIdle = false := by simpa using hpass
  have hquiet : ∀ s ∈ trail ⟨{}, true, 10⟩ c₀ (.outside .stop :: drainedAtStop),
      bringsWork s = false := by
    simpa using hquiet
  have hwell : ∀ s ∈ trail ⟨{}, true, 10⟩ (initial .initial)
      (lookingAtStop ++ .outside .stop :: drainedAtStop), GoesWell s := by
    decide
  have hpromise := shutdown_sends ⟨{}, true, 10⟩ hsends .initial lookingAtStop drainedAtStop c₀ c
    hearly hlate hwell hquiet
  exact ⟨c₀, c, hsends, hearly, hpass, hlate, hwell, hquiet, hpromise.1 hpass⟩

end Worker

end SerialHid
