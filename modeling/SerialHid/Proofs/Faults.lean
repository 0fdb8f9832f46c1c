/-
SerialHid.Proofs.Faults — a fault ends the pass, and nothing else.

* `Move.fault?` — the two ways in which things go wrong: the connection collapses, or cannot be
  opened.
* `Worker.FaultTold`, `Worker.SentAnew` — what is promised of the moment at which a fault is told,
  and of what is sent once the queue was emptied.
* `Worker.Contained` — how a run goes on from a fault: others act, the queue is emptied, others act,
  the fault is told.
* `Worker.Transition.faults_eq` — faults are told one for one.
* `Worker.OnlyProceeds`, `Worker.run_of_onlyProceeds` — after a fault the worker does nothing before
  it has emptied the queue, and then nothing before it has told the fault.
* `Worker.faults_contained` — all of it of every run.
* `Worker.queued_before_told` — what others queue once the queue was emptied is not thrown away, and
  may be there when the fault is told.
-/
import SerialHid.Proofs.Sent
import SerialHid.Proofs.Shutdown

namespace SerialHid

/-! ## What is promised -/

/-- What goes wrong with a move: the connection collapses, or cannot be opened. -/
def Move.fault? : Move → Option Fault
  | .reply (.crash message) => some (.crash message)
  | .opened (some e) => some (.openFailed e)
  | _ => none

/-- A fault is yet to be told. -/
def Point.isFaulted : Point → Bool
  | .faulted _ | .telling _ => true
  | _ => false

namespace Worker

/-- What a fault leaves in the journal: a connection is closed, or could not be opened. -/
def faultEntry (c : Config) : Entry :=
  if c.point.isConnected then .closed c.desk.state else .opened false c.desk.state

/-- What is promised of the moment at which the fault of `c` is told, in a run that began at `d`,
where others acted before the queue was emptied and after it. -/
structure FaultTold (setup : Setup) (d : Desk) (c : Config) (f : Fault) (before after : List Act)
    (told : Desk) : Prop where
  /-- What waits was queued after the queue was emptied. -/
  queue : told.queue.Sublist (after.filterMap Act.queued?)
  state : (∀ s, .publish s ∉ before ++ after) → told.state = c.desk.state
  stop : told.stop = true ↔ c.desk.stop = true ∨ .stop ∈ before ++ after
  resetWanted : told.resetWanted = true ↔ c.desk.resetWanted = true ∨ .askReset ∈ before ++ after
  /-- The connection is closed, the fault is told, and nothing else is done. -/
  deeds : told.deeds = c.desk.deeds ++ ((faultEntry c).deed?.toList ++ [.fault f])
  /-- The pass is over, and no connection is left. -/
  whole : ∃ passes : List (List Deed), told.deeds = d.deeds ++ passes.flatten ∧
    (∀ v ∈ passes, Pass setup.wired setup.attempts v) ∧ Connected passes.flatten false

/-- What is promised of what is sent once the queue was emptied after a fault: it has nothing to do
with any event that came before. -/
def SentAnew (bare : Desk) (c : Config) : Prop :=
  ∃ added, c.desk.journal = added ++ bare.journal ∧
    (∀ r probe s, .sent r probe s ∈ added → Sendable (handedOver added) r) ∧
    (handedOver added ++ c.desk.queue).Sublist (arrivals added)

/-- How a run that began at `d` goes on after the fault `f` of `c`, which led to `c'`. -/
inductive Contained (setup : Setup) (d : Desk) (c : Config) (f : Fault) (c' : Config) :
    List Move → Config → Prop where
  /-- Nobody but others has acted. -/
  | standing (before : List Act) :
      Contained setup d c f c' (before.map .outside) ⟨c'.desk.acts before, .faulted f⟩
  /-- The queue was emptied, and then others acted. -/
  | emptied (before after : List Act) (bare : Desk)
      (hbare : run setup c' (before.map .outside ++ [.proceed]) = some ⟨bare, .telling f⟩)
      (hqueue : bare.queue = []) :
      Contained setup d c f c' (before.map .outside ++ .proceed :: after.map .outside)
        ⟨bare.acts after, .telling f⟩
  /-- And then the fault was told. -/
  | told (before after : List Act) (bare told : Desk) (later : List Move) (c'' : Config)
      (hbare : run setup c' (before.map .outside ++ [.proceed]) = some ⟨bare, .telling f⟩)
      (hqueue : bare.queue = [])
      (htold : run setup ⟨bare, .telling f⟩ (after.map .outside ++ [.proceed]) =
        some ⟨told, .pausing⟩)
      (hfault : FaultTold setup d c f before after told) (hanew : SentAnew bare c'') :
      Contained setup d c f c'
        (before.map .outside ++ .proceed :: (after.map .outside ++ .proceed :: later)) c''

variable {setup : Setup} {d : Desk} {p : Point} {m : Move} {c c' : Config} {f : Fault}

/-! ## One step -/

theorem isResponse_of_fault (hm : m.fault?.isSome = true) : m.isResponse = true := by
  cases m <;> first | rfl | cases hm

/-- A fault leaves everything as it is, except that the connection is closed. -/
theorem Transition.eq_faulted (hm : m.fault? = some f) (h : Transition setup d p m c') :
    c' = ⟨d.record (faultEntry ⟨d, p⟩), .faulted f⟩ := by
  cases h with
  | crashed | openFailed =>
    cases hm
    rfl
  | _ => cases hm

/-- Faults are told one for one. -/
theorem Transition.faults_eq (h : Transition setup d p m c') :
    faults c'.desk.deeds + c'.point.isFaulted.toNat =
      faults d.deeds + p.isFaulted.toNat + m.fault?.isSome.toNat := by
  have hquiet (hpoint : c'.point ≠ .pausing) (hpending : c'.point.isFaulted = p.isFaulted)
      (hm : m.fault? = none) :
      faults c'.desk.deeds + c'.point.isFaulted.toNat =
        faults d.deeds + p.isFaulted.toNat + m.fault?.isSome.toNat := by
    have hsame := h.fault.resolve_right fun ⟨_, _, hpausing⟩ => hpoint hpausing
    rw [hsame, hpending, hm]
    rfl
  cases h with
  | others p a => simp [Move.fault?]
  | emptied => simp [Point.isFaulted, Move.fault?]
  | faultTold f => simp [faults, Entry.deed?, Deed.isFault, Point.isFaulted, Move.fault?]
  | crashed | openFailed =>
    simp [faults, Entry.deed?, Deed.isFault, Point.isFaulted, Move.fault?]
  | requestWent q j pd hturn | requestAnswered q j a pd hturn =>
    rcases pd with ⟨j' | ok, d'⟩ <;> exact hquiet (by rintro ⟨⟩) rfl rfl
  | waited | headed => exact hquiet (by split <;> rintro ⟨⟩) (by split <;> rfl) rfl
  | _ => exact hquiet (by rintro ⟨⟩) rfl rfl

/-! ## Runs -/

theorem faults_of_run {ms : List Move} (hrun : run setup c ms = some c') :
    faults c'.desk.deeds + c'.point.isFaulted.toNat =
      faults c.desk.deeds + c.point.isFaulted.toNat + ms.countP (·.fault?.isSome) := by
  induction ms generalizing c with
  | nil =>
    cases hrun
    rfl
  | cons m ms ih =>
    obtain ⟨c₁, hstep, hrest⟩ := Option.bind_eq_some_iff.mp hrun
    have hturn := (transition_of_step? hstep).faults_eq
    have hcount : (m :: ms).countP (·.fault?.isSome) =
        ms.countP (·.fault?.isSome) + m.fault?.isSome.toNat := by
      cases hm : m.fault?.isSome <;> simp [hm]
    rw [ih hrest, hturn, hcount]
    omega

/-- At this point the worker can do nothing but proceed, and then it is as `next` says. -/
def OnlyProceeds (setup : Setup) (p : Point) (next : Desk → Config) : Prop :=
  ∀ d m c, Transition setup d p m c →
    (∃ a, m = .outside a ∧ c = ⟨d.act a, p⟩) ∨ m = .proceed ∧ c = next d

theorem onlyProceeds_faulted (setup : Setup) (f : Fault) :
    OnlyProceeds setup (.faulted f) fun d => ⟨d.discard, .telling f⟩ := by
  intro d m c h
  cases h with
  | others p a => exact .inl ⟨a, rfl, rfl⟩
  | emptied => exact .inr ⟨rfl, rfl⟩

theorem onlyProceeds_telling (setup : Setup) (f : Fault) :
    OnlyProceeds setup (.telling f) fun d => ⟨d.note (.fault f), .pausing⟩ := by
  intro d m c h
  cases h with
  | others p a => exact .inl ⟨a, rfl, rfl⟩
  | faultTold => exact .inr ⟨rfl, rfl⟩

/-- There others may act first, and then the worker proceeds. -/
theorem run_of_onlyProceeds {next : Desk → Config} {ms : List Move}
    (hp : OnlyProceeds setup p next) (hrun : run setup ⟨d, p⟩ ms = some c) :
    (∃ acts, ms = acts.map .outside ∧ c = ⟨d.acts acts, p⟩) ∨
    ∃ acts later, ms = acts.map .outside ++ .proceed :: later ∧
      run setup (next (d.acts acts)) later = some c := by
  -- On the moves to come: others may act on `d` any number of times first.
  induction ms generalizing d with
  | nil =>
    cases hrun
    exact .inl ⟨[], rfl, rfl⟩
  | cons m ms ih =>
    obtain ⟨c₁, hstep, hrest⟩ := Option.bind_eq_some_iff.mp hrun
    rcases hp d m c₁ (transition_of_step? hstep) with ⟨a, rfl, rfl⟩ | ⟨rfl, rfl⟩
    · rcases ih hrest with ⟨acts, rfl, rfl⟩ | ⟨acts, later, rfl, hlater⟩
      · exact .inl ⟨a :: acts, rfl, rfl⟩
      · exact .inr ⟨a :: acts, later, rfl, hlater⟩
    · exact .inr ⟨[], ms, rfl, hrest⟩

/-- Whatever others do before the queue is emptied and after it, the worker can tell the fault. -/
theorem run_tells (setup : Setup) (d : Desk) (f : Fault) (before after : List Act) :
    run setup ⟨d, .faulted f⟩
        (before.map .outside ++ .proceed :: (after.map .outside ++ [.proceed])) =
      some ⟨((d.acts before).discard.acts after).note (.fault f), .pausing⟩ := by
  have hemptied : run setup ⟨d, .faulted f⟩ (before.map .outside ++ [.proceed]) =
      some ⟨(d.acts before).discard, .telling f⟩ := run_outside_concat rfl
  rw [List.append_cons, (run_append hemptied _).1]
  exact run_outside_concat rfl

theorem faultTold_of_run {ms : List Move} {before after : List Act} {bare told : Desk}
    (hrun : run setup (initial d) ms = some ⟨told, .pausing⟩)
    (hbare : bare = ((c.desk.record (faultEntry c)).acts before).discard)
    (htold : told = (bare.acts after).note (.fault f)) :
    FaultTold setup d c f before after told where
  queue := by simpa [htold, hbare] using bare.queue_acts after
  state := by
    intro halone
    have hbefore : ∀ s, .publish s ∉ before := fun s hs => halone s (List.mem_append_left _ hs)
    have hafter : ∀ s, .publish s ∉ after := fun s hs => halone s (List.mem_append_right _ hs)
    simp [htold, hbare, Desk.state_acts _ hbefore, Desk.state_acts _ hafter]
  stop := by simp [htold, hbare, Desk.stop_acts, or_assoc]
  resetWanted := by simp [htold, hbare, Desk.resetWanted_acts, or_assoc]
  deeds := by simp [htold, hbare, Entry.deed?]
  whole := by
    obtain ⟨w, hdeeds, passes, current, rfl, hpasses, hstands⟩ := inPasses_of_run hrun
    obtain rfl : current = [] := hstands
    rw [List.append_nil] at hdeeds
    exact ⟨passes, hdeeds, hpasses, .of_link (track_flatten fun v hv => (hpasses v hv).link)⟩

theorem sentAnew_of_run {bare : Desk} {after : List Act} {later : List Move}
    (hqueue : bare.queue = [])
    (hrun : run setup ⟨(bare.acts after).note (.fault f), .pausing⟩ later = some c) :
    SentAnew bare c := by
  have hwhole : run setup ⟨bare, .telling f⟩ (after.map .outside ++ .proceed :: later) = some c :=
    (run_append (run_outside setup ⟨bare, .telling f⟩ after) _).1.trans hrun
  obtain ⟨added, hadded, hconveyed⟩ := conveyed_of_run hwhole
  refine ⟨added, hadded, ?_, by simpa [Conveyed, hqueue] using hconveyed⟩
  intro r probe s hsent
  -- Nothing is sent before the fault was told; what is sent then was handed over since.
  obtain ⟨late, hlate, -⟩ := conveyed_of_run hrun
  obtain ⟨between, hbetween, hothers⟩ := bare.adds_acts after
  obtain rfl : added = late ++ .notice (.fault f) :: between := by
    refine List.append_cancel_right (hadded.symm.trans (hlate.trans ?_))
    simp [hbetween]
  rcases List.mem_append.mp hsent with hnew | hold
  · refine (sendable_of_run rfl hrun hlate hnew).mono fun e he => ?_
    rw [handedOver_append]
    exact List.mem_append_right _ he
  · rcases List.mem_cons.mp hold with heq | hmem
    · cases heq
    · exact Bool.noConfusion (hothers _ hmem)

theorem contained_of_run {ms late : List Move}
    (hrun : run setup (initial d) ms = some ⟨c.desk.record (faultEntry c), .faulted f⟩)
    (hlate : run setup ⟨c.desk.record (faultEntry c), .faulted f⟩ late = some c') :
    Contained setup d c f ⟨c.desk.record (faultEntry c), .faulted f⟩ late c' := by
  rcases run_of_onlyProceeds (onlyProceeds_faulted setup f) hlate with
    ⟨before, rfl, rfl⟩ | ⟨before, rest, rfl, hrest⟩
  · exact .standing before
  · rcases run_of_onlyProceeds (onlyProceeds_telling setup f) hrest with
      ⟨after, rfl, rfl⟩ | ⟨after, later, rfl, hlater⟩
    · exact .emptied before after _ (run_outside_concat rfl) (by simp)
    · have hwhole := (run_append hrun _).1.trans (run_tells setup _ f before after)
      exact .told before after _ _ later c' (run_outside_concat rfl) (by simp)
        (run_outside_concat rfl) (faultTold_of_run hwhole rfl rfl) (sentAnew_of_run (by simp) hlater)

end Worker

/-- **Faults are contained.** In every run of the worker the faults are told one for one, the latest
one perhaps not yet. They can come wherever a response to a request is awaited, or the transport.
And wherever the connection collapses, in whatever request or probe, or cannot be opened: nothing
changes but that the connection is closed, a reset that is under way remains wanted, and whatever
others do the worker can go on to tell the fault. However it goes on, it does nothing before that
but empty the queue. At the moment at which the fault is told the pass is over, without a
connection, and the queue holds no more than what others queued since it was emptied; the published
state, the end of the worker and the reset that is wanted are what they were at the fault, or what
others have made of them since. Of events, only those that come after the queue was emptied are sent
later. -/
theorem Worker.faults_contained (setup : Setup) (d : Desk) (ms : List Move) (c : Config)
    (hrun : run setup (initial d) ms = some c) :
    (∃ w, c.desk.deeds = d.deeds ++ w ∧
      faults w + c.point.isFaulted.toNat = ms.countP (·.fault?.isSome)) ∧
    (∀ m, m.fault?.isSome = true →
      ((∃ c', step? setup c m = some c') ↔ c.point.awaits m = true)) ∧
    ∀ m f c', m.fault? = some f → step? setup c m = some c' →
      c' = ⟨c.desk.record (faultEntry c), .faulted f⟩ ∧
      (c.point.isResetting = true → c'.desk.resetWanted = true) ∧
      (∀ before after : List Act, ∃ told, run setup c'
        (before.map .outside ++ .proceed :: (after.map .outside ++ [.proceed])) =
          some ⟨told, .pausing⟩) ∧
      ∀ late c'', run setup c' late = some c'' → Contained setup d c f c' late c'' := by
  refine ⟨?_, fun m hm => accepted_iff_awaits (isResponse_of_fault hm), ?_⟩
  · obtain ⟨w, hdeeds, -⟩ := inPasses_of_run hrun
    refine ⟨w, hdeeds, ?_⟩
    have hcount : faults c.desk.deeds + c.point.isFaulted.toNat =
        faults d.deeds + 0 + ms.countP (·.fault?.isSome) := faults_of_run hrun
    rw [hdeeds, faults_append] at hcount
    omega
  · intro m f c' hm hstep
    obtain rfl := (transition_of_step? hstep).eq_faulted hm
    have hfault := run_concat.mpr ⟨c, hrun, hstep⟩
    exact ⟨rfl, (tallied_of_run hrun).underway,
      fun before after => ⟨_, run_tells setup _ f before after⟩,
      fun late c'' hlate => contained_of_run hfault hlate⟩

namespace Worker

/-- A session in which the answer to an event is garbled, while a reset is wanted and another event
waits. -/
def probingSession : List Move :=
  [.proceed, .proceed, .pulse .done, .presence true, .opened none, .proceed,
    .reply (.answer (.ok [0x57, 0xAB, 0x00, 0x81, 0x03, 0x30, 0x01, 0x05, 0xBC])),
    .outside (.queue (.wheel 0 1)), .proceed, .proceed, .proceed, .proceed,
    .outside (.queue (.wheel 0 2)), .outside .askReset, .reply (.answer (.ok [0x00]))]

/-- What follows when the connection collapses then. -/
def afterCollapse : List Move :=
  [.outside (.queue (.wheel 0 3)), .proceed, .outside (.queue (.wheel 0 4)), .proceed, .proceed,
    .proceed, .pulse .done, .presence true, .opened none, .proceed]

example :
    (run ⟨{}, false, 1⟩ (initial .initial)
        (probingSession ++ .reply (.crash none) :: afterCollapse)).map
        (fun c => (c.desk.deeds, c.desk.queue, c.desk.resetWanted)) =
      some ([.pulsed, .looked true, .opened true, .began .entry, .sent getInfoFrame.bytes,
        .returned .entry true, .began (.event (.wheel 0 1)), .sent (Event.wheel 0 1).frame.bytes,
        .sent getInfoFrame.bytes, .closed, .fault (.crash none), .pulsed, .looked true,
        .opened true, .began .entry, .sent getInfoFrame.bytes], [.wheel 0 4], true) := by
  decide

theorem faults_contained_probing :
    ∃ c c' c'', run ⟨{}, false, 1⟩ (initial .initial) probingSession = some c ∧
      step? ⟨{}, false, 1⟩ c (.reply (.crash none)) = some c' ∧
      run ⟨{}, false, 1⟩ c' afterCollapse = some c'' ∧
      (∃ w, c.desk.deeds = Desk.initial.deeds ++ w ∧
        faults w + c.point.isFaulted.toNat = probingSession.countP (·.fault?.isSome)) ∧
      c' = ⟨c.desk.record (faultEntry c), .faulted (.crash none)⟩ ∧
      Contained ⟨{}, false, 1⟩ .initial c (.crash none) c' afterCollapse c'' := by
  obtain ⟨c', hcollapse⟩ : ∃ c', run ⟨{}, false, 1⟩ (initial .initial)
      (probingSession ++ [.reply (.crash none)]) = some c' :=
    Option.isSome_iff_exists.mp (by decide)
  obtain ⟨c'', hwhole⟩ : ∃ c'', run ⟨{}, false, 1⟩ (initial .initial)
      ((probingSession ++ [.reply (.crash none)]) ++ afterCollapse) = some c'' :=
    Option.isSome_iff_exists.mp (by decide)
  obtain ⟨c, hrun, hstep⟩ := run_concat.mp hcollapse
  rw [(run_append hcollapse _).1] at hwhole
  obtain ⟨hcount, -, hcontained⟩ :=
    faults_contained ⟨{}, false, 1⟩ .initial probingSession c hrun
  obtain ⟨heq, -, -, honward⟩ := hcontained (.reply (.crash none)) (.crash none) c' rfl hstep
  exact ⟨c, c', c'', hrun, hstep, hwhole, hcount, heq, honward afterCollapse c'' hwhole⟩

/-- The device is there, and an event waits for it to be opened. -/
def refusedOpening : List Move :=
  [.outside (.queue (.wheel 0 1)), .proceed, .proceed, .pulse .done, .presence true]

/-- The queue is emptied and the fault told, and others act in between. -/
def racingEnd : List Move :=
  [.proceed, .outside (.queue (.wheel 0 2)), .outside .askReset, .outside .stop, .proceed]

/-- When a fault is told the queue need not be empty, and others may have asked for a reset and for
the end since the fault: they can do so after the queue was emptied and before the fault is told. -/
theorem queued_before_told :
    ∃ c c' told, run ⟨{}, false, 1⟩ (initial .initial) refusedOpening = some c ∧
      step? ⟨{}, false, 1⟩ c (.opened (some (.io "busy"))) = some c' ∧
      run ⟨{}, false, 1⟩ c' racingEnd = some ⟨told, .pausing⟩ ∧
      told.journal.head? = some (.notice (.fault (.openFailed (.io "busy")))) ∧
      (c'.desk.queue = [.wheel 0 1] ∧ told.queue = [.wheel 0 2]) ∧
      (c'.desk.resetWanted = false ∧ told.resetWanted = true) ∧
      (c'.desk.stop = false ∧ told.stop = true) :=
  ⟨_, _, _, rfl, rfl, rfl, rfl, ⟨rfl, rfl⟩, ⟨rfl, rfl⟩, rfl, rfl⟩

end Worker

end SerialHid
