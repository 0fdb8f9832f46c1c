/-
SerialHid.Proofs.Worker — everything that a step of the worker can do, and induction over runs.

* `Worker.Transition` — the steps of the worker, one constructor for each;
  `Worker.transition_of_step?` says that there are no others.
* `Point.awaits` — the responses that the worker waits for; by `Worker.accepted_iff_awaits` it takes
  each of them, and no other.
* `Worker.Traffic` — what a step does to the queue; `Worker.Transition.traffic` finds it for each
  of them. All but four kinds of steps leave it alone, and what they add to the journal shows the
  state that they leave behind.
* `Worker.mayEnter` — the entries that a step can make in the journal, by its point and its move;
  `Worker.Transition.adds` says that there are no others.
* `Worker.Transition.stop_of_stop` — a worker that is to end does not take that back.
* `Worker.run_append`, `Worker.run_concat` — a run goes on where another one ended.
* `Worker.run_induction` — what holds at the start and is kept by every step holds after every run.
-/
import SerialHid.Proofs.Job
import SerialHid.Worker

namespace SerialHid

/-- The worker makes a request. -/
def Point.isRequest : Point → Bool
  | .session (.request _ _) => true
  | _ => false

/-- The request whose answer the worker waits for. -/
def Point.pending? : Point → Option (List UInt8)
  | .session (.request _ j) => j.pending?
  | _ => none

/-- The worker waits here for what this move says, whatever that is: how the pulse went, whether the
device is there, whether the transport is open, or the response to a request. -/
def Point.awaits : Point → Move → Bool
  | .initialPulse, .pulse _ => true
  | .looking (_ + 1), .presence _ => true
  | .opening, .opened _ => true
  | .session .linePulse, .pulse _ => true
  | .session .checking, .presence _ => true
  | .session (.request _ j), .reply _ => j.pending?.isSome
  | _, _ => false

/-- The move is a response of what surrounds the worker. -/
def Move.isResponse : Move → Bool
  | .reply _ | .presence _ | .opened _ | .pulse _ => true
  | _ => false

namespace Worker

/-! ## The steps -/

/-- The steps of the worker from a point, at a desk. -/
inductive Transition (setup : Setup) (d : Desk) : Point → Move → Config → Prop where
  /-- Others act; the worker stays where it is. -/
  | others (p : Point) (a : Act) : Transition setup d p (.outside a) ⟨d.act a, p⟩
  | started : Transition setup d .starting .proceed ⟨d.note .workerStarted, .top⟩
  | stopped (hstop : d.stop = true) :
      Transition setup d .top .proceed ⟨d.note .workerStopped, .ended⟩
  | passBegan (hstop : d.stop = false) :
      Transition setup d .top .proceed
        ⟨(d.note .waiting).record (.pulsed d.state), .initialPulse⟩
  | initialPulsed (p : Pulse) :
      Transition setup d .initialPulse (.pulse p) ⟨tellPulse p d, .looking setup.attempts⟩
  | gaveUp : Transition setup d (.looking 0) .proceed ⟨d.note .missing, .top⟩
  | found (left : Nat) :
      Transition setup d (.looking (left + 1)) (.presence true)
        ⟨(d.record (.looked true d.state)).note .found, .opening⟩
  | notFound (left : Nat) :
      Transition setup d (.looking (left + 1)) (.presence false)
        ⟨d.record (.looked false d.state), .absent left⟩
  | waited (left : Nat) :
      Transition setup d (.absent left) .proceed ⟨d, if d.stop then .top else .looking left⟩
  | opened :
      Transition setup d .opening (.opened none)
        (begin setup .entry (d.record (.opened true d.state)))
  | openFailed (e : LinkError) :
      Transition setup d .opening (.opened (some e))
        ⟨d.record (.opened false d.state), .faulted (.openFailed e)⟩
  | emptied (f : Fault) : Transition setup d (.faulted f) .proceed ⟨d.discard, .telling f⟩
  | faultTold (f : Fault) :
      Transition setup d (.telling f) .proceed ⟨d.note (.fault f), .pausing⟩
  | rested : Transition setup d .pausing .proceed ⟨d, .top⟩
  /-- The request goes on by itself. -/
  | requestWent (p : Purpose) (j : Job) (pd : Progress × Desk)
      (hturn : Job.Turn setup.settings j d .proceed pd) :
      Transition setup d (.session (.request p j)) .proceed (follow p pd)
  /-- The request, or its probe, is answered. -/
  | requestAnswered (p : Purpose) (j : Job) (a : Answer) (pd : Progress × Desk)
      (hturn : Job.Turn setup.settings j d (.answer a) pd) :
      Transition setup d (.session (.request p j)) (.reply (.answer a)) (follow p pd)
  /-- The connection collapses while an answer is awaited. -/
  | crashed (p : Purpose) (j : Job) (message : Option String) (request : List UInt8)
      (hpending : j.pending? = some request) :
      Transition setup d (.session (.request p j)) (.reply (.crash message))
        ⟨d.record (.closed d.state), .faulted (.crash message)⟩
  | headed :
      Transition setup d (.session .head) .proceed
        ⟨d, .session (if d.stop then .drained else .resetCheck)⟩
  | drained (hqueue : d.queue = []) :
      Transition setup d (.session .drained) .proceed (leave d)
  | draining (hqueue : d.queue ≠ []) :
      Transition setup d (.session .drained) .proceed ⟨d, .session .resetCheck⟩
  | noReset (hwanted : d.resetWanted = false) :
      Transition setup d (.session .resetCheck) .proceed ⟨d, .session .receiving⟩
  | lineReset (hwanted : d.resetWanted = true) (hwired : setup.wired = true) :
      Transition setup d (.session .resetCheck) .proceed
        ⟨((d.write (·.setBusy true)).record .resetBegan).record
          (.pulsed (d.state.setBusy true)), .session .linePulse⟩
  | chipReset (hwanted : d.resetWanted = true) (hwired : setup.wired = false) :
      Transition setup d (.session .resetCheck) .proceed
        (begin setup .chipReset
          (((d.write (·.setBusy true)).record .resetBegan).note .chipReset))
  | linePulsed (p : Pulse) :
      Transition setup d (.session .linePulse) (.pulse p) ⟨tellPulse p d, .session .resetEnd⟩
  | resetEnded :
      Transition setup d (.session .resetEnd) .proceed
        ⟨({ d with resetWanted := false } : Desk).record .resetDone, .session .receiving⟩
  | received (e : Event) (es : List Event) (hqueue : d.queue = e :: es) :
      Transition setup d (.session .receiving) .proceed
        (begin setup (.event e) { d with queue := es })
  | queueClosed (hqueue : d.queue = []) (hclosed : d.accepting = false) :
      Transition setup d (.session .receiving) .proceed
        (leave { d.note .queueClosed with stop := true })
  | idled (hqueue : d.queue = []) (hopen : d.accepting = true) :
      Transition setup d (.session .receiving) .timeout (begin setup .idle d)
  | flushed :
      Transition setup d (.session .flushing) .proceed ⟨d.discard, .session .checking⟩
  | stillThere :
      Transition setup d (.session .checking) (.presence true)
        ⟨d.record (.looked true d.state), .session .head⟩
  | disappeared :
      Transition setup d (.session .checking) (.presence false)
        (leave ((d.record (.looked false d.state)).note .disappeared))

variable {setup : Setup} {d : Desk} {p : Point} {c c' c₀ : Config} {m : Move}

theorem transition_of_proceedSession? {s : Session} (h : proceedSession? setup d s = some c') :
    Transition setup d (.session s) .proceed c' := by
  cases s with
  | request p j =>
    obtain ⟨pd, hstep, rfl⟩ := Option.map_eq_some_iff.mp h
    exact .requestWent p j pd (Job.turn_of_step? hstep)
  | head =>
    cases h
    exact .headed
  | drained =>
    cases h
    cases hq : d.queue with
    | nil => exact .drained hq
    | cons e es => exact .draining (by simp [hq])
  | resetCheck =>
    cases h
    unfold reset
    cases hwanted : d.resetWanted with
    | false => exact .noReset hwanted
    | true =>
      cases hwired : setup.wired with
      | true => exact .lineReset hwanted hwired
      | false => exact .chipReset hwanted hwired
  | linePulse => cases h
  | resetEnd =>
    cases h
    exact .resetEnded
  | receiving =>
    simp only [proceedSession?, receive?] at h
    cases hq : d.queue with
    | cons e es =>
      simp only [hq] at h
      cases h
      exact .received e es hq
    | nil =>
      cases hopen : d.accepting with
      | true => simp [hq, hopen] at h
      | false =>
        simp only [hq, hopen] at h
        cases h
        exact .queueClosed hq hopen
  | flushing =>
    cases h
    exact .flushed
  | checking => cases h

theorem transition_of_proceed? (h : proceed? setup d p = some c') :
    Transition setup d p .proceed c' := by
  cases p with
  | starting =>
    cases h
    exact .started
  | top =>
    cases h
    unfold pass
    cases hstop : d.stop with
    | true => exact .stopped hstop
    | false => exact .passBegan hstop
  | initialPulse => cases h
  | looking left =>
    cases left with
    | zero =>
      cases h
      exact .gaveUp
    | succ left => cases h
  | absent left =>
    cases h
    exact .waited left
  | opening => cases h
  | session s => exact transition_of_proceedSession? h
  | faulted f =>
    cases h
    exact .emptied f
  | telling f =>
    cases h
    exact .faultTold f
  | pausing =>
    cases h
    exact .rested
  | ended => cases h

theorem transition_of_presence? {present : Bool} (h : presence? d present p = some c') :
    Transition setup d p (.presence present) c' := by
  unfold presence? at h
  split at h
  · cases h
    cases present with
    | true => exact .found _
    | false => exact .notFound _
  · cases h
    cases present with
    | true => exact .stillThere
    | false => exact .disappeared
  · cases h

/-- There are no other steps. -/
theorem transition_of_step? (h : step? setup c m = some c') :
    Transition setup c.desk c.point m c' := by
  obtain ⟨d, p⟩ := c
  cases m with
  | outside a =>
    cases h
    exact .others p a
  | proceed => exact transition_of_proceed? h
  | reply r =>
    simp only [step?, reply?] at h
    split at h
    · rename_i p j
      split at h
      · cases h
      · obtain ⟨pd, hstep, rfl⟩ := Option.map_eq_some_iff.mp h
        exact .requestAnswered p j _ pd (Job.turn_of_step? hstep)
      · cases h
        exact .crashed p j _ _ ‹_›
    · cases h
  | presence present => exact transition_of_presence? h
  | opened failure =>
    simp only [step?, opened?] at h
    split at h
    · cases failure with
      | none =>
        cases h
        exact .opened
      | some e =>
        cases h
        exact .openFailed e
    · cases h
  | pulse p =>
    simp only [step?, pulse?] at h
    split at h
    · cases h
      exact .initialPulsed p
    · cases h
      exact .linePulsed p
    · cases h
  | timeout =>
    simp only [step?, timeout?] at h
    split at h
    · split at h
      · rename_i hwait
        cases h
        obtain ⟨hqueue, hopen⟩ := (Bool.and_eq_true ..).mp hwait
        exact .idled (List.isEmpty_iff.mp hqueue) hopen
      · cases h
    · cases h

/-! ## Responses -/

/-- A response is taken exactly where the worker waits for one of its kind: the surroundings may
respond in any way there, and nowhere else. -/
theorem accepted_iff_awaits (hm : m.isResponse = true) :
    (∃ c', step? setup c m = some c') ↔ c.point.awaits m = true := by
  obtain ⟨d, p⟩ := c
  cases m with
  | outside | proceed | timeout => cases hm
  | reply r =>
    cases p with
    | session s =>
      cases s with
      | request q j =>
        rcases hstage : j.stage with first | _ | f <;> cases r <;>
          simp [step?, reply?, Point.awaits, Job.pending?, Job.step?, hstage]
      | _ => simp [step?, reply?, Point.awaits]
    | _ => simp [step?, reply?, Point.awaits]
  | presence present =>
    cases p with
    | looking left => cases left <;> simp [step?, presence?, Point.awaits]
    | session s => cases s <;> simp [step?, presence?, Point.awaits]
    | _ => simp [step?, presence?, Point.awaits]
  | opened failure =>
    cases p with
    | opening => cases failure <;> simp [step?, opened?, Point.awaits]
    | _ => simp [step?, opened?, Point.awaits]
  | pulse hit =>
    cases p with
    | session s => cases s <;> simp [step?, pulse?, Point.awaits]
    | _ => simp [step?, pulse?, Point.awaits]

/-! ## Steps and the queue -/

/-- An entry that tells nothing of the queue, and shows no state but `s`. -/
def isRoutine (s : DeviceState) (e : Entry) : Bool := e.shows s && !e.isOfQueue

/-- What a step can do to the queue, from a point. -/
inductive Traffic (d : Desk) : Point → Move → Desk → Prop where
  /-- Others act. -/
  | others (p : Point) (a : Act) : Traffic d p (.outside a) (d.act a)
  /-- The queue is left alone. -/
  | routine (p : Point) (m : Move) (d' : Desk) (hqueue : d'.queue = d.queue)
      (hadds : d.Adds (isRoutine d'.state) d') : Traffic d p m d'
  /-- An event is handed over. -/
  | handed (e : Event) (es : List Event) (hqueue : d.queue = e :: es) :
      Traffic d (.session .receiving) .proceed
        (({ d with queue := es } : Desk).record (.began (.event e)))
  /-- The queue is thrown away after an event failed. -/
  | flushed : Traffic d (.session .flushing) .proceed d.discard
  /-- The queue is thrown away after a fault. -/
  | emptied (f : Fault) : Traffic d (.faulted f) .proceed d.discard

theorem isRoutine_of_isOfRequest {s : DeviceState} {e : Entry} (h : e.isOfRequest s = true) :
    isRoutine s e = true := by
  cases e <;> simp_all [isRoutine, Entry.isOfRequest, Entry.shows, Entry.shown?, Entry.isOfQueue]

theorem Traffic.follow {settings : Settings} {j : Job} {i : Job.Input} {pd : Progress × Desk}
    (q : Purpose) (h : Job.Turn settings j d i pd) : Traffic d p m (follow q pd).desk := by
  obtain ⟨-, -, hqueue, -⟩ := h.frame
  have hadds := h.adds.mono fun _ => isRoutine_of_isOfRequest
  rcases pd with ⟨j' | ok, d'⟩
  · exact .routine p m d' hqueue hadds
  · refine .routine p m _ hqueue (hadds.record _ ?_)
    simp [isRoutine, Entry.shows, Entry.shown?, Entry.isOfQueue]

theorem isRoutine_of_shown {s : DeviceState} {e : Entry} (hqueue : e.isOfQueue = false)
    (hshown : e.shown? = none ∨ e.shown? = some s) : isRoutine s e = true := by
  rcases hshown with h | h <;> simp [isRoutine, Entry.shows, hqueue, h]

theorem Traffic.pulse (hit : Pulse) (d : Desk) (p : Point) (m : Move) :
    Traffic d p m (tellPulse hit d) := by
  cases hit with
  | done => exact .routine p m d rfl (.of_eq rfl)
  | skipped | failed => exact .routine p m _ rfl (.record (.of_eq rfl) _ rfl)

/-- Every step does one of these things to the queue. -/
theorem Transition.traffic (h : Transition setup d p m c') : Traffic d p m c'.desk := by
  have hsame {s : DeviceState} : d.Adds (isRoutine s) d := .of_eq rfl
  have hshown {e : Entry} {s : DeviceState} (hqueue : e.isOfQueue = false)
      (hs : e.shown? = some s) : isRoutine s e = true := isRoutine_of_shown hqueue (.inr hs)
  cases h with
  | others _ a => exact .others _ a
  | received e es hqueue => exact .handed e es hqueue
  | flushed => exact .flushed
  | emptied f => exact .emptied f
  | requestWent q j pd hturn | requestAnswered q j a pd hturn => exact .follow q hturn
  | initialPulsed hit | linePulsed hit => exact .pulse hit d _ _
  | waited | rested | headed | draining | noReset => exact .routine _ _ _ rfl hsame
  | started | stopped | gaveUp | idled | faultTold =>
    exact .routine _ _ _ rfl (hsame.record _ rfl)
  | notFound | openFailed | crashed | drained | stillThere =>
    exact .routine _ _ _ rfl (hsame.record _ (hshown rfl rfl))
  | passBegan | queueClosed =>
    exact .routine _ _ _ rfl ((hsame.record _ rfl).record _ (hshown rfl rfl))
  | found | opened =>
    exact .routine _ _ _ rfl ((hsame.record _ (hshown rfl rfl)).record _ rfl)
  | disappeared =>
    refine .routine _ _ _ rfl (Desk.Adds.record ?_ _ (hshown rfl rfl))
    exact (hsame.record (.looked false d.state) (hshown rfl rfl)).record _ rfl
  | lineReset =>
    refine .routine _ _ _ rfl (Desk.Adds.record ?_ _ (hshown rfl rfl))
    exact (hsame.write (·.setBusy true)).record _ rfl
  | chipReset =>
    refine .routine _ _ _ rfl (Desk.Adds.record (Desk.Adds.record ?_ _ rfl) _ rfl)
    exact (hsame.write (·.setBusy true)).record _ rfl
  | resetEnded =>
    have hadds : d.Adds (isRoutine d.state) { d with resetWanted := false } := .of_eq rfl
    exact .routine _ _ _ rfl (hadds.record _ rfl)

/-! ## Steps and the journal -/

/-- What a step may enter in the journal, by the point that it starts from and by its move. -/
def mayEnter (p : Point) (m : Move) : Entry → Bool
  | .sent .. | .returned .. => p.isRequest
  | .looked .. =>
    match m with
    | .presence _ => true
    | _ => false
  | .opened .. =>
    match m with
    | .opened _ => true
    | _ => false
  | .pulsed _ => p == .top || p == .session .resetCheck
  | _ => true

theorem mayEnter_of_isOfOthers {e : Entry} (h : e.isOfOthers = true) : mayEnter p m e = true := by
  cases e <;> first | rfl | cases h

theorem adds_follow {settings : Settings} {j : Job} {i : Job.Input} {pd : Progress × Desk}
    (q : Purpose) (h : Job.Turn settings j d i pd) :
    d.Adds (mayEnter (.session (.request q j)) m) (follow q pd).desk := by
  have hadds : d.Adds (mayEnter (.session (.request q j)) m) pd.2 := by
    refine h.adds.mono fun e he => ?_
    cases e <;> first | rfl | cases he
  rcases pd with ⟨j' | ok, d'⟩
  · exact hadds
  · exact hadds.record _ rfl

/-- No step enters anything else. -/
theorem Transition.adds (h : Transition setup d p m c') : d.Adds (mayEnter p m) c'.desk := by
  have hsame : d.Adds (mayEnter p m) d := .of_eq rfl
  cases h with
  | others _ a => exact (d.adds_act a).mono fun _ => mayEnter_of_isOfOthers
  | requestWent q j pd hturn | requestAnswered q j a pd hturn => exact adds_follow q hturn
  | initialPulsed hit | linePulsed hit =>
    cases hit with
    | done => exact hsame
    | skipped | failed => exact hsame.record _ rfl
  | flushed | emptied => exact hsame.discard (fun _ => rfl) fun _ => rfl
  | waited | rested | headed | draining | noReset => exact hsame
  | passBegan | found | opened => exact (hsame.record _ rfl).record _ rfl
  | disappeared => exact ((hsame.record _ rfl).record _ rfl).record _ rfl
  | lineReset => exact ((hsame.write _).record _ rfl).record _ rfl
  | chipReset =>
    have hbegan := (hsame.write (·.setBusy true)).record .resetBegan rfl
    exact (hbegan.record (.notice .chipReset) rfl).record _ rfl
  | resetEnded =>
    have hcleared :
        d.Adds (mayEnter (.session .resetEnd) .proceed) { d with resetWanted := false } :=
      .of_eq rfl
    exact hcleared.record _ rfl
  | received e es =>
    have htaken : d.Adds (mayEnter (.session .receiving) .proceed) { d with queue := es } :=
      .of_eq rfl
    exact htaken.record _ rfl
  | queueClosed =>
    have hnoted := hsame.record (.notice .queueClosed) rfl
    exact (hnoted.trans (.of_eq rfl)).record _ rfl
  | _ => exact hsame.record _ rfl

/-! ## Steps and flags -/

@[simp] theorem tellPulse_fields (hit : Pulse) (d : Desk) :
    (tellPulse hit d).state = d.state ∧ (tellPulse hit d).stop = d.stop ∧
      (tellPulse hit d).resetWanted = d.resetWanted ∧ (tellPulse hit d).queue = d.queue ∧
      (tellPulse hit d).accepting = d.accepting := by
  cases hit <;> exact ⟨rfl, rfl, rfl, rfl, rfl⟩

theorem Transition.stop_of_stop (hstop : d.stop = true) (h : Transition setup d p m c') :
    c'.desk.stop = true := by
  cases h with
  | others p a => exact (d.stop_act a).mpr (.inl hstop)
  | requestWent q j pd hturn | requestAnswered q j a pd hturn =>
    obtain ⟨hsame, -⟩ := hturn.frame
    rcases pd with ⟨_ | _, d'⟩ <;> exact hsame.trans hstop
  | initialPulsed hit | linePulsed hit => simpa using hstop
  | emptied | flushed => simpa using hstop
  | queueClosed => rfl
  | _ => exact hstop

/-! ## Runs -/

/-- The steps of a run: each move with the worker as it was before it. -/
def trail (setup : Setup) (c : Config) : List Move → List (Config × Move)
  | [] => []
  | m :: ms =>
    match step? setup c m with
    | none => []
    | some c' => (c, m) :: trail setup c' ms

/-- What others do one after the other. -/
theorem run_outside (setup : Setup) (c : Config) (acts : List Act) :
    run setup c (acts.map .outside) = some ⟨c.desk.acts acts, c.point⟩ := by
  induction acts generalizing c with
  | nil => rfl
  | cons a acts ih => exact ih { c with desk := c.desk.act a }

theorem run_concat {ms : List Move} :
    run setup c (ms ++ [m]) = some c' ↔
      ∃ c₁, run setup c ms = some c₁ ∧ step? setup c₁ m = some c' := by
  induction ms generalizing c with
  | nil => simp [run]
  | cons m' ms ih =>
    cases hstep : step? setup c m' with
    | none => simp [run, hstep]
    | some c₁ => simpa [run, hstep] using ih

/-- Others act one after the other, and then there is a step. -/
theorem run_outside_concat {acts : List Act}
    (hstep : step? setup ⟨c.desk.acts acts, c.point⟩ m = some c') :
    run setup c (acts.map .outside ++ [m]) = some c' :=
  run_concat.mpr ⟨_, run_outside setup c acts, hstep⟩

theorem run_append {early : List Move} (hearly : run setup c early = some c') (late : List Move) :
    run setup c (early ++ late) = run setup c' late ∧
      trail setup c (early ++ late) = trail setup c early ++ trail setup c' late := by
  induction early generalizing c with
  | nil =>
    cases hearly
    exact ⟨rfl, rfl⟩
  | cons m early ih =>
    obtain ⟨c₁, hstep, hearly⟩ := Option.bind_eq_some_iff.mp hearly
    obtain ⟨hrun, htrail⟩ := ih hearly
    simp [run, trail, hstep, hrun, htrail]

theorem trail_concat {ms : List Move} {c₁ : Config} (hrun : run setup c ms = some c₁)
    (hstep : step? setup c₁ m = some c') :
    trail setup c (ms ++ [m]) = trail setup c ms ++ [(c₁, m)] := by
  obtain ⟨-, htrail⟩ := run_append hrun [m]
  rw [htrail]
  simp [trail, hstep]

theorem map_snd_trail {ms : List Move} (hrun : run setup c ms = some c') :
    (trail setup c ms).map Prod.snd = ms := by
  induction ms generalizing c with
  | nil => rfl
  | cons m ms ih =>
    obtain ⟨c₁, hstep, hrun⟩ := Option.bind_eq_some_iff.mp hrun
    simp [trail, hstep, ih hrun]

/-- What holds at the start, and is kept by every step, holds after every run. -/
theorem run_induction {P : List (Config × Move) → Config → Prop} {ms : List Move}
    (hstart : P [] c₀)
    (hstep : ∀ t m c c', m ∈ ms → P t c → Transition setup c.desk c.point m c' →
      P (t ++ [(c, m)]) c')
    (hrun : run setup c₀ ms = some c) : P (trail setup c₀ ms) c := by
  suffices h : ∀ rest t c₁, (∀ m ∈ rest, m ∈ ms) → P t c₁ → run setup c₁ rest = some c →
      P (t ++ trail setup c₁ rest) c by
    simpa using h ms [] c₀ (fun _ hm => hm) hstart hrun
  -- On the moves still to come; `t` holds the steps already made.
  intro rest
  induction rest with
  | nil =>
    intro t c₁ _ hP hrun
    cases hrun
    simpa [trail] using hP
  | cons m rest ih =>
    intro t c₁ hms hP hrun
    obtain ⟨c₂, hstep₂, hrun₂⟩ := Option.bind_eq_some_iff.mp hrun
    have hnext := hstep t m c₁ c₂ (hms m (by simp)) hP (transition_of_step? hstep₂)
    have hrest := ih (t ++ [(c₁, m)]) c₂ (fun m' hm' => hms m' (by simp [hm'])) hnext hrun₂
    simpa [trail, hstep₂] using hrest

end Worker

end SerialHid
