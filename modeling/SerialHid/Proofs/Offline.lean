/-
SerialHid.Proofs.Offline — without a connection the chip is offline.

* `Worker.Steady` — a connection that does not collapse, and refuses no frame.
* `Worker.Apart` — what is published where there is no connection; `Apart.step` keeps it over every
  step, because a device is given up only after a failed attempt, or by a worker that is to end.
* `Worker.offline_without_connection` — whatever the worker does without a connection, or to see
  whether the device is there, shows that the chip is offline.
-/
import SerialHid.Proofs.Requests

namespace SerialHid

namespace Worker

variable {setup : Setup} {d d' : Desk} {p : Point} {m : Move} {c c' : Config}
  {steps : List (Config × Move)}

/-! ## What is promised -/

/-- The connection does not collapse, and refuses nothing that is a frame. -/
def Steady : Config × Move → Prop
  | (_, .reply (.crash _)) => False
  | x => RefusesOnly (fun r => (Frame.parse r).isOk = false) x

instance (x : Config × Move) : Decidable (Steady x) :=
  match x with
  | (_, .reply (.crash _)) => isFalse id
  | (c, .reply (.answer a)) =>
    inferInstanceAs (Decidable (RefusesOnly _ (c, .reply (.answer a))))
  | (_, .outside _) | (_, .proceed) | (_, .presence _) | (_, .opened _) | (_, .pulse _)
  | (_, .timeout) => isTrue trivial

/-- What a step does without a connection, or to see whether the device is there, shows an offline
chip. -/
structure ShowsOffline (p : Point) (added : List Entry) : Prop where
  looked : ∀ present s, .looked present s ∈ added → s.online = false
  opened : ∀ ok s, .opened ok s ∈ added → s.online = false
  pulsed : p.isConnected = false → ∀ s, .pulsed s ∈ added → s.online = false

/-! ## One step -/

/-- What is published, by the point: without a connection the chip is offline, except where the
worker is about to end; and the queue is drained only where it is to end. -/
def Apart (d : Desk) : Point → Prop
  | .ended => True
  | .top => d.stop = true ∨ d.state.online = false
  | .session .drained => d.stop = true
  | .session _ => True
  | _ => d.state.online = false

theorem Apart.mono (h : Apart d p) (hstate : d'.state = d.state)
    (hstop : d.stop = true → d'.stop = true) : Apart d' p := by
  cases p with
  | top => exact h.imp hstop (hstate ▸ ·)
  | session s =>
    cases s with
    | drained => exact hstop h
    | _ => trivial
  | ended => trivial
  | _ => exact (congrArg _ hstate).trans h

theorem Steady.refusesOnly {x : Config × Move} (h : Steady x) :
    RefusesOnly (fun r => (Frame.parse r).isOk = false) x := by
  unfold Steady at h
  split at h
  · exact h.elim
  · exact h

theorem apart_follow (q : Purpose) (pd : Progress × Desk) :
    Apart (follow q pd).desk (follow q pd).point := by
  rcases pd with ⟨j | ok, d⟩
  · trivial
  · cases q <;> cases ok <;> trivial

/-- A worker that nobody disturbs goes offline before it gives up the device. -/
theorem Apart.step (h : Apart d p) (hunheard : p.isUnheard = true → d.state.online = false)
    (halone : ∀ s, m ≠ .outside (.publish s)) (hsteady : Steady (⟨d, p⟩, m))
    (hstep : Transition setup d p m c') : Apart c'.desk c'.point := by
  cases hstep with
  | others p a =>
    refine h.mono (d.state_act fun s hs => halone s (congrArg _ hs)) fun hstop => ?_
    exact (d.stop_act a).mpr (.inl hstop)
  | started | gaveUp | rested => exact .inr h
  | stopped => trivial
  | passBegan hstop => exact h.resolve_left (by simp [hstop])
  | initialPulsed hit => exact (congrArg _ (tellPulse_fields hit d).1).trans h
  | found | notFound | openFailed | faultTold => exact h
  | waited left =>
    cases d.stop with
    | true => exact .inr h
    | false => exact h
  | emptied f => exact (congrArg _ d.discard_fields.1).trans h
  | requestWent q j pd | requestAnswered q j a pd => exact apart_follow q pd
  | crashed => exact hsteady.elim
  | headed =>
    cases hstop : d.stop with
    | true => exact hstop
    | false => trivial
  | drained => exact .inl h
  | queueClosed => exact .inl rfl
  | disappeared => exact .inr (hunheard rfl)
  | _ => trivial

/-- A step that looks for the device or opens it leaves an offline chip offline. -/
theorem Apart.online_of_move (h : Apart d p)
    (hunheard : p.isUnheard = true → d.state.online = false) (hstep : Transition setup d p m c')
    (hm : (∃ present, m = .presence present) ∨ ∃ failure, m = .opened failure) :
    c'.desk.state.online = false := by
  cases hstep with
  | found | notFound | opened | openFailed => exact h
  | stillThere | disappeared => exact hunheard rfl
  | _ => simp at hm

/-- So does one that pulses the reset line between two passes. -/
theorem Apart.online_of_pass (h : Apart d .top) (hstep : Transition setup d .top m c')
    {added : List Entry} (hadded : c'.desk.journal = added ++ d.journal) {s : DeviceState}
    (hpulsed : .pulsed s ∈ added) : c'.desk.state.online = false := by
  cases hstep with
  | others p a => exact Bool.noConfusion ((d.adds_act a).of_mem hadded hpulsed)
  | stopped =>
    obtain rfl : added = [.notice .workerStopped] :=
      List.append_cancel_right (hadded.symm.trans (List.singleton_append ..).symm)
    simp at hpulsed
  | passBegan hstop => exact h.resolve_left (by simp [hstop])

theorem Apart.showsOffline (h : Apart d p) (hunheard : p.isUnheard = true → d.state.online = false)
    (hstep : Transition setup d p m c') {added : List Entry}
    (hadded : c'.desk.journal = added ++ d.journal) : ShowsOffline p added := by
  have hshown {e : Entry} {s : DeviceState} (he : e ∈ added) (hs : e.shown? = some s) :
      s = c'.desk.state := by
    simpa [Entry.shows, hs] using hstep.traffic.shows.of_mem hadded he
  have hmay {e : Entry} (he : e ∈ added) : mayEnter p m e = true := hstep.adds.of_mem hadded he
  constructor
  · intro present s he
    rw [hshown he rfl]
    have hm := hmay he
    cases m with
    | presence b => exact h.online_of_move hunheard hstep (.inl ⟨b, rfl⟩)
    | _ => cases hm
  · intro ok s he
    rw [hshown he rfl]
    have hm := hmay he
    cases m with
    | opened failure => exact h.online_of_move hunheard hstep (.inr ⟨failure, rfl⟩)
    | _ => cases hm
  · intro hapart s he
    rw [hshown he rfl]
    have hp := hmay he
    cases p with
    | top => exact h.online_of_pass hstep hadded he
    | session s => cases hapart
    | _ => cases hp

/-! ## Runs -/

theorem not_overwritten (halone : ∀ s, .outside (.publish s) ∉ steps.map Prod.snd) :
    ¬ Overwritten steps := by
  rintro ⟨before, c, s, after, rfl, -⟩
  exact halone s (by simp)

/-- Where nobody else publishes a state, a failed attempt leaves the chip offline. -/
theorem Unheard.online (h : Unheard steps c)
    (halone : ∀ s, .outside (.publish s) ∉ steps.map Prod.snd)
    (hunheard : c.point.isUnheard = true) : c.desk.state.online = false :=
  (h.offline hunheard).resolve_right (not_overwritten halone)

theorem apart_of_run (hcommon : 0 < setup.settings.commonRetries)
    (hread : 0 < setup.settings.readRetries) (hoffline : d.state.online = false) {ms : List Move}
    (halone : ∀ s, .outside (.publish s) ∉ ms)
    (hsteady : ∀ x ∈ trail setup (initial d) ms, Steady x)
    (hrun : run setup (initial d) ms = some c) :
    Unrefused setup (trail setup (initial d) ms) c ∧ Apart c.desk c.point := by
  have hbad (f : Frame) : ¬ (Frame.parse f.bytes).isOk = false := by
    simp [f.parse_bytes, Except.isOk, Except.toBool]
  -- Both at once: what a failed attempt left published is known from the requests refused before.
  refine run_induction (P := fun steps c => (∀ x ∈ steps, Steady x ∧
    ∀ s, x.2 ≠ .outside (.publish s)) → Unrefused setup steps c ∧ Apart c.desk c.point)
    (fun _ => ⟨.start setup d, hoffline⟩) ?_ hrun ?_
  · intro steps m c c' _ h hstep hsteps
    obtain ⟨hbefore, hnow⟩ := List.forall_mem_append.mp hsteps
    obtain ⟨hsteady, halone⟩ := hnow _ (List.mem_singleton_self _)
    obtain ⟨hunrefused, hapart⟩ := h hbefore
    refine ⟨hunrefused.step hbad hcommon hread hsteady.refusesOnly hstep, ?_⟩
    refine hapart.step (hunrefused.unheard.online ?_) halone hsteady hstep
    intro s hs
    obtain ⟨x, hx, hxs⟩ := List.mem_map.mp hs
    exact (hbefore x hx).2 s hxs
  · intro x hx
    refine ⟨hsteady x hx, fun s hs => halone s ?_⟩
    rw [← map_snd_trail hrun, ← hs]
    exact List.mem_map_of_mem hx

end Worker

/-- **Without a connection the chip is offline.** In every run of the worker that begins offline and
in which nobody else publishes a state, with a budget for each request and over connections that
neither collapse nor refuse a frame: whenever the worker looks for the device or opens it, and
whenever it pulses the reset line between two sessions, the chip is published as offline, however
often the device has come and gone, and whether requests are sent or only pretended. -/
theorem Worker.offline_without_connection (setup : Setup)
    (hcommon : 0 < setup.settings.commonRetries) (hread : 0 < setup.settings.readRetries)
    (d : Desk) (hoffline : d.state.online = false) (ms : List Move) (c : Config)
    (hrun : run setup (initial d) ms = some c) (m : Move) (c' : Config)
    (hstep : step? setup c m = some c') (halone : ∀ s, .outside (.publish s) ∉ ms)
    (hsteady : ∀ x ∈ trail setup (initial d) ms, Steady x) :
    ∃ added, c'.desk.journal = added ++ c.desk.journal ∧ ShowsOffline c.point added := by
  have hturn := transition_of_step? hstep
  obtain ⟨hunrefused, hapart⟩ := apart_of_run hcommon hread hoffline halone hsteady hrun
  obtain ⟨added, hadded, -⟩ := hturn.adds
  refine ⟨added, hadded, hapart.showsOffline (hunrefused.unheard.online ?_) hturn hadded⟩
  rwa [map_snd_trail hrun]

namespace Worker

/-- The device is gone when an event has failed, and the next pass begins. -/
def goneSession : List Move :=
  silentSession ++ [.proceed, .proceed, .presence false, .proceed, .pulse .done]

example :
    (run ⟨impatient, false, 1⟩ (initial .initial) (goneSession ++ [.presence true])).map
        (·.desk.journal.reverse.filterMap fun e => e.shown?.map fun s => (e.deed?, s.online)) =
      some [(some .pulsed, false), (some (.looked true), false), (some (.opened true), false),
        (some (.sent getInfoFrame.bytes), false), (some (.returned .entry true), true),
        (some (.sent (Event.wheel 0 (-128)).frame.bytes), true),
        (some (.sent (Event.wheel 0 (-128)).frame.bytes), false),
        (some (.returned (.event (.wheel 0 (-128))) false), false), (some (.looked false), false),
        (some .closed, false), (some .pulsed, false), (some (.looked true), false)] := by
  decide

theorem offline_without_connection_gone :
    0 < impatient.commonRetries ∧ 0 < impatient.readRetries ∧
      Desk.initial.state.online = false ∧ (∀ s, .outside (.publish s) ∉ goneSession) ∧
      (∀ x ∈ trail ⟨impatient, false, 1⟩ (initial .initial) goneSession, Steady x) ∧
      ∃ c c', run ⟨impatient, false, 1⟩ (initial .initial) goneSession = some c ∧
        step? ⟨impatient, false, 1⟩ c (.presence true) = some c' ∧
        ∃ added, c'.desk.journal = added ++ c.desk.journal ∧ ShowsOffline c.point added := by
  have halone : ∀ s, .outside (.publish s) ∉ goneSession := by
    simp [goneSession, silentSession]
  have hsteady : ∀ x ∈ trail ⟨impatient, false, 1⟩ (initial .initial) goneSession, Steady x := by
    decide
  obtain ⟨c', hwhole⟩ : ∃ c',
      run ⟨impatient, false, 1⟩ (initial .initial) (goneSession ++ [.presence true]) = some c' :=
    Option.isSome_iff_exists.mp (by decide)
  obtain ⟨c, hrun, hstep⟩ := run_concat.mp hwhole
  exact ⟨by decide, by decide, rfl, halone, hsteady, c, c', hrun, hstep,
    offline_without_connection ⟨impatient, false, 1⟩ (by decide) (by decide) .initial rfl
      goneSession c hrun (.presence true) c' hstep halone hsteady⟩

end Worker

end SerialHid
