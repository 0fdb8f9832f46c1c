/-
SerialHid.Proofs.Pretence — what the worker does when requests are only pretended.

* `Point.Pretends` — where such a worker can stand: a request is over before anything is sent, so
  none is ever waited for, and none fails.
* `Worker.Pretended` — what is promised of each step: nothing goes out, and every request succeeds.
* `PretendedState` — the published state, said of what was done since an earlier moment.
* `Worker.pretended_throughout` — all of it of every run.
-/
import SerialHid.Proofs.Requests

namespace SerialHid

/-! ## What is promised -/

/-- What a deed tells of the busy flag: a reset raises it, and the end of a request lowers it. -/
def Deed.busy? : Deed → Option Bool
  | .resetBegan => some true
  | .returned .. => some false
  | _ => none

/-- The state after these deeds, if requests are only pretended: the chip is online as soon as a
request is over, busy from a reset to the end of the next request, and its lights stay as they
were. -/
structure PretendedState (s₀ : DeviceState) (w : List Deed) (s : DeviceState) : Prop where
  online : s.online = true ↔ s₀.online = true ∨ ∃ p ok, .returned p ok ∈ w
  busy : s.busy = (w.reverse.findSome? Deed.busy?).getD s₀.busy
  leds : s.leds = s₀.leds

/-- What a step from a point adds to the journal, if requests are only pretended. -/
structure Worker.Pretended (p : Point) (added : List Entry) : Prop where
  unsent : ∀ r probe s, .sent r probe s ∉ added
  /-- A request succeeds, and leaves the chip online and not busy. -/
  succeeded : ∀ q ok s, .returned q ok s ∈ added → ok = true ∧ s.online = true ∧ s.busy = false
  /-- The device is not looked for in a session. -/
  looked : ∀ present s, .looked present s ∈ added → p.isConnected = false
  /-- Events are thrown away only where the transport could not be opened. -/
  discarded : ∀ es, .discarded es ∈ added → ∃ e, p = .faulted (.openFailed e)

/-! ## States -/

section State

variable {s₀ s₁ s : DeviceState} {v w : List Deed}

theorem PretendedState.trans (h : PretendedState s₀ v s₁) (h' : PretendedState s₁ w s) :
    PretendedState s₀ (v ++ w) s where
  online := by
    rw [h'.online, h.online]
    simp only [List.mem_append, exists_or, or_assoc]
  busy := by
    rw [h'.busy, h.busy, List.reverse_append, List.findSome?_append]
    cases w.reverse.findSome? Deed.busy? <;> rfl
  leds := h'.leds.trans h.leds

/-- Where no request ends and no reset begins, the state stays as it is. -/
theorem PretendedState.quiet (hstate : s = s₀) (hw : ∀ x ∈ w, x.busy? = none) :
    PretendedState s₀ w s := by
  subst hstate
  refine ⟨?_, ?_, rfl⟩
  · have hnone : ¬ ∃ p ok, .returned p ok ∈ w := by
      intro hreturned
      obtain ⟨p, ok, hmem⟩ := hreturned
      cases hw _ hmem
    exact (or_iff_left hnone).symm
  · have hnone : w.reverse.findSome? Deed.busy? = none := by
      rw [List.findSome?_eq_none_iff]
      intro x hx
      exact hw x (List.mem_reverse.mp hx)
    rw [hnone]
    rfl

end State

/-! ## One step -/

/-- A pretended request is over as soon as it may begin. -/
theorem Job.Turn.eq_pretended {settings : Settings} {r : List UInt8} {d : Desk} {i : Job.Input}
    {pd : Progress × Desk} (hnoop : settings.noop = true) (hcommon : 0 < settings.commonRetries)
    (hread : 0 < settings.readRetries) (h : Job.Turn settings (.start settings r) d i pd) :
    pd = (.returned true, (d.write (·.pretend)).record .pretended) := by
  have hleft : (Job.start settings r).exhausted = false := by
    simp [Job.exhausted, Job.start, Nat.ne_of_gt hcommon, Nat.ne_of_gt hread]
  cases h with
  | exhausted first hstage hspent => simp [hleft] at hspent
  | abandoned hstage => cases hstage
  | pretended first hstage =>
    unfold Job.finish
    rw [hleft]
    rfl
  | sent first hstage hleft hgo hsends => simp [hnoop] at hsends
  | settled a hstage => cases hstage
  | status a s hstage => cases hstage
  | garbled a f hstage => cases hstage
  | failed a f hstage => cases hstage
  | resumed a f hstage => cases hstage

/-- Where a worker can stand that only pretends: a request is never further than at its beginning,
none has failed, and no connection has collapsed. -/
def Point.Pretends (settings : Settings) : Point → Prop
  | .session (.request q j) => j = .start settings q.request
  | .session .flushing => False
  | .session .checking => False
  | .faulted (.crash _) | .telling (.crash _) => False
  | _ => True

namespace Worker

variable {setup : Setup} {d d' : Desk} {p : Point} {m : Move} {c c' : Config} {q : Purpose}
  {j : Job}

theorem pretends_afterRequest (settings : Settings) (q : Purpose) :
    Point.Pretends settings (.session (afterRequest q true)) := by
  cases q <;> trivial

section Noop

variable (hnoop : setup.settings.noop = true) (hcommon : 0 < setup.settings.commonRetries)
  (hread : 0 < setup.settings.readRetries)
include hnoop hcommon hread

/-- Where the worker is after a request that it pretended. -/
theorem follow_eq_pretended {i : Job.Input} {pd : Progress × Desk}
    (hturn : Job.Turn setup.settings (.start setup.settings q.request) d i pd) :
    follow q pd = ⟨((d.write (·.pretend)).record .pretended).record
      (.returned q true d.state.pretend), .session (afterRequest q true)⟩ := by
  rw [hturn.eq_pretended hnoop hcommon hread]
  rfl

theorem Transition.pretends (h : Transition setup d p m c') (hp : p.Pretends setup.settings) :
    c'.point.Pretends setup.settings := by
  cases h with
  | others => exact hp
  | opened | chipReset | received | idled => rfl
  | requestWent q j pd hturn | requestAnswered q j a pd hturn =>
    obtain rfl : j = .start setup.settings q.request := hp
    rw [follow_eq_pretended hnoop hcommon hread hturn]
    exact pretends_afterRequest _ q
  | crashed q j message request hpending =>
    obtain rfl : j = .start setup.settings q.request := hp
    cases hpending
  | waited | headed => split <;> trivial
  | flushed => exact hp.elim
  | emptied f =>
    cases f with
    | openFailed e => trivial
    | crash message => exact hp.elim
  | _ => trivial

/-- A request ends well, and leaves the state behind that pretending does. -/
theorem Transition.returned_of_pretends (h : Transition setup d p m c')
    (hp : p.Pretends setup.settings) {added : List Entry}
    (hadded : c'.desk.journal = added ++ d.journal) {ok : Bool} {s : DeviceState}
    (hreturned : .returned q ok s ∈ added) : ok = true ∧ s = d.state.pretend := by
  obtain ⟨j, i, d', rfl, -, hturn, rfl⟩ := h.turn_of_returned hadded hreturned
  obtain rfl : j = .start setup.settings q.request := hp
  obtain ⟨hok, rfl⟩ := Prod.mk.inj (hturn.eq_pretended hnoop hcommon hread)
  exact ⟨Progress.returned.inj hok, rfl⟩

/-- Nothing goes out for a request. -/
theorem Transition.unsent_of_pretends (h : Transition setup d p m c')
    (hp : p.Pretends setup.settings) {added : List Entry}
    (hadded : c'.desk.journal = added ++ d.journal) {r : List UInt8} {probe : Bool}
    {s : DeviceState} : .sent r probe s ∉ added := by
  intro hsent
  have hrequest : p.isRequest = true := h.adds.of_mem hadded hsent
  cases h with
  | others p a => exact Bool.noConfusion ((d.adds_act a).of_mem hadded hsent)
  | requestWent q j pd hturn | requestAnswered q j a pd hturn =>
    obtain rfl : j = .start setup.settings q.request := hp
    rw [follow_eq_pretended hnoop hcommon hread hturn] at hadded
    obtain rfl : added = [.returned q true d.state.pretend, .pretended] :=
      List.append_cancel_right hadded.symm
    simp at hsent
  | crashed q j message request hpending =>
    obtain rfl : j = .start setup.settings q.request := hp
    cases hpending
  | _ => cases hrequest

omit hnoop hcommon hread in
/-- The device is looked for only before it is opened. -/
theorem Transition.looked_of_pretends (h : Transition setup d p m c')
    (hp : p.Pretends setup.settings) {added : List Entry}
    (hadded : c'.desk.journal = added ++ d.journal) {present : Bool} {s : DeviceState}
    (hlooked : .looked present s ∈ added) : p.isConnected = false := by
  have hmove : mayEnter p m (.looked present s) = true := h.adds.of_mem hadded hlooked
  cases h with
  | others p a => exact Bool.noConfusion ((d.adds_act a).of_mem hadded hlooked)
  | found | notFound => rfl
  | stillThere | disappeared => exact hp.elim
  | _ => cases hmove

omit hnoop hcommon hread in
/-- Events are thrown away only after a fault, and only one kind of fault is left. -/
theorem Traffic.discarded_of_pretends (h : Traffic d p m d') (hp : p.Pretends setup.settings)
    {added : List Entry} (hadded : d'.journal = added ++ d.journal) {es : List Event}
    (hdiscarded : .discarded es ∈ added) : ∃ e, p = .faulted (.openFailed e) := by
  have hqueue : Entry.isOfQueue (.discarded es) = true := rfl
  cases h with
  | others p a => exact Bool.noConfusion ((d.adds_act a).of_mem hadded hdiscarded)
  | routine p m d' hsame hadds =>
    have hroutine := hadds.of_mem hadded hdiscarded
    simp [isRoutine, hqueue] at hroutine
  | handed e es' hwaits =>
    obtain rfl : added = [.began (.event e)] :=
      List.append_cancel_right (hadded.symm.trans (List.singleton_append ..).symm)
    simp at hdiscarded
  | flushed => exact hp.elim
  | emptied f =>
    cases f with
    | openFailed e => exact ⟨e, rfl⟩
    | crash message => exact hp.elim

theorem Transition.pretended (h : Transition setup d p m c') (hp : p.Pretends setup.settings)
    {added : List Entry} (hadded : c'.desk.journal = added ++ d.journal) : Pretended p added where
  unsent _ _ _ := h.unsent_of_pretends hnoop hcommon hread hp hadded
  succeeded := by
    intro q ok s hreturned
    obtain ⟨hok, rfl⟩ := h.returned_of_pretends hnoop hcommon hread hp hadded hreturned
    exact ⟨hok, rfl, rfl⟩
  looked _ _ := h.looked_of_pretends hp hadded
  discarded _ := h.traffic.discarded_of_pretends hp hadded

/-- What a step does, and the state that it leaves behind. -/
theorem Transition.pretendedState (h : Transition setup d p m c')
    (hp : p.Pretends setup.settings) (halone : ∀ s, m ≠ .outside (.publish s)) :
    ∃ w, c'.desk.deeds = d.deeds ++ w ∧ PretendedState d.state w c'.desk.state := by
  have hquiet (w : List Deed) (hdeeds : c'.desk.deeds = d.deeds ++ w)
      (hstate : c'.desk.state = d.state) (hw : ∀ x ∈ w, x.busy? = none) :
      ∃ w, c'.desk.deeds = d.deeds ++ w ∧ PretendedState d.state w c'.desk.state :=
    ⟨w, hdeeds, .quiet hstate hw⟩
  cases h with
  | others p a =>
    exact hquiet [] (by simp) (d.state_act fun s hs => halone s (congrArg _ hs)) (by simp)
  | requestWent q j pd hturn | requestAnswered q j a pd hturn =>
    obtain rfl : j = .start setup.settings q.request := hp
    rw [follow_eq_pretended hnoop hcommon hread hturn]
    refine ⟨[.returned q true], by simp [Entry.deed?], ?_, rfl, rfl⟩
    simp [DeviceState.pretend]
  | crashed q j message request hpending =>
    obtain rfl : j = .start setup.settings q.request := hp
    cases hpending
  | lineReset =>
    refine ⟨[.resetBegan, .pulsed], by simp [Entry.deed?], ?_, rfl, rfl⟩
    simp [DeviceState.setBusy]
  | chipReset =>
    refine ⟨[.resetBegan, .began .chipReset], by simp [Entry.deed?], ?_, rfl, rfl⟩
    simp [begin, DeviceState.setBusy]
  | flushed | stillThere | disappeared => exact hp.elim
  | initialPulsed hit | linePulsed hit => exact hquiet [] (by simp) (by simp) (by simp)
  | passBegan => exact hquiet [.pulsed] (by simp [Entry.deed?]) rfl (by simp [Deed.busy?])
  | found => exact hquiet [.looked true] (by simp [Entry.deed?]) rfl (by simp [Deed.busy?])
  | notFound => exact hquiet [.looked false] (by simp [Entry.deed?]) rfl (by simp [Deed.busy?])
  | opened =>
    exact hquiet [.opened true, .began .entry] (by simp [Entry.deed?]) rfl (by simp [Deed.busy?])
  | openFailed => exact hquiet [.opened false] (by simp [Entry.deed?]) rfl (by simp [Deed.busy?])
  | emptied => exact hquiet [] (by simp) (by simp) (by simp)
  | faultTold f =>
    exact hquiet [.fault f] (by simp [Entry.deed?]) rfl (by simp [Deed.busy?])
  | drained => exact hquiet [.closed] (by simp) rfl (by simp [Deed.busy?])
  | queueClosed => exact hquiet [.closed] (deeds_queueClosed d) rfl (by simp [Deed.busy?])
  | resetEnded =>
    exact hquiet [.resetDone] (Desk.deeds_record _ .resetDone) rfl (by simp [Deed.busy?])
  | received e es =>
    exact hquiet [.began (.event e)] (deeds_begin setup (.event e) _) rfl (by simp [Deed.busy?])
  | idled => exact hquiet [.began .idle] (by simp) rfl (by simp [Deed.busy?])
  | _ => exact hquiet [] (by simp [Entry.deed?]) rfl (by simp)

/-! ## Runs -/

theorem pretends_of_run {ms : List Move} (hrun : run setup (initial d) ms = some c) :
    c.point.Pretends setup.settings := by
  have hstart : (initial d).point.Pretends setup.settings := trivial
  refine run_induction (P := fun _ c => c.point.Pretends setup.settings) hstart ?_ hrun
  intro _ m c c' _ hp hstep
  exact hstep.pretends hnoop hcommon hread hp

/-- As long as nobody else publishes a state, the published one is that of the deeds. -/
theorem pretendedState_of_run {late : List Move} (hp : c.point.Pretends setup.settings)
    (halone : ∀ s, .outside (.publish s) ∉ late) (hrun : run setup c late = some c') :
    ∃ w, c'.desk.deeds = c.desk.deeds ++ w ∧ PretendedState c.desk.state w c'.desk.state := by
  refine (run_induction (P := fun _ c' => c'.point.Pretends setup.settings ∧
    ∃ w, c'.desk.deeds = c.desk.deeds ++ w ∧ PretendedState c.desk.state w c'.desk.state)
    ⟨hp, [], by simp, .quiet rfl (by simp)⟩ ?_ hrun).2
  intro _ m c₁ c₂ hm hsofar hstep
  obtain ⟨hp, v, hv, hstate⟩ := hsofar
  refine ⟨hstep.pretends hnoop hcommon hread hp, ?_⟩
  obtain ⟨w, hw, hstate'⟩ :=
    hstep.pretendedState hnoop hcommon hread hp fun s hs => halone s (hs ▸ hm)
  exact ⟨v ++ w, by rw [hw, hv, List.append_assoc], hstate.trans hstate'⟩

/-- The request under way is over with the next step, and there is nothing that the connection could
respond to. -/
theorem step?_of_pretends (hp : Point.Pretends setup.settings (.session (.request q j))) :
    step? setup ⟨d, .session (.request q j)⟩ .proceed =
        some ⟨((d.write (·.pretend)).record .pretended).record
          (.returned q true d.state.pretend), .session (afterRequest q true)⟩ ∧
      ∀ r, step? setup ⟨d, .session (.request q j)⟩ (.reply r) = none := by
  obtain rfl : j = .start setup.settings q.request := hp
  refine ⟨?_, fun r => rfl⟩
  obtain ⟨pd, hpd⟩ : ∃ pd, (Job.start setup.settings q.request).step? setup.settings d .proceed =
      some pd := ⟨_, rfl⟩
  show ((Job.start setup.settings q.request).step? setup.settings d .proceed).map (follow q) = _
  rw [hpd, Option.map_some,
    follow_eq_pretended hnoop hcommon hread (Job.turn_of_step? hpd)]

end Noop

end Worker

/-- **Pretended requests never fail.** In every run of a worker that only pretends, with a budget for
each request: nothing is sent, every request succeeds and leaves the chip online and not busy, the
device is not looked for in a session, and no events are thrown away but where the transport could
not be opened. A request is over with the next step of the worker, and the connection has nothing to
respond to. And from any moment on, as long as nobody else publishes a state, the lights stay as
they were, and the chip is busy from a reset to the end of the next request. -/
theorem Worker.pretended_throughout (setup : Setup) (hnoop : setup.settings.noop = true)
    (hcommon : 0 < setup.settings.commonRetries) (hread : 0 < setup.settings.readRetries)
    (d : Desk) (ms : List Move) (c : Config) (hrun : run setup (initial d) ms = some c) :
    (∀ m c', step? setup c m = some c' →
      ∃ added, c'.desk.journal = added ++ c.desk.journal ∧ Pretended c.point added) ∧
    (∀ q j, c.point = .session (.request q j) →
      step? setup c .proceed =
          some ⟨((c.desk.write (·.pretend)).record .pretended).record
            (.returned q true c.desk.state.pretend), .session (afterRequest q true)⟩ ∧
        ∀ r, step? setup c (.reply r) = none) ∧
    ∀ late c', (∀ s, .outside (.publish s) ∉ late) → run setup c late = some c' →
      ∃ w, c'.desk.deeds = c.desk.deeds ++ w ∧
        PretendedState c.desk.state w c'.desk.state := by
  have hp := pretends_of_run hnoop hcommon hread hrun
  refine ⟨?_, ?_, ?_⟩
  · intro m c' hstep
    have hturn := transition_of_step? hstep
    obtain ⟨added, hadded, -⟩ := hturn.adds
    exact ⟨added, hadded, hturn.pretended hnoop hcommon hread hp hadded⟩
  · intro q j hpoint
    obtain ⟨desk, point⟩ := c
    subst hpoint
    exact step?_of_pretends hnoop hcommon hread hp
  · intro late c' halone hlate
    exact pretendedState_of_run hnoop hcommon hread hp halone hlate

namespace Worker

/-- Settings under which requests are only pretended. -/
def pretending : Settings := { noop := true }

/-- A session in which an event is queued and a reset is asked for, up to the chip's reset. -/
def pretendedSession : List Move :=
  [.proceed, .proceed, .pulse .done, .presence true, .opened none, .proceed,
    .outside (.queue (.wheel 0 1)), .outside .askReset, .proceed, .proceed]

/-- What follows: the reset is over, and the event is taken. -/
def pretendedRest : List Move := [.proceed, .proceed, .proceed, .proceed]

example :
    (run ⟨pretending, false, 1⟩ (initial .initial) (pretendedSession ++ pretendedRest)).map
        (fun c => (c.desk.deeds, c.desk.state.online, c.desk.state.busy)) =
      some ([.pulsed, .looked true, .opened true, .began .entry, .returned .entry true,
        .resetBegan, .began .chipReset, .returned .chipReset true, .resetDone,
        .began (.event (.wheel 0 1)), .returned (.event (.wheel 0 1)) true], true, false) := by
  decide

theorem pretended_throughout_reset :
    pretending.noop = true ∧ 0 < pretending.commonRetries ∧ 0 < pretending.readRetries ∧
      (∀ s, .outside (.publish s) ∉ pretendedRest) ∧
      ∃ c c₁ c', run ⟨pretending, false, 1⟩ (initial .initial) pretendedSession = some c ∧
        c.point = .session (.request .chipReset (.start pretending resetFrame.bytes)) ∧
        step? ⟨pretending, false, 1⟩ c .proceed = some c₁ ∧
        run ⟨pretending, false, 1⟩ c pretendedRest = some c' ∧
        (∃ added, c₁.desk.journal = added ++ c.desk.journal ∧ Pretended c.point added) ∧
        c₁ = ⟨((c.desk.write (·.pretend)).record .pretended).record
          (.returned .chipReset true c.desk.state.pretend), .session .resetEnd⟩ ∧
        (∀ r, step? ⟨pretending, false, 1⟩ c (.reply r) = none) ∧
        ∃ w, c'.desk.deeds = c.desk.deeds ++ w ∧
          PretendedState c.desk.state w c'.desk.state := by
  have halone : ∀ s, .outside (.publish s) ∉ pretendedRest := by simp [pretendedRest]
  have hstands : (run ⟨pretending, false, 1⟩ (initial .initial) pretendedSession).map (·.point) =
      some (.session (.request .chipReset (.start pretending resetFrame.bytes))) := by decide
  obtain ⟨c, hrun, hpoint⟩ := Option.map_eq_some_iff.mp hstands
  obtain ⟨c', hwhole⟩ : ∃ c', run ⟨pretending, false, 1⟩ (initial .initial)
      (pretendedSession ++ pretendedRest) = some c' :=
    Option.isSome_iff_exists.mp (by decide)
  rw [(run_append hrun _).1] at hwhole
  obtain ⟨hsteps, hrequest, hstate⟩ := pretended_throughout ⟨pretending, false, 1⟩ rfl (by decide)
    (by decide) .initial pretendedSession c hrun
  obtain ⟨hover, hsilent⟩ := hrequest _ _ hpoint
  exact ⟨rfl, by decide, by decide, halone, c, _, c', hrun, hpoint, hover, hwhole,
    hsteps _ _ hover, rfl, hsilent, hstate _ _ halone hwhole⟩

end Worker

end SerialHid
