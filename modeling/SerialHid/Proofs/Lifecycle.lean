/-
SerialHid.Proofs.Lifecycle — the worker's dealings with the device come in passes.

* `Attempts`, `Served`, `Pass` — the shape of a request, of a session and of a whole pass, as lists
  of deeds.
* `Worker.Stands : Setup → List Deed → Point → Prop` — how much of a pass belongs to each point of
  the worker; by `Transition.advances` a step takes the pass on or ends it.
* `Worker.inPasses_of_run` — every run is a number of passes and the beginning of one more.
* `Connected : List Deed → Bool → Prop` — connections are opened and closed in turn, and nothing
  is sent without one.
* `Worker.device_lifecycle` — both of every run.
-/
import SerialHid.Proofs.Deeds
import SerialHid.Proofs.Worker

namespace SerialHid

/-! ## The shape of a pass -/

/-- A request that the worker makes because it has work, or to see whether there is any: one whose
failure makes it look for the device. -/
def Purpose.isWork : Purpose → Bool
  | .entry => false
  | .chipReset => false
  | .event _ => true
  | .idle => true

/-- The worker turned to a request, and sent it, or a probe, any number of times. -/
inductive Attempts (p : Purpose) : List Deed → Prop where
  | began : Attempts p [.began p]
  | sent {w : List Deed} {r : List UInt8} (hw : Attempts p w)
      (hr : r = p.request ∨ r = getInfoFrame.bytes) : Attempts p (w ++ [.sent r])

/-- What is done on an open connection, as long as it goes well: the status is asked for first,
and then there are requests and resets in any order. After a request that failed the device was
looked for, and was there. -/
inductive Served (wired : Bool) : List Deed → Prop where
  | entry {w : List Deed} (hw : Attempts .entry w) (ok : Bool) :
      Served wired (w ++ [.returned .entry ok])
  | done {s w : List Deed} {p : Purpose} (hs : Served wired s) (hp : p.isWork = true)
      (hw : Attempts p w) : Served wired (s ++ w ++ [.returned p true])
  | failed {s w : List Deed} {p : Purpose} (hs : Served wired s) (hp : p.isWork = true)
      (hw : Attempts p w) : Served wired (s ++ w ++ [.returned p false, .looked true])
  | lineReset {s : List Deed} (hs : Served wired s) (hwired : wired = true) :
      Served wired (s ++ [.resetBegan, .pulsed, .resetDone])
  | chipReset {s w : List Deed} (hs : Served wired s) (hwired : wired = false)
      (hw : Attempts .chipReset w) (ok : Bool) :
      Served wired (s ++ [.resetBegan] ++ w ++ [.returned .chipReset ok, .resetDone])

/-- What is done on an open connection before the worker turns to a request. -/
inductive Lead (wired : Bool) : Purpose → List Deed → Prop where
  | entry : Lead wired .entry []
  | chipReset {s : List Deed} (hs : Served wired s) (hwired : wired = false) :
      Lead wired .chipReset (s ++ [.resetBegan])
  | work {s : List Deed} {p : Purpose} (hs : Served wired s) (hp : p.isWork = true) :
      Lead wired p s

/-- The line is pulsed, and the device is looked for in vain so many times. -/
def arrival (n : Nat) : List Deed := .pulsed :: .replicate n (.looked false)

/-- Then it is there, and the transport is opened. -/
def entered (n : Nat) : List Deed := arrival n ++ [.looked true, .opened true]

/-- A whole pass. -/
inductive Pass (wired : Bool) (attempts : Nat) : List Deed → Prop where
  /-- The device does not come. -/
  | absent {n : Nat} (hn : n ≤ attempts) : Pass wired attempts (arrival n)
  /-- The transport cannot be opened. -/
  | unopened {n : Nat} (hn : n < attempts) (e : LinkError) :
      Pass wired attempts
        (arrival n ++ [.looked true, .opened false, .fault (.openFailed e)])
  /-- The worker leaves because it is to end. -/
  | left {n : Nat} {s : List Deed} (hn : n < attempts) (hs : Served wired s) :
      Pass wired attempts (entered n ++ s ++ [.closed])
  /-- A request fails, and the device is gone. -/
  | vanished {n : Nat} {s w : List Deed} {p : Purpose} (hn : n < attempts)
      (hs : Served wired s) (hp : p.isWork = true) (hw : Attempts p w) :
      Pass wired attempts
        (entered n ++ s ++ w ++ [.returned p false, .looked false, .closed])
  /-- The connection collapses in a request. -/
  | collapsed {n : Nat} {s w : List Deed} {p : Purpose} (hn : n < attempts)
      (hs : Lead wired p s) (hw : Attempts p w) (message : Option String) :
      Pass wired attempts (entered n ++ s ++ w ++ [.closed, .fault (.crash message)])

theorem Purpose.ne_chipReset_of_isWork {p : Purpose} (h : p.isWork = true) : p ≠ .chipReset := by
  rintro rfl
  cases h

theorem Attempts.mem {p : Purpose} {w : List Deed} {x : Deed} (h : Attempts p w) (hx : x ∈ w) :
    x = .began p ∨ x = .sent p.request ∨ x = .sent getInfoFrame.bytes := by
  induction h with
  | began => exact .inl (List.mem_singleton.mp hx)
  | sent hw hr ih =>
    rcases List.mem_append.mp hx with hx | hx
    · exact ih hx
    · obtain rfl := List.mem_singleton.mp hx
      rcases hr with rfl | rfl
      · exact .inr (.inl rfl)
      · exact .inr (.inr rfl)

/-- Nothing else is done in a request. -/
theorem Attempts.notMem {p : Purpose} {w : List Deed} {x : Deed} (h : Attempts p w)
    (hbegan : x ≠ .began p) (hsent : ∀ r, x ≠ .sent r) : x ∉ w := by
  intro hx
  rcases h.mem hx with hx | hx | hx
  · exact hbegan hx
  · exact hsent _ hx
  · exact hsent _ hx

theorem arrival_succ (n : Nat) : arrival (n + 1) = arrival n ++ [.looked false] := by
  rw [arrival, List.replicate_succ', arrival, List.cons_append]

/-- No pass is under way. -/
def Point.isIdle : Point → Bool
  | .starting | .top | .pausing | .ended => true
  | _ => false

/-! ## Where the worker stands in a pass -/

namespace Worker

/-- What was done on the connection so far, by the point in the session. -/
def InSession (wired : Bool) (body : List Deed) : Session → Prop
  | .request p j =>
    ∃ s w, Lead wired p s ∧ Attempts p w ∧ body = s ++ w ∧ j.request = p.request
  | .head | .drained | .resetCheck | .receiving => Served wired body
  | .linePulse => wired = true ∧ ∃ s, Served wired s ∧ body = s ++ [.resetBegan, .pulsed]
  | .resetEnd => Served wired (body ++ [.resetDone])
  | .flushing | .checking =>
    ∃ s p w, Served wired s ∧ p.isWork = true ∧ Attempts p w ∧
      body = s ++ w ++ [.returned p false]

/-- What was done in the pass so far, by the point of the worker. -/
def Stands (setup : Setup) (current : List Deed) : Point → Prop
  | .starting | .top | .pausing | .ended => current = []
  | .initialPulse => current = [.pulsed]
  | .looking left | .absent left => ∃ n, n + left = setup.attempts ∧ current = arrival n
  | .opening => ∃ n < setup.attempts, current = arrival n ++ [.looked true]
  | .session s =>
    ∃ n < setup.attempts, ∃ body, current = entered n ++ body ∧ InSession setup.wired body s
  | .faulted f | .telling f => Pass setup.wired setup.attempts (current ++ [.fault f])

/-- What a step adds to the pass: the pass goes on, or it is over. -/
def Advances (setup : Setup) (current added : List Deed) (p : Point) : Prop :=
  Stands setup (current ++ added) p ∨
    Pass setup.wired setup.attempts (current ++ added) ∧ Stands setup [] p

variable {setup : Setup} {d : Desk} {p : Point} {c c' : Config} {m : Move} {current : List Deed}

/-- Whatever was done so far, it is the beginning of a pass. -/
theorem Stands.begins_pass (h : Stands setup current p) :
    ∃ rest, Pass setup.wired setup.attempts (current ++ rest) := by
  cases p with
  | starting | top | pausing | ended =>
    obtain rfl : current = [] := h
    exact ⟨arrival 0, .absent (Nat.zero_le _)⟩
  | initialPulse =>
    obtain rfl : current = [.pulsed] := h
    exact ⟨[], .absent (Nat.zero_le _)⟩
  | looking left | absent left =>
    obtain ⟨n, hn, rfl⟩ := h
    exact ⟨[], by simpa using Pass.absent (by omega)⟩
  | opening =>
    obtain ⟨n, hn, rfl⟩ := h
    exact ⟨[.opened false, .fault (.openFailed (.io ""))], by simpa using Pass.unopened hn _⟩
  | faulted f | telling f => exact ⟨_, h⟩
  | session s =>
    obtain ⟨n, hn, body, rfl, h⟩ := h
    cases s with
    | request p j =>
      obtain ⟨s, w, hs, hw, rfl, -⟩ := h
      exact ⟨[.closed, .fault (.crash none)], by simpa using Pass.collapsed hn hs hw none⟩
    | head | drained | resetCheck | receiving => exact ⟨[.closed], Pass.left hn h⟩
    | linePulse =>
      obtain ⟨hwired, s, hs, rfl⟩ := h
      exact ⟨[.resetDone, .closed], by simpa using Pass.left hn (.lineReset hs hwired)⟩
    | resetEnd => exact ⟨[.resetDone, .closed], by simpa using Pass.left hn h⟩
    | flushing | checking =>
      obtain ⟨s, p, w, hs, hp, hw, rfl⟩ := h
      exact ⟨[.looked false, .closed], by simpa using Pass.vanished hn hs hp hw⟩

/-! ## One step -/

/-- The worker turns to a request. -/
theorem InSession.began {wired : Bool} {s : List Deed} {q : Purpose} (hs : Lead wired q s)
    (settings : Settings) :
    InSession wired (s ++ [.began q]) (.request q (.start settings q.request)) :=
  ⟨s, _, hs, .began, rfl, rfl⟩

/-- A request is over. -/
theorem InSession.returned {wired : Bool} {s w : List Deed} {q : Purpose} (hs : Lead wired q s)
    (hw : Attempts q w) (ok : Bool) :
    InSession wired (s ++ w ++ [.returned q ok]) (afterRequest q ok) := by
  cases hs with
  | entry => exact .entry hw ok
  | chipReset hs hwired =>
    have hserved := Served.chipReset hs hwired hw ok
    simpa [InSession, afterRequest] using hserved
  | work hs hp =>
    cases ok with
    | true =>
      cases q with
      | entry | chipReset => cases hp
      | event e => exact .done hs hp hw
      | idle => exact .done hs hp hw
    | false =>
      cases q with
      | entry | chipReset => cases hp
      | event e => exact ⟨s, _, w, hs, hp, hw, rfl⟩
      | idle => exact ⟨s, _, w, hs, hp, hw, rfl⟩

/-- Nothing is added, and what was done fits the new point as well. -/
theorem Advances.keep (h : Stands setup current p) : Advances setup current [] p :=
  .inl (by rwa [List.append_nil])

/-- The session goes on. -/
theorem Advances.session {n : Nat} {body added : List Deed} {s : Session} (hn : n < setup.attempts)
    (h : InSession setup.wired (body ++ added) s) :
    Advances setup (entered n ++ body) added (.session s) :=
  .inl ⟨n, hn, body ++ added, List.append_assoc .., h⟩

/-- A step of a request keeps its place in the session. -/
theorem Stands.follow {q : Purpose} {j : Job} {i : Job.Input} {pd : Progress × Desk}
    (h : Stands setup current (.session (.request q j)))
    (hturn : Job.Turn setup.settings j d i pd) :
    ∃ added, (follow q pd).desk.deeds = d.deeds ++ added ∧
      Advances setup current added (follow q pd).point := by
  obtain ⟨n, hn, body, rfl, s, w, hs, hw, rfl, hj⟩ := h
  rcases pd with ⟨progress, d'⟩
  rcases hturn.deeds with ⟨j', rfl, hj', hdeeds | ⟨r, hr, hdeeds⟩⟩ | ⟨ok, rfl, hdeeds⟩
  · refine ⟨[], by simpa [Worker.follow] using hdeeds, .session hn ?_⟩
    exact ⟨s, w, hs, hw, List.append_nil _, hj'.trans hj⟩
  · refine ⟨[.sent r], hdeeds, .session hn ?_⟩
    have hsent : r = q.request ∨ r = getInfoFrame.bytes := by
      rwa [Job.Sends, hj] at hr
    exact ⟨s, _, hs, .sent hw hsent, List.append_assoc .., hj'.trans hj⟩
  · refine ⟨[.returned q ok], ?_, .session hn (InSession.returned hs hw ok)⟩
    simpa [Worker.follow, Entry.deed?] using hdeeds

/-- A step of the worker takes the pass on, or ends it. -/
theorem Transition.advances (h : Transition setup d p m c') (hs : Stands setup current p) :
    ∃ added, c'.desk.deeds = d.deeds ++ added ∧ Advances setup current added c'.point := by
  have hsame {d' : Desk} (h : d'.deeds = d.deeds) : d'.deeds = d.deeds ++ [] := by simpa using h
  cases h with
  | others _ a => exact ⟨[], hsame (by simp), .keep hs⟩
  | started | stopped => exact ⟨[], hsame (by simp [Entry.deed?]), .keep hs⟩
  | passBegan hstop =>
    obtain rfl : current = [] := hs
    exact ⟨[.pulsed], by simp [Entry.deed?], .inl rfl⟩
  | initialPulsed pulse =>
    obtain rfl : current = [.pulsed] := hs
    exact ⟨[], hsame (by simp), .keep ⟨0, by simp, rfl⟩⟩
  | gaveUp =>
    obtain ⟨n, hn, rfl⟩ := hs
    have hpass : Pass setup.wired setup.attempts (arrival n) := .absent (by omega)
    exact ⟨[], hsame (by simp [Entry.deed?]), .inr ⟨by simpa using hpass, rfl⟩⟩
  | found left =>
    obtain ⟨n, hn, rfl⟩ := hs
    exact ⟨[.looked true], by simp [Entry.deed?], .inl ⟨n, by omega, rfl⟩⟩
  | notFound left =>
    obtain ⟨n, hn, rfl⟩ := hs
    refine ⟨[.looked false], by simp [Entry.deed?], .inl ⟨n + 1, by omega, ?_⟩⟩
    rw [arrival_succ]
  | waited left =>
    obtain ⟨n, hn, rfl⟩ := hs
    refine ⟨[], hsame rfl, ?_⟩
    cases d.stop with
    | true =>
      have hpass : Pass setup.wired setup.attempts (arrival n) := .absent (by omega)
      exact .inr ⟨by simpa using hpass, rfl⟩
    | false => exact .keep ⟨n, hn, rfl⟩
  | opened =>
    obtain ⟨n, hn, rfl⟩ := hs
    refine ⟨[.opened true, .began .entry], by simp [Entry.deed?], .inl ⟨n, hn, [.began .entry], ?_⟩⟩
    exact ⟨by simp [entered], InSession.began .entry setup.settings⟩
  | openFailed e =>
    obtain ⟨n, hn, rfl⟩ := hs
    refine ⟨[.opened false], by simp [Entry.deed?], .inl ?_⟩
    simpa [Stands] using Pass.unopened hn e
  | emptied f => exact ⟨[], by simp, .keep hs⟩
  | faultTold f => exact ⟨[.fault f], by simp [Entry.deed?], .inr ⟨hs, rfl⟩⟩
  | rested => exact ⟨[], hsame rfl, .keep hs⟩
  | requestWent q j pd hturn | requestAnswered q j a pd hturn => exact hs.follow hturn
  | crashed q j message request hpending =>
    obtain ⟨n, hn, body, rfl, s, w, hlead, hw, rfl, -⟩ := hs
    refine ⟨[.closed], by simp [Entry.deed?], .inl ?_⟩
    simpa [Stands] using Pass.collapsed hn hlead hw message
  | headed =>
    refine ⟨[], hsame rfl, ?_⟩
    cases d.stop <;> exact .keep hs
  | drained hqueue =>
    obtain ⟨n, hn, body, rfl, hserved⟩ := hs
    exact ⟨[.closed], by simp, .inr ⟨.left hn hserved, rfl⟩⟩
  | draining | noReset => exact ⟨[], hsame rfl, .keep hs⟩
  | lineReset hwanted hwired =>
    obtain ⟨n, hn, body, rfl, hserved⟩ := hs
    refine ⟨[.resetBegan, .pulsed], by simp [Entry.deed?], .session hn ?_⟩
    exact ⟨hwired, body, hserved, rfl⟩
  | chipReset hwanted hwired =>
    obtain ⟨n, hn, body, rfl, hserved⟩ := hs
    refine ⟨[.resetBegan, .began .chipReset], by simp [Entry.deed?], .session hn ?_⟩
    simpa using InSession.began (.chipReset hserved hwired) setup.settings
  | linePulsed pulse =>
    obtain ⟨n, hn, body, rfl, hwired, s, hserved, rfl⟩ := hs
    refine ⟨[], hsame (by simp), .session hn ?_⟩
    simpa [InSession] using Served.lineReset hserved hwired
  | resetEnded =>
    obtain ⟨n, hn, body, rfl, hserved⟩ := hs
    exact ⟨[.resetDone], Desk.deeds_record _ .resetDone, .session hn hserved⟩
  | received e es hqueue =>
    obtain ⟨n, hn, body, rfl, hserved⟩ := hs
    refine ⟨[.began (.event e)], deeds_begin setup (.event e) _, .session hn ?_⟩
    exact InSession.began (.work hserved rfl) setup.settings
  | queueClosed hqueue hclosed =>
    obtain ⟨n, hn, body, rfl, hserved⟩ := hs
    exact ⟨[.closed], deeds_queueClosed d, .inr ⟨.left hn hserved, rfl⟩⟩
  | idled hqueue hopen =>
    obtain ⟨n, hn, body, rfl, hserved⟩ := hs
    refine ⟨[.began .idle], deeds_begin setup .idle d, .session hn ?_⟩
    exact InSession.began (.work hserved rfl) setup.settings
  | flushed => exact ⟨[], hsame (by simp), .keep hs⟩
  | stillThere =>
    obtain ⟨n, hn, body, rfl, s, q, w, hserved, hq, hw, rfl⟩ := hs
    refine ⟨[.looked true], by simp [Entry.deed?], .session hn ?_⟩
    simpa [InSession] using Served.failed hserved hq hw
  | disappeared =>
    obtain ⟨n, hn, body, rfl, s, q, w, hserved, hq, hw, rfl⟩ := hs
    refine ⟨[.looked false, .closed], by simp [Entry.deed?], .inr ⟨?_, rfl⟩⟩
    simpa using Pass.vanished hn hserved hq hw

/-! ## Runs -/

/-- Whole passes, and then as much of one more as belongs to the point. -/
def InPasses (setup : Setup) (w : List Deed) (p : Point) : Prop :=
  ∃ (passes : List (List Deed)) (current : List Deed), w = passes.flatten ++ current ∧
    (∀ v ∈ passes, Pass setup.wired setup.attempts v) ∧ Stands setup current p

theorem InPasses.idle (hidle : p.isIdle = true) : InPasses setup [] p := by
  refine ⟨[], [], rfl, by simp, ?_⟩
  cases p <;> first | rfl | cases hidle

theorem InPasses.start (setup : Setup) (d : Desk) : InPasses setup [] (initial d).point :=
  .idle rfl

theorem InPasses.step {w : List Deed} (hw : InPasses setup w p)
    (hstep : Transition setup d p m c') :
    ∃ added, c'.desk.deeds = d.deeds ++ added ∧ InPasses setup (w ++ added) c'.point := by
  obtain ⟨passes, current, rfl, hpasses, hstands⟩ := hw
  obtain ⟨added, hadded, hgo | ⟨hpass, hnext⟩⟩ := hstep.advances hstands
  · exact ⟨added, hadded, passes, current ++ added, by simp, hpasses, hgo⟩
  · refine ⟨added, hadded, passes ++ [current ++ added], [], by simp, ?_, hnext⟩
    exact List.forall_mem_append.mpr ⟨hpasses, List.forall_mem_singleton.mpr hpass⟩

/-- Where a run goes on, the passes go on. -/
theorem InPasses.of_run {v : List Deed} {c₀ : Config} {ms : List Move}
    (hv : InPasses setup v c₀.point) (hrun : run setup c₀ ms = some c) :
    ∃ w, c.desk.deeds = c₀.desk.deeds ++ w ∧ InPasses setup (v ++ w) c.point := by
  refine run_induction (P := fun _ c => ∃ w, c.desk.deeds = c₀.desk.deeds ++ w ∧
    InPasses setup (v ++ w) c.point) ⟨[], by simp, by simpa using hv⟩ ?_ hrun
  rintro - m c c' - ⟨w, hdeeds, hw⟩ hstep
  obtain ⟨added, hadded, hw'⟩ := hw.step hstep
  exact ⟨w ++ added, by rw [hadded, hdeeds, List.append_assoc], by rwa [← List.append_assoc]⟩

theorem inPasses_of_run {ms : List Move} (hrun : run setup (initial d) ms = some c) :
    ∃ w, c.desk.deeds = d.deeds ++ w ∧ InPasses setup w c.point :=
  (InPasses.start setup d).of_run hrun

end Worker

/-- What is done in a run, with what may still be missing of the last pass, is a number of whole
passes. -/
theorem Worker.completed_of_run {setup : Setup} {d : Desk} {ms : List Move} {c : Config}
    (hrun : run setup (initial d) ms = some c) :
    ∃ w rest passes, c.desk.deeds = d.deeds ++ w ∧ w ++ rest = List.flatten passes ∧
      ∀ v ∈ passes, Pass setup.wired setup.attempts v := by
  obtain ⟨w, hdeeds, passes, current, rfl, hpasses, hstands⟩ := inPasses_of_run hrun
  obtain ⟨rest, hlast⟩ := hstands.begins_pass
  refine ⟨_, rest, passes ++ [current ++ rest], hdeeds, by simp, ?_⟩
  exact List.forall_mem_append.mpr ⟨hpasses, List.forall_mem_singleton.mpr hlast⟩

/-! ## Connections -/

/-- How often a connection was opened. -/
def opens (w : List Deed) : Nat := w.count (.opened true)

/-- How often one was closed. -/
def closes (w : List Deed) : Nat := w.count .closed

/-- Connections are opened and closed in turn, never two at a time; nothing is sent without one,
and none is open when a fault is told. At the end one is open, or none. -/
structure Connected (w : List Deed) (connected : Bool) : Prop where
  balance : opens w = closes w + connected.toNat
  single : ∀ before after, w = before ++ after →
    closes before ≤ opens before ∧ opens before ≤ closes before + 1
  exchange : ∀ before r after, w = before ++ .sent r :: after → opens before = closes before + 1
  fault : ∀ before f after, w = before ++ .fault f :: after → opens before = closes before

/-- Whether a connection is open after a deed; none where the deed is out of place. -/
def Deed.link (connected : Bool) : Deed → Option Bool
  | .opened ok => if connected then none else some ok
  | .closed => if connected then some false else none
  | .sent _ => if connected then some true else none
  | .fault _ => if connected then none else some false
  | _ => some connected

theorem count_of_link {b b' : Bool} {w : List Deed} (h : track Deed.link b w = some b') :
    opens w + b.toNat = closes w + b'.toNat := by
  induction w generalizing b with
  | nil =>
    cases h
    rfl
  | cons x w ih =>
    obtain ⟨b₁, hx, hw⟩ := Option.bind_eq_some_iff.mp h
    have hrest := ih hw
    simp only [opens, closes, List.count_cons] at hrest ⊢
    cases x with
    | opened ok =>
      cases ok <;> cases b <;> cases hx
      all_goals
        simp at hrest ⊢
        omega
    | closed | sent | fault =>
      cases b <;> cases hx
      all_goals
        simp at hrest ⊢
        omega
    | _ => cases hx; simpa using hrest

theorem Connected.of_link {w : List Deed} {b : Bool} (h : track Deed.link false w = some b) :
    Connected w b := by
  have hbefore : ∀ before after, w = before ++ after →
      ∃ b', track Deed.link false before = some b' ∧ track Deed.link b' after = some b := by
    rintro before after rfl
    exact exists_track_of_append h
  refine ⟨by simpa using count_of_link h, ?_, ?_, ?_⟩
  · intro before after hw
    obtain ⟨b', hb', -⟩ := hbefore before after hw
    have hcount := count_of_link hb'
    cases b' <;> simp at hcount <;> omega
  · intro before r after hw
    obtain ⟨b', hb', hafter⟩ := hbefore before _ hw
    have hcount := count_of_link hb'
    cases b' with
    | true => simpa using hcount
    | false => simp [Deed.link] at hafter
  · intro before f after hw
    obtain ⟨b', hb', hafter⟩ := hbefore before _ hw
    have hcount := count_of_link hb'
    cases b' with
    | true => simp [Deed.link] at hafter
    | false => simpa using hcount

section Link

variable {wired connected : Bool} {attempts : Nat} {p : Purpose} {w : List Deed}

theorem Attempts.link (h : Attempts p w) : track Deed.link true w = some true := by
  induction h with
  | began => rfl
  | sent hw hr ih => simp [ih, Deed.link]

theorem Served.link (h : Served wired w) : track Deed.link true w = some true := by
  induction h with
  | entry hw ok => simp [hw.link, Deed.link]
  | done hs hp hw ih | failed hs hp hw ih => simp [ih, hw.link, Deed.link]
  | lineReset hs hwired ih => simp [ih, Deed.link]
  | chipReset hs hwired hw ok ih => simp [ih, hw.link, Deed.link]

theorem Lead.link (h : Lead wired p w) : track Deed.link true w = some true := by
  cases h with
  | entry => rfl
  | chipReset hs hwired => simp [hs.link, Deed.link]
  | work hs hp => exact hs.link

theorem link_arrival (n : Nat) : track Deed.link false (arrival n) = some false := by
  induction n with
  | zero => rfl
  | succ n ih => simp [arrival_succ, ih, Deed.link]

theorem link_entered (n : Nat) : track Deed.link false (entered n) = some true := by
  simp [entered, link_arrival, Deed.link]

theorem Pass.link (h : Pass wired attempts w) : track Deed.link false w = some false := by
  cases h with
  | absent hn => exact link_arrival _
  | unopened hn e => simp [link_arrival, Deed.link]
  | left hn hs => simp [link_entered, hs.link, Deed.link]
  | vanished hn hs hp hw => simp [link_entered, hs.link, hw.link, Deed.link]
  | collapsed hn hs hw message => simp [link_entered, hs.link, hw.link, Deed.link]

end Link

/-- The worker has a connection. -/
def Point.isConnected : Point → Bool
  | .session _ => true
  | _ => false

namespace Worker

theorem InSession.link {wired : Bool} {body : List Deed} {s : Session}
    (h : InSession wired body s) : track Deed.link true body = some true := by
  cases s with
  | request p j =>
    obtain ⟨s, w, hs, hw, rfl, -⟩ := h
    simp [hs.link, hw.link]
  | head | drained | resetCheck | receiving => exact Served.link h
  | linePulse =>
    obtain ⟨-, s, hs, rfl⟩ := h
    simp [hs.link, Deed.link]
  | resetEnd =>
    have hserved := Served.link h
    cases hbody : track Deed.link true body <;> simp [hbody, Deed.link] at hserved ⊢
    exact hserved
  | flushing | checking =>
    obtain ⟨s, p, w, hs, hp, hw, rfl⟩ := h
    simp [hs.link, hw.link, Deed.link]

theorem Stands.link {setup : Setup} {current : List Deed} {p : Point}
    (h : Stands setup current p) : track Deed.link false current = some p.isConnected := by
  cases p with
  | starting | top | pausing | ended =>
    obtain rfl : current = [] := h
    rfl
  | initialPulse =>
    obtain rfl : current = [.pulsed] := h
    rfl
  | looking left | absent left =>
    obtain ⟨n, -, rfl⟩ := h
    exact link_arrival n
  | opening =>
    obtain ⟨n, -, rfl⟩ := h
    simp [link_arrival, Deed.link, Point.isConnected]
  | session s =>
    obtain ⟨n, -, body, rfl, h⟩ := h
    simp [link_entered, h.link, Point.isConnected]
  | faulted f | telling f =>
    have hpass := Pass.link h
    cases hcurrent : track Deed.link false current with
    | none => simp [hcurrent] at hpass
    | some b => cases b <;> simp [hcurrent, Deed.link, Point.isConnected] at hpass ⊢

end Worker

/-- **The device is dealt with in passes.** Every run of the worker is a number of passes and the
beginning of one more, which is empty before a pass begins, after a fault was told, and when the
worker has ended. The connections of the run are opened and closed in turn: there is one exactly
while the worker is in a session, nothing is sent without one, and none is left when a fault is
told. -/
theorem Worker.device_lifecycle (setup : Setup) (d : Desk) (ms : List Move) (c : Config)
    (hrun : run setup (initial d) ms = some c) :
    ∃ (passes : List (List Deed)) (current : List Deed),
      c.desk.deeds = d.deeds ++ (passes.flatten ++ current) ∧
      (∀ v ∈ passes, Pass setup.wired setup.attempts v) ∧
      (∃ rest, Pass setup.wired setup.attempts (current ++ rest)) ∧
      (c.point.isIdle = true → current = []) ∧
      Connected (passes.flatten ++ current) c.point.isConnected := by
  obtain ⟨w, hdeeds, passes, current, rfl, hpasses, hstands⟩ := inPasses_of_run hrun
  refine ⟨passes, current, hdeeds, hpasses, hstands.begins_pass, ?_, .of_link ?_⟩
  · intro hidle
    cases hpoint : c.point with
    | starting | top | pausing | ended =>
      rw [hpoint] at hstands
      exact hstands
    | _ => simp [hpoint, Point.isIdle] at hidle
  · rw [track_append, track_flatten fun v hv => (hpasses v hv).link]
    exact hstands.link

namespace Worker

/-- A session in which an event is refused and the device is gone then, and the end of the
worker. -/
def vanishedSession : List Move :=
  [.proceed, .proceed, .pulse .done, .presence false, .proceed, .presence true, .opened none,
    .proceed, .reply (.answer (.ok [0x57, 0xAB, 0x00, 0x81, 0x03, 0x30, 0x01, 0x05, 0xBC])),
    .proceed, .proceed, .proceed, .proceed, .reply (.answer (.error (.invalidRequest "no"))),
    .proceed, .presence false, .outside .stop, .proceed]

/-- The desk at which an event waits. -/
def wheelWaits : Desk := { Desk.initial with queue := [.wheel 0 1] }

example :
    (run ⟨{}, false, 2⟩ (initial wheelWaits) vanishedSession).map (·.desk.deeds) =
      some [.pulsed, .looked false, .looked true, .opened true, .began .entry,
        .sent getInfoFrame.bytes, .returned .entry true, .began (.event (.wheel 0 1)),
        .sent (Event.wheel 0 1).frame.bytes, .returned (.event (.wheel 0 1)) false,
        .looked false, .closed] := by
  decide

theorem device_lifecycle_vanished :
    ∃ c, run ⟨{}, false, 2⟩ (initial wheelWaits) vanishedSession = some c ∧
    ∃ (passes : List (List Deed)) (current : List Deed),
      c.desk.deeds = wheelWaits.deeds ++ (passes.flatten ++ current) ∧
      (∀ v ∈ passes, Pass false 2 v) ∧
      (∃ rest, Pass false 2 (current ++ rest)) ∧
      (c.point.isIdle = true → current = []) ∧
      Connected (passes.flatten ++ current) c.point.isConnected := by
  obtain ⟨c, hrun⟩ : ∃ c, run ⟨{}, false, 2⟩ (initial wheelWaits) vanishedSession = some c :=
    Option.isSome_iff_exists.mp (by decide)
  exact ⟨c, hrun, device_lifecycle ⟨{}, false, 2⟩ wheelWaits vanishedSession c hrun⟩

end Worker

end SerialHid
