/-
SerialHid.Proofs.Reset — a reset that was asked for is made, and made once.

* `freshAsks` — how often a reset was asked for while none was wanted; the journal is not needed
  to count that.
* `ResetCourse : Bool → List Deed → Prop` — what is done in a reset, with a reset line and without
  one.
* `ResetCourses` — the resets in a list of deeds take their course; so it is in every pass
  (`Pass.resetCourses`), and it is kept when lists are put together.
* `Handling` — what a step of the worker does about resets; `Transition.handling` finds it for each
  of them, and what is counted or awaited over a run follows from it.
* `Worker.resets_kept` — all of it of every run.
-/
import SerialHid.Proofs.Lifecycle

namespace SerialHid

/-! ## What is promised -/

/-- Others ask for a reset, and none is wanted yet. -/
def asksAnew : Config × Move → Bool
  | (c, .outside .askReset) => !c.desk.resetWanted
  | _ => false

/-- How often that happens in the steps of a run. -/
def freshAsks (steps : List (Config × Move)) : Nat := steps.countP asksAnew

/-- What is done in a reset after it began: the line is pulsed once, or there is one request for
the chip's own reset. The connection may collapse in the request; then the reset is not done. -/
inductive ResetCourse : Bool → List Deed → Prop where
  | line : ResetCourse true [.pulsed, .resetDone]
  | chip {w : List Deed} (hw : Attempts .chipReset w) (ok : Bool) :
      ResetCourse false (w ++ [.returned .chipReset ok, .resetDone])
  | collapsed {w : List Deed} (hw : Attempts .chipReset w) (message : Option String) :
      ResetCourse false (w ++ [.closed, .fault (.crash message)])

/-- An event leaves the queue. -/
def Deed.isHanding : Deed → Bool
  | .began (.event _) => true
  | _ => false

/-- How many events left the queue for a request. -/
def handed (w : List Deed) : Nat := w.countP Deed.isHanding

/-- The worker is about to take an event. -/
def Point.isReceiving : Point → Bool
  | .session .receiving => true
  | _ => false

/-- A reset is under way. -/
def Point.isResetting : Point → Bool
  | .session (.request .chipReset _) => true
  | .session .linePulse => true
  | .session .resetEnd => true
  | _ => false

/-- A step that begins a reset publishes that the chip is busy, and what it does then shows it. It
sends nothing. -/
def BeginsBusy (d d' : Desk) : Prop :=
  d'.state = d.state.setBusy true ∧
    ∃ acting, d'.journal = acting ++ .resetBegan :: d.journal ∧
      ∀ e ∈ acting, e.shows d'.state = true ∧ e.request? = none

/-- Whatever comes, until the next reset is done a reset remains wanted, and no more than so many
events leave the queue. -/
def Awaits (setup : Setup) (c : Config) (most : Nat) : Prop :=
  ∀ ms c', Worker.run setup c ms = some c' →
    c'.desk.deeds.count .resetDone = c.desk.deeds.count .resetDone →
    c'.desk.resetWanted = true ∧ handed c'.desk.deeds ≤ handed c.desk.deeds + most

/-- What is promised of resets in a run from `d` to `c` in which `w` was done. -/
structure ResetsKept (setup : Setup) (d : Desk) (ms : List Move) (c : Config) (w : List Deed) :
    Prop where
  /-- Every reset that was asked for while none was wanted was made, or is wanted still. -/
  balance : freshAsks (Worker.trail setup (Worker.initial d) ms) + d.resetWanted.toNat =
    w.count .resetDone + c.desk.resetWanted.toNat
  course : ∀ before after, w = before ++ .resetBegan :: after →
    ∃ v, ResetCourse setup.wired v ∧ (v <+: after ∨ after <+: v)
  done : ∀ before after, w = before ++ .resetDone :: after →
    ∃ v, .resetBegan :: v <:+ before ∧ ResetCourse setup.wired (v ++ [.resetDone])
  spared : setup.wired = true → .sent resetFrame.bytes ∉ w
  busy : ∀ m c', Worker.step? setup c m = some c' →
    c'.desk.deeds.count .resetBegan ≠ c.desk.deeds.count .resetBegan → BeginsBusy c.desk c'.desk
  /-- One event may still be taken, and only where the worker has already looked for a reset. -/
  pending : c.desk.resetWanted = true → Awaits setup c c.point.isReceiving.toNat
  collapsed : ∀ j message c', c.point = .session (.request .chipReset j) →
    Worker.step? setup c (.reply (.crash message)) = some c' → Awaits setup c' 0

/-! ## The course of a reset -/

/-- The worker goes through a reset from here on. -/
def Undergoes (wired : Bool) (_before after : List Deed) : Prop :=
  ∃ v, ResetCourse wired v ∧ v <+: after

/-- The worker has gone through a reset up to here. -/
def Underwent (wired : Bool) (before _after : List Deed) : Prop :=
  ∃ v, .resetBegan :: v <:+ before ∧ ResetCourse wired (v ++ [.resetDone])

/-- Resets take their course. -/
structure ResetCourses (wired : Bool) (w : List Deed) : Prop where
  began : Placed .resetBegan (Undergoes wired) w
  done : Placed .resetDone (Underwent wired) w
  spared : wired = true → .sent resetFrame.bytes ∉ w

theorem undergoes_extends (wired : Bool) : Extends (Undergoes wired) := by
  rintro before after b a ⟨v, hv, hprefix⟩
  exact ⟨v, hv, hprefix.trans (List.prefix_append after a)⟩

theorem underwent_extends (wired : Bool) : Extends (Underwent wired) := by
  rintro before after b a ⟨v, hsuffix, hv⟩
  exact ⟨v, hsuffix.trans (List.suffix_append b before), hv⟩

theorem Event.command_mem (e : Event) :
    e.frame.command ∈ [Command.sendKeyboardGeneral.code, Command.sendMouseAbsolute.code,
      Command.sendMouseRelative.code] := by
  cases e with
  | key k down => cases down <;> simp [frame, keyboardReport]
  | button b down => cases down <;> simp [frame, relativeReport]
  | move x y => simp [frame, absoluteReport]
  | relative dx dy => simp [frame, relativeReport]
  | wheel dx dy => simp [frame, relativeReport]

theorem Frame.bytes_ne {f g : Frame} (h : f.command ≠ g.command) : f.bytes ≠ g.bytes := by
  intro heq
  -- The command stands in the fourth byte.
  have hfourth := congrArg (·[3]?) heq
  simp [bytes, body, frameHeader] at hfourth
  exact h hfourth

theorem getInfo_ne_reset : getInfoFrame.bytes ≠ resetFrame.bytes := by
  simp [bytes_getInfoFrame, bytes_resetFrame]

/-- What an event sends is sent for nothing else. -/
theorem Event.bytes_ne (e : Event) {f : Frame}
    (hf : f.command ∉ [Command.sendKeyboardGeneral.code, Command.sendMouseAbsolute.code,
      Command.sendMouseRelative.code]) :
    e.frame.bytes ≠ f.bytes := by
  refine Frame.bytes_ne ?_
  intro heq
  exact hf (heq ▸ e.command_mem)

theorem Purpose.request_ne_reset {p : Purpose} (h : p ≠ .chipReset) :
    p.request ≠ resetFrame.bytes := by
  cases p with
  | chipReset => exact absurd rfl h
  | entry | idle => exact getInfo_ne_reset
  | event e => exact e.bytes_ne (by decide)

section Courses

variable {wired : Bool} {attempts : Nat} {p : Purpose} {v w : List Deed}

theorem ResetCourses.append (hv : ResetCourses wired v) (hw : ResetCourses wired w) :
    ResetCourses wired (v ++ w) where
  began := hv.began.append (undergoes_extends wired) hw.began
  done := hv.done.append (underwent_extends wired) hw.done
  spared := by
    intro hwired hmem
    exact (List.mem_append.mp hmem).elim (hv.spared hwired) (hw.spared hwired)

/-- Where nothing is done about resets, they take their course. -/
theorem ResetCourses.of_notMem (hbegan : .resetBegan ∉ w) (hdone : .resetDone ∉ w)
    (hspared : wired = true → .sent resetFrame.bytes ∉ w) : ResetCourses wired w :=
  ⟨.of_notMem hbegan, .of_notMem hdone, hspared⟩

/-- A request that is over changes nothing about resets, unless it is for one. -/
theorem Attempts.resetCourses (h : Attempts p w) (hp : p ≠ .chipReset) : ResetCourses wired w := by
  refine .of_notMem (h.notMem (by simp) (by simp)) (h.notMem (by simp) (by simp)) ?_
  intro _ hx
  rcases h.mem hx with hx | hx | hx
  · cases hx
  · exact Purpose.request_ne_reset hp (Deed.sent.inj hx).symm
  · exact getInfo_ne_reset (Deed.sent.inj hx).symm

/-- A course follows its beginning, and that is all there is. -/
theorem ResetCourse.resetCourses (h : ResetCourse wired v) :
    ResetCourses wired (.resetBegan :: v) := by
  have hbegun {w : List Deed} (hw : Attempts .chipReset w) : .resetBegan ∉ w :=
    hw.notMem (by simp) (by simp)
  have hdone {w : List Deed} (hw : Attempts .chipReset w) : .resetDone ∉ w :=
    hw.notMem (by simp) (by simp)
  have hbegan (hv : .resetBegan ∉ v) : Placed .resetBegan (Undergoes wired) (.resetBegan :: v) :=
    Placed.single (v := []) (by simp) hv ⟨v, h, List.prefix_refl v⟩
  cases h with
  | line =>
    refine ⟨hbegan (by simp), ?_, by simp⟩
    exact Placed.single (v := [.resetBegan, .pulsed]) (by simp) (by simp)
      ⟨[.pulsed], List.suffix_refl _, .line⟩
  | @chip w hw ok =>
    refine ⟨hbegan (by simp [hbegun hw]), ?_, by simp⟩
    have hlast := Placed.single (v := .resetBegan :: (w ++ [.returned .chipReset ok])) (w := [])
      (x := .resetDone) (F := Underwent false) (by simp [hdone hw]) (by simp)
      ⟨w ++ [.returned .chipReset ok], List.suffix_refl _, by simpa using ResetCourse.chip hw ok⟩
    simpa using hlast
  | @collapsed w hw message =>
    exact ⟨hbegan (by simp [hbegun hw]), .of_notMem (by simp [hdone hw]), by simp⟩

/-- Deeds at the end that have nothing to do with requests or resets. -/
theorem ResetCourses.ended (hv : ResetCourses wired v)
    (hw : ∀ x ∈ w, x ≠ .resetBegan ∧ x ≠ .resetDone ∧ ∀ r, x ≠ .sent r) :
    ResetCourses wired (v ++ w) := by
  refine hv.append (.of_notMem (fun h => ?_) (fun h => ?_) fun _ h => ?_)
  · exact (hw _ h).1 rfl
  · exact (hw _ h).2.1 rfl
  · exact (hw _ h).2.2 _ rfl

theorem Served.resetCourses (h : Served wired w) : ResetCourses wired w := by
  induction h with
  | entry hw ok => exact (hw.resetCourses (by simp)).ended (by simp)
  | done hs hp hw ih | failed hs hp hw ih =>
    exact (ih.append (hw.resetCourses (Purpose.ne_chipReset_of_isWork hp))).ended (by simp)
  | lineReset hs hwired ih =>
    subst hwired
    exact ih.append ResetCourse.line.resetCourses
  | chipReset hs hwired hw ok ih =>
    subst hwired
    simpa using ih.append (ResetCourse.chip hw ok).resetCourses

theorem resetCourses_arrival (n : Nat) : ResetCourses wired (arrival n) :=
  .of_notMem (by simp [arrival]) (by simp [arrival]) (by simp [arrival])

theorem resetCourses_entered (n : Nat) : ResetCourses wired (entered n) :=
  (resetCourses_arrival n).ended (by simp)

theorem Pass.resetCourses (h : Pass wired attempts w) : ResetCourses wired w := by
  cases h with
  | absent hn => exact resetCourses_arrival _
  | unopened hn e => exact (resetCourses_arrival _).ended (by simp)
  | left hn hs => exact ((resetCourses_entered _).append hs.resetCourses).ended (by simp)
  | vanished hn hs hp hw =>
    have hrequest : ResetCourses wired _ := hw.resetCourses (Purpose.ne_chipReset_of_isWork hp)
    exact (((resetCourses_entered _).append hs.resetCourses).append hrequest).ended (by simp)
  | @collapsed n s w p hn hs hw message =>
    cases hs with
    | entry =>
      simpa using ((resetCourses_entered n).append (hw.resetCourses (by simp))).ended
        (w := [.closed, .fault (.crash message)]) (by simp)
    | work hs hp =>
      have hrequest : ResetCourses wired _ := hw.resetCourses (Purpose.ne_chipReset_of_isWork hp)
      exact (((resetCourses_entered n).append hs.resetCourses).append hrequest).ended (by simp)
    | chipReset hs hwired =>
      subst hwired
      have hcourse := (ResetCourse.collapsed hw message).resetCourses
      simpa using ((resetCourses_entered n).append hs.resetCourses).append hcourse

theorem resetCourses_passes {passes : List (List Deed)}
    (h : ∀ v ∈ passes, Pass wired attempts v) : ResetCourses wired passes.flatten where
  began := .flatten (undergoes_extends wired) fun v hv => (h v hv).resetCourses.began
  done := .flatten (underwent_extends wired) fun v hv => (h v hv).resetCourses.done
  spared := by
    intro hwired hmem
    obtain ⟨v, hv, hsent⟩ := List.mem_flatten.mp hmem
    exact (h v hv).resetCourses.spared hwired hsent

end Courses

/-! ## One step -/

namespace Worker

variable {setup : Setup} {d : Desk} {p : Point} {m : Move} {c c' : Config}

/-- What a step does about resets. -/
inductive Handling (d : Desk) : Point → Move → Config → Prop where
  /-- A reset is asked for, and none was wanted. -/
  | asked (p : Point) (d' : Desk) (hclear : d.resetWanted = false)
      (hwanted : d'.resetWanted = true) (hdeeds : d'.deeds = d.deeds) :
      Handling d p (.outside .askReset) ⟨d', p⟩
  /-- The reset that is wanted begins. -/
  | begun (c' : Config) (hwanted : d.resetWanted = true) (hstill : c'.desk.resetWanted = true)
      (hpoint : c'.point.isReceiving = false) (hbusy : BeginsBusy d c'.desk)
      (hdone : c'.desk.deeds.count .resetDone = d.deeds.count .resetDone)
      (hhanded : handed c'.desk.deeds = handed d.deeds) :
      Handling d (.session .resetCheck) .proceed c'
  /-- The reset is over. -/
  | ended (d' : Desk) (hclear : d'.resetWanted = false)
      (hdeeds : d'.deeds = d.deeds ++ [.resetDone]) :
      Handling d (.session .resetEnd) .proceed ⟨d', .session .receiving⟩
  /-- Nothing is done about resets; as long as one is wanted, an event is only taken by a worker
  that was about to take it. -/
  | other (p : Point) (m : Move) (c' : Config) (hfresh : asksAnew (⟨d, p⟩, m) = false)
      (hsame : c'.desk.resetWanted = d.resetWanted)
      (hbegan : c'.desk.deeds.count .resetBegan = d.deeds.count .resetBegan)
      (hdone : c'.desk.deeds.count .resetDone = d.deeds.count .resetDone)
      (hpoint : c'.point.isResetting = true → p.isResetting = true)
      (hhanded : d.resetWanted = true →
        handed c'.desk.deeds + c'.point.isReceiving.toNat ≤
          handed d.deeds + p.isReceiving.toNat) :
      Handling d p m c'

theorem Handling.act (a : Act) : Handling d p (.outside a) ⟨d.act a, p⟩ := by
  have hother (hfresh : asksAnew (⟨d, p⟩, .outside a) = false)
      (hsame : (d.act a).resetWanted = d.resetWanted) :
      Handling d p (.outside a) ⟨d.act a, p⟩ :=
    .other _ _ _ hfresh hsame (by simp) (by simp) id (by simp)
  cases a with
  | askReset =>
    cases hwanted : d.resetWanted with
    | false => exact .asked p _ hwanted (by simp [Desk.act, hwanted]) (d.deeds_act .askReset)
    | true => exact hother (by simp [asksAnew, hwanted]) (by simp [Desk.act, hwanted])
  | queue e => exact hother rfl (by simp [Desk.act, apply_ite Desk.resetWanted])
  | _ => exact hother rfl rfl

/-- What is done has nothing to do with resets and events, and the worker does not come to take
one. -/
theorem Handling.quiet {w : List Deed} (hfresh : asksAnew (⟨d, p⟩, m) = false)
    (hsame : c'.desk.resetWanted = d.resetWanted) (hdeeds : c'.desk.deeds = d.deeds ++ w)
    (hquiet : ∀ x ∈ w, x ≠ .resetBegan ∧ x ≠ .resetDone ∧ x.isHanding = false)
    (hresetting : c'.point.isResetting = true → p.isResetting = true)
    (hreceiving : c'.point.isReceiving = false) : Handling d p m c' := by
  have hbegan : .resetBegan ∉ w := fun h => (hquiet _ h).1 rfl
  have hdone : .resetDone ∉ w := fun h => (hquiet _ h).2.1 rfl
  have hhanded : handed w = 0 := by
    rw [handed, List.countP_eq_zero]
    intro x hx
    simp [(hquiet x hx).2.2]
  refine .other _ _ _ hfresh hsame ?_ ?_ hresetting ?_
  · rw [hdeeds, List.count_append, List.count_eq_zero_of_not_mem hbegan, Nat.add_zero]
  · rw [hdeeds, List.count_append, List.count_eq_zero_of_not_mem hdone, Nat.add_zero]
  · intro _
    rw [handed] at hhanded
    rw [handed, hdeeds, List.countP_append, hhanded, hreceiving]
    exact Nat.le_add_right _ _

theorem Handling.follow {q : Purpose} {j : Job} {i : Job.Input} {pd : Progress × Desk}
    (hturn : Job.Turn setup.settings j d i pd)
    (hfresh : asksAnew (⟨d, .session (.request q j)⟩, m) = false) :
    Handling d (.session (.request q j)) m (follow q pd) := by
  obtain ⟨-, hsame, -, -⟩ := hturn.frame
  rcases pd with ⟨progress, d'⟩
  rcases hturn.deeds with ⟨j', rfl, -, hdeeds | ⟨r, -, hdeeds⟩⟩ | ⟨ok, rfl, hdeeds⟩
  · refine .quiet hfresh hsame (hdeeds.trans (List.append_nil _).symm) (by simp) ?_ rfl
    cases q <;> simp [Worker.follow, Point.isResetting]
  · refine .quiet hfresh hsame hdeeds (by simp [Deed.isHanding]) ?_ rfl
    cases q <;> simp [Worker.follow, Point.isResetting]
  · have hreturned : (d'.record (.returned q ok d'.state)).deeds = d.deeds ++ [.returned q ok] := by
      simp [hdeeds, Entry.deed?]
    refine .quiet hfresh hsame hreturned (by simp [Deed.isHanding]) ?_ ?_ <;>
      cases q <;> cases ok <;>
      simp [Worker.follow, afterRequest, Point.isResetting, Point.isReceiving]

/-- Every step does one of these things about resets. -/
theorem Transition.handling (h : Transition setup d p m c') : Handling d p m c' := by
  cases h with
  | others p a => exact .act a
  | requestWent q j pd hturn => exact .follow hturn rfl
  | requestAnswered q j a pd hturn => exact .follow hturn rfl
  | resetEnded => exact .ended _ rfl (Desk.deeds_record _ .resetDone)
  | lineReset hwanted hwired =>
    refine .begun _ hwanted hwanted rfl ⟨rfl, [.pulsed (d.state.setBusy true)], rfl, ?_⟩ ?_ ?_
    · simp [Entry.shows, Entry.shown?, Entry.request?]
    · simp [Entry.deed?]
    · simp [Entry.deed?, handed, Deed.isHanding]
  | chipReset hwanted hwired =>
    refine .begun _ hwanted hwanted rfl
      ⟨rfl, [.began .chipReset, .notice .chipReset], rfl, ?_⟩ ?_ ?_
    · simp [Entry.shows, Entry.shown?, Entry.request?]
    · simp [Entry.deed?]
    · simp [Entry.deed?, handed, Deed.isHanding]
  | noReset hwanted =>
    refine .other _ _ _ rfl rfl rfl rfl (by simp [Point.isResetting]) ?_
    intro hstill
    exact absurd (hwanted.symm.trans hstill) (by decide)
  | received e es hqueue =>
    have hdeeds : (begin setup (.event e) { d with queue := es }).desk.deeds =
        d.deeds ++ [.began (.event e)] := deeds_begin setup (.event e) _
    refine .other _ _ _ rfl rfl ?_ ?_ (by simp [begin, Point.isResetting]) ?_
    · rw [hdeeds]
      simp
    · rw [hdeeds]
      simp
    · rw [hdeeds]
      simp [handed, Deed.isHanding, begin, Point.isReceiving]
  | initialPulsed hit | linePulsed hit =>
    refine .quiet (w := []) rfl ?_ (by simp) (by simp) (by simp [Point.isResetting]) rfl
    cases hit <;> rfl
  | queueClosed hqueue hclosed =>
    refine .quiet rfl rfl (deeds_queueClosed d) (by simp [Deed.isHanding]) ?_ rfl
    simp [leave, Point.isResetting]
  | waited left | headed =>
    refine .quiet (w := []) rfl rfl (List.append_nil _).symm (by simp) ?_ ?_ <;>
      cases d.stop <;> simp [Point.isResetting, Point.isReceiving]
  | flushed | emptied =>
    refine .other _ _ _ rfl (by simp) ?_ ?_ ?_ ?_ <;>
      simp [Point.isResetting, Point.isReceiving, handed]
  | _ =>
    refine .other _ _ _ rfl rfl ?_ ?_ ?_ ?_ <;>
      simp [Point.isResetting, Point.isReceiving, handed, Deed.isHanding, Entry.deed?, begin, leave]

/-! ## Runs -/

/-- What is counted and what is marked agree, and a reset that is under way is still wanted. -/
structure Tallied (d : Desk) (steps : List (Config × Move)) (c : Config) : Prop where
  balance : freshAsks steps + d.resetWanted.toNat + d.deeds.count .resetDone =
    c.desk.deeds.count .resetDone + c.desk.resetWanted.toNat
  underway : c.point.isResetting = true → c.desk.resetWanted = true

theorem freshAsks_concat (steps : List (Config × Move)) (s : Config × Move) :
    freshAsks (steps ++ [s]) = freshAsks steps + (asksAnew s).toNat := by
  cases h : asksAnew s <;> simp [freshAsks, h]

theorem Tallied.step {steps : List (Config × Move)} (h : Tallied d steps c)
    (hstep : Transition setup c.desk c.point m c') : Tallied d (steps ++ [(c, m)]) c' := by
  obtain ⟨d₁, p₁⟩ := c
  obtain ⟨hbalance, hunderway⟩ := h
  have hhandling : Handling d₁ p₁ m c' := hstep.handling
  cases hhandling with
  | asked p d' hclear hwanted hdeeds =>
    refine ⟨?_, fun _ => hwanted⟩
    rw [freshAsks_concat, hdeeds, hwanted]
    simp [asksAnew, hclear] at hbalance ⊢
    omega
  | begun c' hwanted hstill hpoint hbusy hdone hhanded =>
    refine ⟨?_, fun _ => hstill⟩
    rw [freshAsks_concat, hdone, hstill]
    simpa [asksAnew, hwanted] using hbalance
  | ended d' hclear hdeeds =>
    have hwanted : d₁.resetWanted = true := hunderway rfl
    refine ⟨?_, by simp [Point.isResetting]⟩
    rw [freshAsks_concat, hdeeds, hclear]
    simp [asksAnew, hwanted] at hbalance ⊢
    omega
  | other p m c' hfresh hsame hbegan hdone hpoint hhanded =>
    refine ⟨?_, fun hresetting => hsame.trans (hunderway (hpoint hresetting))⟩
    rw [freshAsks_concat, hfresh, hdone, hsame]
    exact hbalance

theorem tallied_of_run {ms : List Move} (hrun : run setup (initial d) ms = some c) :
    Tallied d (trail setup (initial d) ms) c := by
  refine run_induction ⟨?_, by simp [initial, Point.isResetting]⟩ ?_ hrun
  · simp [freshAsks, initial, Nat.add_comm]
  · intro steps m c c' _ h hstep
    exact h.step hstep

/-- Between two moments no reset was done, one is wanted all the time, and no more than so many
events were taken, or may be at once. -/
def Waits (c c' : Config) : Prop :=
  c.desk.deeds.count .resetDone ≤ c'.desk.deeds.count .resetDone ∧
    (c'.desk.deeds.count .resetDone = c.desk.deeds.count .resetDone →
      c'.desk.resetWanted = true ∧ handed c'.desk.deeds + c'.point.isReceiving.toNat ≤
        handed c.desk.deeds + c.point.isReceiving.toNat)

theorem Waits.step {c₀ : Config} (h : Waits c₀ c) (hstep : Transition setup c.desk c.point m c') :
    Waits c₀ c' := by
  obtain ⟨d₁, p₁⟩ := c
  obtain ⟨hgrows, hwaits⟩ := h
  have hhandling : Handling d₁ p₁ m c' := hstep.handling
  cases hhandling with
  | asked p d' hclear hwanted hdeeds =>
    refine ⟨hdeeds ▸ hgrows, fun hnone => ?_⟩
    obtain ⟨hstill, -⟩ := hwaits (hdeeds ▸ hnone)
    exact absurd (hclear.symm.trans hstill) (by decide)
  | begun c' hwanted hstill hpoint hbusy hdone hhanded =>
    refine ⟨hdone ▸ hgrows, fun hnone => ⟨hstill, ?_⟩⟩
    obtain ⟨-, hmost⟩ := hwaits (hdone ▸ hnone)
    rw [hhanded, hpoint]
    exact hmost
  | ended d' hclear hdeeds =>
    have hcount : d'.deeds.count .resetDone = d₁.deeds.count .resetDone + 1 := by simp [hdeeds]
    refine ⟨?_, fun hnone => ?_⟩
    · exact hcount ▸ Nat.le_succ_of_le hgrows
    · exact absurd (hcount.symm.trans hnone) (Nat.ne_of_gt (Nat.lt_succ_of_le hgrows))
  | other p m c' hfresh hsame hbegan hdone hpoint hhanded =>
    refine ⟨hdone ▸ hgrows, fun hnone => ?_⟩
    obtain ⟨hwanted, hmost⟩ := hwaits (hdone ▸ hnone)
    exact ⟨hsame.trans hwanted, Nat.le_trans (hhanded hwanted) hmost⟩

theorem awaits_of_wanted (hwanted : c.desk.resetWanted = true) :
    Awaits setup c c.point.isReceiving.toNat := by
  intro ms c' hrun hnone
  have hwaits : Waits c c' := by
    refine run_induction (P := fun _ c' => Waits c c') ?_ ?_ hrun
    · exact ⟨Nat.le_refl _, fun _ => ⟨hwanted, Nat.le_refl _⟩⟩
    · intro _ m c₁ c₂ _ h hstep
      exact h.step hstep
  obtain ⟨hstill, hmost⟩ := hwaits.2 hnone
  exact ⟨hstill, Nat.le_of_add_right_le hmost⟩

theorem beginsBusy_of_step? (hstep : step? setup c m = some c')
    (hbegan : c'.desk.deeds.count .resetBegan ≠ c.desk.deeds.count .resetBegan) :
    BeginsBusy c.desk c'.desk := by
  obtain ⟨d₁, p₁⟩ := c
  have hhandling : Handling d₁ p₁ m c' := (transition_of_step? hstep).handling
  cases hhandling with
  | asked p d' hclear hwanted hdeeds => exact absurd (congrArg _ hdeeds) hbegan
  | begun c' hwanted hstill hpoint hbusy hdone hhanded => exact hbusy
  | ended d' hclear hdeeds => exact absurd (by simp [hdeeds]) hbegan
  | other p m c' hfresh hsame hbegan' hdone hpoint hhanded => exact absurd hbegan' hbegan

end Worker

/-- **Resets are neither lost nor repeated.** After every run of the worker, whoever asks for resets
and whenever, there are as many requests that found none pending as there are resets done, and one
more if a reset is pending. Each reset takes its course; it begins with the chip published as busy,
and until it is done at most one event is taken that comes after the request. A reset in which the
connection collapses stays pending, and no event is taken before it is made again. -/
theorem Worker.resets_kept (setup : Setup) (d : Desk) (ms : List Move) (c : Config)
    (hrun : run setup (initial d) ms = some c) :
    ∃ w, c.desk.deeds = d.deeds ++ w ∧ ResetsKept setup d ms c w := by
  obtain ⟨w, rest, passes, hdeeds, hpasses, hpass⟩ := completed_of_run hrun
  obtain ⟨hbegan, hdone, hspared⟩ := hpasses ▸ resetCourses_passes hpass
  obtain ⟨hbalance, hunderway⟩ := tallied_of_run hrun
  refine ⟨w, hdeeds, ?_, ?_, ?_, ?_, ?_, awaits_of_wanted, ?_⟩
  · rw [hdeeds, List.count_append] at hbalance
    omega
  · rintro before after rfl
    obtain ⟨v, hv, hprefix⟩ := hbegan before (after ++ rest) (by simp)
    exact ⟨v, hv, List.prefix_or_prefix_of_prefix hprefix (List.prefix_append after rest)⟩
  · rintro before after rfl
    exact hdone before (after ++ rest) (by simp)
  · intro hwired hmem
    exact hspared hwired (List.mem_append_left _ hmem)
  · intro m c' hstep hnew
    exact beginsBusy_of_step? hstep hnew
  · intro j message c' hpoint hstep
    have hwanted : c.desk.resetWanted = true := hunderway (by simp [hpoint, Point.isResetting])
    have hcrash : Transition setup c.desk (.session (.request .chipReset j))
        (.reply (.crash message)) c' := hpoint ▸ transition_of_step? hstep
    cases hcrash
    exact awaits_of_wanted hwanted

namespace Worker

/-- The connection collapses in the chip's own reset, and in the next session the chip refuses it
before an event comes. -/
def collapsedReset : List Move :=
  [.proceed, .proceed, .pulse .done, .presence true, .opened none, .proceed,
    .reply (.answer (.ok [0x57, 0xAB, 0x00, 0x81, 0x03, 0x30, 0x01, 0x05, 0xBC])),
    .outside .askReset, .proceed, .proceed, .proceed, .reply (.crash none), .outside .askReset,
    .proceed, .proceed, .proceed, .proceed, .pulse .done, .presence true, .opened none, .proceed,
    .reply (.answer (.ok [0x57, 0xAB, 0x00, 0x81, 0x03, 0x30, 0x01, 0x05, 0xBC])),
    .outside (.queue (.wheel 0 1)), .proceed, .proceed, .proceed,
    .reply (.answer (.error (.invalidRequest "no"))), .proceed, .proceed]

example :
    (run ⟨{}, false, 1⟩ (initial .initial) collapsedReset).map (·.desk.deeds.drop 6) =
      some [.resetBegan, .began .chipReset, .sent resetFrame.bytes, .closed, .fault (.crash none),
        .pulsed, .looked true, .opened true, .began .entry, .sent getInfoFrame.bytes,
        .returned .entry true, .resetBegan, .began .chipReset, .sent resetFrame.bytes,
        .returned .chipReset false, .resetDone, .began (.event (.wheel 0 1))] := by
  decide

theorem resets_kept_collapsed :
    ∃ c, run ⟨{}, false, 1⟩ (initial .initial) collapsedReset = some c ∧
    ∃ w, c.desk.deeds = Desk.initial.deeds ++ w ∧
      ResetsKept ⟨{}, false, 1⟩ .initial collapsedReset c w := by
  obtain ⟨c, hrun⟩ : ∃ c, run ⟨{}, false, 1⟩ (initial .initial) collapsedReset = some c :=
    Option.isSome_iff_exists.mp (by decide)
  exact ⟨c, hrun, resets_kept ⟨{}, false, 1⟩ .initial collapsedReset c hrun⟩

end Worker

end SerialHid
