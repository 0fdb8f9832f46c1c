/-
SerialHid.Proofs.Vanished — when the worker finds out that the device is gone.

* `LooksNext` — the device is looked for at once, and if it is missing the connection is closed.
  So it is wherever a request failed that was work (`Pass.watched`).
* `Deed.blind` — after any other request nothing makes the worker look, until work fails or the
  connection is closed.
* `Worker.vanished_work` — both of every run.
* `Worker.gone_at_entry` — the first request of a session fails because the device is gone, and
  yet an event is taken and lost.
-/
import SerialHid.Proofs.Lifecycle

namespace SerialHid

/-! ## After work that failed -/

/-- The device is looked for; if it is missing, the connection is closed. -/
def LooksNext (_before after : List Deed) : Prop :=
  [.looked true] <+: after ∨ [.looked false, .closed] <+: after

/-- So it is wherever this request failed. -/
def Watched (q : Purpose) (w : List Deed) : Prop := Placed (.returned q false) LooksNext w

section Watched

variable {wired : Bool} {attempts : Nat} {p q : Purpose} {v w : List Deed} {ok : Bool}

theorem Attempts.returned_notMem (h : Attempts p w) : .returned q ok ∉ w :=
  h.notMem (by simp) (by simp)

theorem returned_notMem_arrival (n : Nat) : .returned q ok ∉ arrival n := by simp [arrival]

theorem returned_notMem_entered (n : Nat) : .returned q ok ∉ entered n := by
  simp [entered, returned_notMem_arrival]

theorem looksNext_extends : Extends LooksNext := by
  intro before after b a h
  have hlonger : after <+: after ++ a := List.prefix_append after a
  exact h.imp (·.trans hlonger) (·.trans hlonger)

theorem Watched.append (hv : Watched q v) (hw : Watched q w) : Watched q (v ++ w) :=
  Placed.append looksNext_extends hv hw

theorem Watched.of_notMem (h : .returned q false ∉ w) : Watched q w := Placed.of_notMem h

/-- A request that failed, and what is done about it. -/
theorem Attempts.watched (h : Attempts p w) (hv : .returned q false ∉ v) (hnext : LooksNext w v) :
    Watched q (w ++ .returned p false :: v) := by
  by_cases hpq : p = q
  · subst hpq
    exact Placed.single h.returned_notMem hv hnext
  · refine .of_notMem ?_
    simp [h.returned_notMem, hv, Ne.symm hpq]

theorem Served.watched (h : Served wired w) (hq : q.isWork = true) : Watched q w := by
  have hentry : q ≠ .entry := by
    rintro rfl
    cases hq
  have hreset : q ≠ .chipReset := Purpose.ne_chipReset_of_isWork hq
  induction h with
  | entry hw ok => exact .of_notMem (by simp [hw.returned_notMem, hentry])
  | done hs hp hw ih =>
    rw [List.append_assoc]
    exact ih.append (.of_notMem (by simp [hw.returned_notMem]))
  | failed hs hp hw ih =>
    rw [List.append_assoc]
    exact ih.append (hw.watched (by simp) (.inl (List.prefix_refl _)))
  | lineReset hs hwired ih => exact ih.append (.of_notMem (by simp))
  | chipReset hs hwired hw ok ih =>
    simp only [List.append_assoc]
    exact ih.append (.of_notMem (by simp [hw.returned_notMem, hreset]))

theorem Lead.watched (h : Lead wired p w) (hq : q.isWork = true) : Watched q w := by
  cases h with
  | entry => exact .of_notMem (by simp)
  | chipReset hs hwired => exact (hs.watched hq).append (.of_notMem (by simp))
  | work hs hp => exact hs.watched hq

theorem Pass.watched (h : Pass wired attempts w) (hq : q.isWork = true) : Watched q w := by
  have hentered (n : Nat) : Watched q (entered n) := .of_notMem (returned_notMem_entered n)
  cases h with
  | absent hn => exact .of_notMem (returned_notMem_arrival _)
  | unopened hn e => exact .of_notMem (by simp [returned_notMem_arrival])
  | left hn hs =>
    exact ((hentered _).append (hs.watched hq)).append (.of_notMem (by simp))
  | vanished hn hs hp hw =>
    rw [List.append_assoc]
    exact ((hentered _).append (hs.watched hq)).append
      (hw.watched (by simp) (.inr (List.prefix_refl _)))
  | collapsed hn hs hw message =>
    rw [List.append_assoc]
    exact ((hentered _).append (hs.watched hq)).append (.of_notMem (by simp [hw.returned_notMem]))

end Watched

/-! ## After any other request -/

/-- A request that was no work is over, and since then nothing made the worker look for the device;
none where it looks nevertheless. -/
def Deed.blind (b : Bool) : Deed → Option Bool
  | .returned p ok => some (if p.isWork then b && ok else true)
  | .closed => some false
  | .looked _ => if b then none else some false
  | _ => some b

section Blind

variable {wired b : Bool} {attempts : Nat} {p : Purpose} {w : List Deed}

theorem Attempts.blind (h : Attempts p w) : track Deed.blind b w = some b := by
  induction h with
  | began => rfl
  | sent hw hr ih => simp [ih, Deed.blind]

theorem Served.blind (h : Served wired w) : ∃ b, track Deed.blind false w = some b := by
  induction h with
  | entry hw ok => exact ⟨true, by simp [hw.blind, Deed.blind, Purpose.isWork]⟩
  | done hs hp hw ih =>
    obtain ⟨b, hb⟩ := ih
    exact ⟨b, by simp [hb, hw.blind, Deed.blind, hp]⟩
  | failed hs hp hw ih =>
    obtain ⟨b, hb⟩ := ih
    exact ⟨false, by simp [hb, hw.blind, Deed.blind, hp]⟩
  | lineReset hs hwired ih =>
    obtain ⟨b, hb⟩ := ih
    exact ⟨b, by simp [hb, Deed.blind]⟩
  | chipReset hs hwired hw ok ih =>
    obtain ⟨b, hb⟩ := ih
    exact ⟨true, by simp [hb, hw.blind, Deed.blind, Purpose.isWork]⟩

theorem Lead.blind (h : Lead wired p w) : ∃ b, track Deed.blind false w = some b := by
  cases h with
  | entry => exact ⟨false, rfl⟩
  | chipReset hs hwired =>
    obtain ⟨b, hb⟩ := hs.blind
    exact ⟨b, by simp [hb, Deed.blind]⟩
  | work hs hp => exact hs.blind

theorem blind_arrival (n : Nat) : track Deed.blind false (arrival n) = some false := by
  induction n with
  | zero => rfl
  | succ n ih => simp [arrival_succ, ih, Deed.blind]

theorem blind_entered (n : Nat) : track Deed.blind false (entered n) = some false := by
  simp [entered, blind_arrival, Deed.blind]

theorem Pass.blind (h : Pass wired attempts w) : track Deed.blind false w = some false := by
  cases h with
  | absent hn => exact blind_arrival _
  | unopened hn e => simp [blind_arrival, Deed.blind]
  | left hn hs =>
    obtain ⟨b, hb⟩ := hs.blind
    simp [blind_entered, hb, Deed.blind]
  | vanished hn hs hp hw =>
    obtain ⟨b, hb⟩ := hs.blind
    simp [blind_entered, hb, hw.blind, Deed.blind, hp]
  | collapsed hn hs hw message =>
    obtain ⟨b, hb⟩ := hs.blind
    simp [blind_entered, hb, hw.blind, Deed.blind]

/-- Once it is so, it stays so until work fails, the connection is closed or the worker looks. -/
theorem blind_stays {b' : Bool} (hw : track Deed.blind true w = some b')
    (hwork : ∀ p, p.isWork = true → .returned p false ∉ w) (hclosed : .closed ∉ w) : b' = true := by
  induction w with
  | nil =>
    cases hw
    rfl
  | cons x w ih =>
    obtain ⟨b₁, hx, hrest⟩ := Option.bind_eq_some_iff.mp hw
    have hstill : b₁ = true := by
      cases x with
      | closed => exact absurd (List.mem_cons_self ..) hclosed
      | looked b => cases hx
      | returned p ok =>
        cases hp : p.isWork with
        | false => simpa [Deed.blind, hp] using hx.symm
        | true =>
          cases ok with
          | true => simpa [Deed.blind, hp] using hx.symm
          | false => exact absurd (List.mem_cons_self ..) (hwork p hp)
      | _ => exact (Option.some.inj hx).symm
    subst hstill
    exact ih hrest (fun p hp hmem => hwork p hp (List.mem_cons_of_mem _ hmem))
      fun hmem => hclosed (List.mem_cons_of_mem _ hmem)

end Blind

/-! ## Runs -/

/-- The device is looked for after work that failed, and only then. -/
structure LooksAfterWork (w : List Deed) : Prop where
  /-- If it is missing, that is found at once, and the connection is closed. -/
  work : ∀ before p after, p.isWork = true → w = before ++ .returned p false :: after →
    .looked true ∉ after → [.looked false, .closed] <+: after ∨ after <+: [.looked false, .closed]
  /-- After another request, however it ended, work must fail or the connection be closed first. -/
  other : ∀ before p ok between b after, p.isWork = false →
    w = before ++ .returned p ok :: (between ++ .looked b :: after) →
      .closed ∈ between ∨ ∃ q, q.isWork = true ∧ .returned q false ∈ between

/-- As far as a run goes, the device is looked for at once. -/
theorem looksNext_of_append {after rest : List Deed} (h : LooksNext [] (after ++ rest))
    (hgone : .looked true ∉ after) :
    [.looked false, .closed] <+: after ∨ after <+: [.looked false, .closed] := by
  have hafter : after <+: after ++ rest := List.prefix_append after rest
  rcases h with hthere | hmissing
  · -- The run ended before the device was looked for.
    cases after with
    | nil => exact .inr List.nil_prefix
    | cons x after =>
      obtain ⟨rfl, -⟩ := List.cons_prefix_cons.mp hthere
      exact absurd (List.mem_cons_self ..) hgone
  · exact List.prefix_or_prefix_of_prefix hmissing hafter

/-- **A device that is gone is found missing after work, and only then.** When an event or an idle
look at the status has failed and the device is not found any more, the next that is done is to look
for it and to close the connection: nothing is sent, and no event is taken. But after the first
request of a session and after the chip's own reset, however they ended, the device is not looked
for before such a failure or the end of the connection. -/
theorem Worker.vanished_work (setup : Setup) (d : Desk) (ms : List Move) (c : Config)
    (hrun : run setup (initial d) ms = some c) :
    ∃ w, c.desk.deeds = d.deeds ++ w ∧ LooksAfterWork w := by
  obtain ⟨w, rest, passes, hdeeds, hpasses, hpass⟩ := completed_of_run hrun
  refine ⟨w, hdeeds, ?_, ?_⟩
  · rintro before p after hp rfl hgone
    have hwatched : Watched p passes.flatten :=
      Placed.flatten looksNext_extends fun v hv => (hpass v hv).watched hp
    have hnext : LooksNext before (after ++ rest) :=
      hwatched before (after ++ rest) (by simp [← hpasses])
    exact looksNext_of_append hnext hgone
  · rintro before p ok between b after hp rfl
    by_contra hnone
    obtain ⟨hclosed, hwork⟩ := not_or.mp hnone
    have hblind := track_flatten fun v hv => (hpass v hv).blind
    rw [← hpasses, List.append_assoc] at hblind
    obtain ⟨b₁, -, hafter⟩ := exists_track_of_append hblind
    simp only [List.cons_append, track_cons, Deed.blind, hp, Bool.false_eq_true, if_false,
      Option.bind_some, List.append_assoc] at hafter
    obtain ⟨b₂, hbetween, hlook⟩ := exists_track_of_append hafter
    obtain rfl := blind_stays hbetween (fun q hq hmem => hwork ⟨q, hq, hmem⟩) hclosed
    simp [Deed.blind] at hlook

namespace Worker

/-- The first request of a session is not answered, and the device is gone from then on. -/
def goneAtEntry : List Move :=
  [.proceed, .proceed, .pulse .done, .presence true, .opened none, .proceed,
    .reply (.answer (.error (.shortRead 5 0))), .proceed, .proceed, .proceed, .proceed, .proceed,
    .reply (.answer (.error (.shortRead 5 0))), .proceed, .proceed, .presence false]

/-- The desk at which two events wait. -/
def twoWait : Desk := { Desk.initial with queue := [.wheel 0 1, .wheel 0 5] }

/-- One attempt is made at each request. -/
def hasty : Settings := { commonRetries := 1, readRetries := 1 }

theorem vanished_work_hasty :
    ∃ c, run ⟨hasty, true, 1⟩ (initial twoWait) goneAtEntry = some c ∧
    ∃ w, c.desk.deeds = twoWait.deeds ++ w ∧ LooksAfterWork w := by
  obtain ⟨c, hrun⟩ : ∃ c, run ⟨hasty, true, 1⟩ (initial twoWait) goneAtEntry = some c :=
    Option.isSome_iff_exists.mp (by decide)
  exact ⟨c, hrun, vanished_work ⟨hasty, true, 1⟩ twoWait goneAtEntry c hrun⟩

/-- The first request fails because the device is gone, and yet an event is taken and sent, and the
one behind it is thrown away; only then is the connection closed. -/
theorem gone_at_entry :
    ∃ c, run ⟨hasty, true, 1⟩ (initial twoWait) goneAtEntry = some c ∧ c.desk.queue = [] ∧
    ∃ before session after,
      c.desk.deeds = before ++ .returned .entry false :: (session ++ .closed :: after) ∧
      .looked true ∉ session ++ .closed :: after ∧ .closed ∉ session ∧
      .began (.event (.wheel 0 1)) ∈ session ∧ .sent (Event.wheel 0 1).frame.bytes ∈ session := by
  obtain ⟨c, hrun⟩ : ∃ c, run ⟨hasty, true, 1⟩ (initial twoWait) goneAtEntry = some c :=
    Option.isSome_iff_exists.mp (by decide)
  have hend : (run ⟨hasty, true, 1⟩ (initial twoWait) goneAtEntry).map
      (fun c => (c.desk.queue, c.desk.deeds)) =
    some ([], [.pulsed, .looked true, .opened true, .began .entry, .sent getInfoFrame.bytes,
      .returned .entry false, .began (.event (.wheel 0 1)), .sent (Event.wheel 0 1).frame.bytes,
      .returned (.event (.wheel 0 1)) false, .looked false, .closed]) := by
    decide
  rw [hrun] at hend
  obtain ⟨hqueue, hdeeds⟩ := Prod.mk.inj (Option.some.inj hend)
  refine ⟨c, hrun, hqueue,
    [.pulsed, .looked true, .opened true, .began .entry, .sent getInfoFrame.bytes],
    [.began (.event (.wheel 0 1)), .sent (Event.wheel 0 1).frame.bytes,
      .returned (.event (.wheel 0 1)) false, .looked false], [], hdeeds, ?_⟩
  simp

end Worker

end SerialHid
