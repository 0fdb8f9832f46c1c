/-
SerialHid.Proofs.Sent — what the worker sends.

* `Sendable` — the question for the status, the reset of the chip, and the frames of events;
  `Sendable.wellFormed` says that all of it is frames, and passes the check that a connection makes.
* `AskedFor` — bytes go out only for a request that the worker turned to before;
  `Pass.askedFor` finds it in every pass.
* `Worker.sendable_of_run` — a run that begins between two passes sends nothing but what is sendable
  for the events that are handed over in it; by `Worker.handedOver_subset_of_run` those were queued.
-/
import SerialHid.Proofs.Codec
import SerialHid.Proofs.Delivery
import SerialHid.Proofs.Lifecycle

namespace SerialHid

/-! ## What can be sent -/

/-- What the worker sends, if these are the events that it can have been given. -/
inductive Sendable (events : List Event) : List UInt8 → Prop where
  | status : Sendable events [0x57, 0xAB, 0x00, 0x01, 0x00, 0x03]
  | reset : Sendable events [0x57, 0xAB, 0x00, 0x0F, 0x00, 0x11]
  | event {e : Event} (he : e ∈ events) : Sendable events e.frame.bytes

/-- A connection takes these bytes for a request, and they are one. -/
structure WellFormed (r : List UInt8) : Prop where
  parses : ∃ f, Frame.parse r = .ok f
  passes : checkRequest r = .ok ()

theorem checkRequest_bytes (f : Frame) : checkRequest f.bytes = .ok () := by
  have hlong : minFrameSize ≤ f.bytes.length := by
    rw [f.length_bytes]
    exact Nat.le_add_left ..
  exact if_pos ⟨hlong, rfl⟩

theorem Frame.wellFormed_bytes (f : Frame) : WellFormed f.bytes where
  parses := ⟨f, f.parse_bytes⟩
  passes := checkRequest_bytes f

theorem Purpose.exists_frame (q : Purpose) : ∃ f : Frame, q.request = f.bytes := by
  cases q <;> exact ⟨_, rfl⟩

section Sendable

variable {events events' : List Event} {r : List UInt8}

theorem Sendable.getInfo : Sendable events getInfoFrame.bytes := bytes_getInfoFrame ▸ .status

theorem Sendable.chipReset : Sendable events resetFrame.bytes := bytes_resetFrame ▸ .reset

theorem Sendable.wellFormed (h : Sendable events r) : WellFormed r := by
  cases h with
  | status => exact bytes_getInfoFrame ▸ getInfoFrame.wellFormed_bytes
  | reset => exact bytes_resetFrame ▸ resetFrame.wellFormed_bytes
  | @event e he => exact e.frame.wellFormed_bytes

theorem Sendable.mono (h : Sendable events r) (hsub : ∀ e ∈ events, e ∈ events') :
    Sendable events' r := by
  cases h with
  | status => exact .status
  | reset => exact .reset
  | event he => exact .event (hsub _ he)

end Sendable

/-! ## What is sent -/

/-- What goes out is the question for the status, or belongs to a request that the worker turned to
before. -/
def AskedFor (r : List UInt8) (before _after : List Deed) : Prop :=
  r = getInfoFrame.bytes ∨ ∃ p, .began p ∈ before ∧ r = p.request

section AskedFor

variable {wired : Bool} {attempts : Nat} {p : Purpose} {r : List UInt8} {w : List Deed}

theorem askedFor_extends (r : List UInt8) : Extends (AskedFor r) := by
  rintro before after b a (hinfo | ⟨p, hbegan, hr⟩)
  · exact .inl hinfo
  · exact .inr ⟨p, List.mem_append_right b hbegan, hr⟩

theorem Attempts.began_mem (h : Attempts p w) : .began p ∈ w := by
  induction h with
  | began => simp
  | sent hw hr ih => exact List.mem_append_left _ ih

theorem Attempts.askedFor (h : Attempts p w) : Placed (.sent r) (AskedFor r) w := by
  induction h with
  | began => exact .of_notMem (by simp)
  | @sent w r' hw hr ih =>
    intro before after hsplit
    -- It is the last thing that was sent, or an earlier one.
    rcases List.eq_nil_or_concat after with rfl | ⟨rest, x, rfl⟩
    · obtain ⟨rfl, hlast⟩ := List.append_inj' hsplit rfl
      obtain rfl : r' = r := by simpa using hlast
      exact hr.elim (fun hown => .inr ⟨p, hw.began_mem, hown⟩) .inl
    · have hinit : w ++ [.sent r'] = (before ++ .sent r :: rest) ++ [x] := by simpa using hsplit
      exact ih before rest (List.append_inj_left' hinit rfl)

theorem Served.askedFor (h : Served wired w) : Placed (.sent r) (AskedFor r) w := by
  have hextends := askedFor_extends r
  induction h with
  | entry hw ok => exact hw.askedFor.append hextends (.of_notMem (by simp))
  | done hs hp hw ih | failed hs hp hw ih =>
    exact (ih.append hextends hw.askedFor).append hextends (.of_notMem (by simp))
  | lineReset hs hwired ih => exact ih.append hextends (.of_notMem (by simp))
  | chipReset hs hwired hw ok ih =>
    have hbegan := ih.append hextends (.of_notMem (by simp) : Placed _ _ [.resetBegan])
    exact (hbegan.append hextends hw.askedFor).append hextends (.of_notMem (by simp))

theorem Lead.askedFor (h : Lead wired p w) : Placed (.sent r) (AskedFor r) w := by
  cases h with
  | entry => exact .of_notMem (by simp)
  | chipReset hs hwired => exact hs.askedFor.append (askedFor_extends r) (.of_notMem (by simp))
  | work hs hp => exact hs.askedFor

theorem Pass.askedFor (h : Pass wired attempts w) : Placed (.sent r) (AskedFor r) w := by
  have hextends := askedFor_extends r
  have harrival (n : Nat) : Placed (.sent r) (AskedFor r) (arrival n) :=
    .of_notMem (by simp [arrival])
  have hentered (n : Nat) : Placed (.sent r) (AskedFor r) (entered n) :=
    .of_notMem (by simp [entered, arrival])
  cases h with
  | absent hn => exact harrival _
  | unopened hn e => exact (harrival _).append hextends (.of_notMem (by simp))
  | left hn hs =>
    exact ((hentered _).append hextends hs.askedFor).append hextends (.of_notMem (by simp))
  | vanished hn hs hp hw =>
    refine Placed.append hextends ?_ (.of_notMem (by simp))
    exact ((hentered _).append hextends hs.askedFor).append hextends hw.askedFor
  | collapsed hn hs hw message =>
    refine Placed.append hextends ?_ (.of_notMem (by simp))
    exact ((hentered _).append hextends hs.askedFor).append hextends hw.askedFor

end AskedFor

theorem Entry.eq_began_of_deed {x : Entry} {q : Purpose} (h : x.deed? = some (.began q)) :
    x = .began q := by
  cases x with
  | notice n => cases n <;> cases h
  | began q' => simpa [Entry.deed?] using h
  | _ => cases h

namespace Worker

variable {setup : Setup} {d : Desk} {p : Point} {m : Move} {c c' c₀ : Config}

theorem InPasses.askedFor {r : List UInt8} {w : List Deed} (h : InPasses setup w p) :
    Placed (.sent r) (AskedFor r) w := by
  obtain ⟨passes, current, rfl, hpasses, hstands⟩ := h
  -- The last pass may be unfinished; what it lacks would come after everything that was sent.
  obtain ⟨rest, hlast⟩ := hstands.begins_pass
  have hwhole : Placed (.sent r) (AskedFor r) (passes.flatten ++ (current ++ rest)) :=
    (Placed.flatten (askedFor_extends r) fun v hv => (hpasses v hv).askedFor).append
      (askedFor_extends r) hlast.askedFor
  intro before after hsplit
  exact hwhole before (after ++ rest) (by rw [← List.append_assoc, hsplit]; simp)

theorem mem_handedOver {journal : List Entry} {e : Event} (h : .began (.event e) ∈ journal) :
    e ∈ handedOver journal :=
  List.mem_filterMap.mpr ⟨_, List.mem_reverse.mpr h, rfl⟩

/-- In a run that begins between two passes, what is sent is sendable for the events that are handed
over in it. -/
theorem sendable_of_run {ms : List Move} {journal : List Entry} (hidle : c₀.point.isIdle = true)
    (hrun : run setup c₀ ms = some c) (hjournal : c.desk.journal = journal ++ c₀.desk.journal)
    {r : List UInt8} {probe : Bool} {s : DeviceState} (hsent : .sent r probe s ∈ journal) :
    Sendable (handedOver journal) r := by
  obtain ⟨w, hdeeds, hw⟩ := (InPasses.idle hidle).of_run hrun
  obtain rfl : w = journal.reverse.filterMap Entry.deed? := by
    refine List.append_cancel_left (hdeeds.symm.trans ?_)
    simp [Desk.deeds, hjournal]
  have hmem : .sent r ∈ journal.reverse.filterMap Entry.deed? :=
    List.mem_filterMap.mpr ⟨_, List.mem_reverse.mpr hsent, rfl⟩
  obtain ⟨before, after, hsplit⟩ := List.append_of_mem hmem
  rcases hw.askedFor before after hsplit with rfl | ⟨q, hbegan, rfl⟩
  · exact .getInfo
  · cases q with
    | entry | idle => exact .getInfo
    | chipReset => exact .chipReset
    | event e =>
      -- The request of an event begins where the event is handed over.
      have hdeed : .began (.event e) ∈ journal.reverse.filterMap Entry.deed? := by
        rw [hsplit]
        exact List.mem_append_left _ hbegan
      obtain ⟨x, hx, hxdeed⟩ := List.mem_filterMap.mp hdeed
      obtain rfl : x = .began (.event e) := Entry.eq_began_of_deed hxdeed
      exact .event (mem_handedOver (List.mem_reverse.mp hx))

/-- Every event that is handed over waited at first, or came since. -/
theorem handedOver_subset_of_run {ms : List Move} {journal : List Entry}
    (hrun : run setup c₀ ms = some c) (hjournal : c.desk.journal = journal ++ c₀.desk.journal) :
    ∀ e ∈ handedOver journal, e ∈ c₀.desk.queue ++ arrivals journal := by
  obtain ⟨journal', hjournal', hconveyed⟩ := conveyed_of_run hrun
  obtain rfl : journal = journal' := List.append_cancel_right (hjournal.symm.trans hjournal')
  exact fun e he => hconveyed.subset (List.mem_append_left _ he)

end Worker

end SerialHid
