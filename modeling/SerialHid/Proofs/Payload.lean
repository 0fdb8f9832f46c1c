/-
SerialHid.Proofs.Payload — the numbers of a host reach the wire whole, or not at all.

* `Event.MovePayload`, `Event.StepPayload`, `Event.TurnPayload` — what a payload says of the two
  numbers that a host passed in, byte by byte and without the functions that write it.
* `Event.Conveys` — of two numbers both are sent, or the first bad one is named.
* `Event.ReportShape` — the commands and payloads that an event can have.
* `Event.frameWord?` — the frame of an event, made with machine words of which none may overflow.
* `Event.numbers_reach_wire` — that all of this holds, also of events that no host could make.
-/
import SerialHid.Proofs.Intent
import SerialHid.Proofs.Pointer

namespace SerialHid

namespace Event

/-! ## Payloads -/

/-- The payload of a move to a place: its column and its row, the low byte first. -/
inductive MovePayload (x y : Int) : List UInt8 → Prop where
  | mk {xlow xhigh ylow yhigh : UInt8}
      (hx : (xlow.toNat + 256 * xhigh.toNat : Int) = min (max (Pointer.ideal x) 0) 4095)
      (hy : (ylow.toNat + 256 * yhigh.toNat : Int) = min (max (Pointer.ideal y) 0) 4095) :
      MovePayload x y [2, 0, xlow, xhigh, ylow, yhigh, 0]

/-- The payload of a step. -/
inductive StepPayload (x y : Int) : List UInt8 → Prop where
  | mk {dx dy : UInt8} (hx : (dx.toNat : Int) = x + 127) (hy : (dy.toNat : Int) = y + 127) :
      StepPayload x y [1, 0, dx, dy, 0]

/-- The payload of a turn of the wheel. Nothing is said of the horizontal step. -/
inductive TurnPayload (x y : Int) : List UInt8 → Prop where
  | mk {turn : UInt8} (hy : (turn.toNat : Int) = ⌊(y + 127 : ℚ) / 2⌋) :
      TurnPayload x y [1, 0, 0, 0, turn]

/-- What becomes of two numbers from which an event is made. -/
structure Conveys (make : Int → Int → Except EventError Event) (first second : Parameter)
    (min max : Int) (Payload : Int → Int → List UInt8 → Prop) : Prop where
  accepted (x y : Int) :
    (∃ e, make x y = .ok e) ↔ (min ≤ x ∧ x ≤ max) ∧ min ≤ y ∧ y ≤ max
  refused (x y : Int) (e : EventError) :
    make x y = .error e ↔ FirstOutside first second min max x y e
  carried (x y : Int) (e : Event) : make x y = .ok e → Payload x y e.frame.payload

/-- The commands of events and the payloads that go with them. -/
inductive ReportShape : UInt8 → List UInt8 → Prop where
  | keyboard {payload : List UInt8} (h : payload.length = 8) : ReportShape 0x02 payload
  /-- Seven bytes, and no place outside the device. -/
  | absolute {xlow xhigh ylow yhigh : UInt8} (hx : xlow.toNat + 256 * xhigh.toNat ≤ 4095)
      (hy : ylow.toNat + 256 * yhigh.toNat ≤ 4095) :
      ReportShape 0x04 [2, 0, xlow, xhigh, ylow, yhigh, 0]
  | relative {payload : List UInt8} (h : payload.length = 5) : ReportShape 0x05 payload

/-! ## Two numbers -/

section Pair

variable {make : Int → Int → Except EventError Event} {first second : Parameter}
  {min max x y : Int}

/-- What is not refused is accepted. -/
theorem exists_ok_iff
    (hrefused : ∀ e, make x y = .error e ↔ FirstOutside first second min max x y e) :
    (∃ e, make x y = .ok e) ↔ (min ≤ x ∧ x ≤ max) ∧ min ≤ y ∧ y ≤ max := by
  constructor
  · rintro ⟨e, he⟩
    have hnone : ∀ e', ¬ FirstOutside first second min max x y e' := by
      intro e' hout
      cases he.symm.trans ((hrefused e').mpr hout)
    by_cases hx : min ≤ x ∧ x ≤ max
    · by_cases hy : min ≤ y ∧ y ≤ max
      · exact ⟨hx, hy⟩
      · exact absurd (.second hx hy) (hnone _)
    · exact absurd (.first hx) (hnone _)
  · rintro ⟨hx, hy⟩
    cases hmake : make x y with
    | ok e => exact ⟨e, rfl⟩
    | error e =>
      cases (hrefused e).mp hmake with
      | first hout => exact absurd hx hout
      | second _ hout => exact absurd hy hout

end Pair

/-! ## The bytes of a payload -/

theorem toNat_coordinateBytes {n : Nat} (hn : n < 65536) :
    ∃ low high, coordinateBytes n = [low, high] ∧ low.toNat + 256 * high.toNat = n := by
  refine ⟨_, _, rfl, ?_⟩
  rw [UInt8.toNat_ofNat', UInt8.toNat_ofNat']
  omega

theorem payload_absoluteReport {m n : Nat} (hm : m < 65536) (hn : n < 65536) :
    ∃ xlow xhigh ylow yhigh : UInt8,
      (absoluteReport m n).payload = [2, 0, xlow, xhigh, ylow, yhigh, 0] ∧
        xlow.toNat + 256 * xhigh.toNat = m ∧ ylow.toNat + 256 * yhigh.toNat = n := by
  obtain ⟨xlow, xhigh, hbytes, hx⟩ := toNat_coordinateBytes hm
  obtain ⟨ylow, yhigh, hbytes', hy⟩ := toNat_coordinateBytes hn
  refine ⟨xlow, xhigh, ylow, yhigh, ?_, hx, hy⟩
  simp [absoluteReport, hbytes, hbytes', absoluteMode]

theorem movePayload_frame (a b : Int16) :
    MovePayload a.toInt b.toInt (move a b).frame.payload := by
  obtain ⟨xlow, xhigh, ylow, yhigh, hpayload, hx, hy⟩ :=
    payload_absoluteReport (toDevice_lt a.toInt) (toDevice_lt b.toInt)
  rw [frame, hpayload]
  refine .mk ?_ ?_
  · rw [← Pointer.toDevice_eq, ← hx]
    push_cast
    rfl
  · rw [← Pointer.toDevice_eq, ← hy]
    push_cast
    rfl

theorem stepPayload_frame {a b : Int8} (ha : -127 ≤ a.toInt) (hb : -127 ≤ b.toInt) :
    StepPayload a.toInt b.toInt (relative a b).frame.payload := by
  refine .mk ?_ ?_
  · rw [toNat_relativeByte, max_eq_left ha]
  · rw [toNat_relativeByte, max_eq_left hb]

theorem turnPayload_frame (x : Int) (a : Int8) {b : Int8} (hb : -127 ≤ b.toInt) :
    TurnPayload x b.toInt (wheel a b).frame.payload := by
  have hfloor := Rat.floor_intCast_div_natCast (b.toInt + 127) 2
  push_cast at hfloor
  refine .mk ?_
  rw [toNat_wheelByte, max_eq_left hb, hfloor]

/-! ## The shape of a report -/

theorem reportShape_frame (e : Event) : ReportShape e.frame.command e.frame.payload := by
  cases e with
  | key k pressed => cases pressed <;> exact .keyboard rfl
  | button b pressed => cases pressed <;> exact .relative rfl
  | move x y =>
    obtain ⟨xlow, xhigh, ylow, yhigh, hpayload, hx, hy⟩ :=
      payload_absoluteReport (toDevice_lt x.toInt) (toDevice_lt y.toInt)
    rw [frame, hpayload]
    exact .absolute (hx ▸ Pointer.toDevice_le _) (hy ▸ Pointer.toDevice_le _)
  | relative dx dy => exact .relative rfl
  | wheel dx dy => exact .relative rfl

/-! ## Machine words -/

/-- The byte of a step, made with words of 32 bits and one of 8 bits without a sign. -/
def relativeByteWord? (d : Int8) : Option UInt8 := do
  let sum ← signedWord? 32 (d.toInt + Pointer.deltaLimit)
  let most ← signedWord? 32 (2 * Pointer.deltaLimit)
  let byte ← unsignedWord? 8 (min (max sum 0) most)
  return UInt8.ofNat byte

/-- The byte of a turn, made in the same way. -/
def wheelByteWord? (d : Int8) : Option UInt8 := do
  let sum ← signedWord? 32 (d.toInt + Pointer.deltaLimit)
  let half ← signedWord? 32 ((max sum 0).tdiv 2)
  let byte ← unsignedWord? 8 half
  return UInt8.ofNat byte

/-- The frame of an event, if no word overflows on the way. -/
def frameWord? : Event → Option Frame
  | .move x y => do
    return absoluteReport (← Pointer.toDeviceWord? x.toInt32) (← Pointer.toDeviceWord? y.toInt32)
  | .relative dx dy => do
    return relativeReport 0 (← relativeByteWord? dx) (← relativeByteWord? dy) 0
  | .wheel _ dy => do return relativeReport 0 0 0 (← wheelByteWord? dy)
  | .key k pressed => some (key k pressed).frame
  | .button b pressed => some (button b pressed).frame

theorem signedWord?_sum (d : Int8) :
    signedWord? 32 (d.toInt + Pointer.deltaLimit) = some (d.toInt + Pointer.deltaLimit) := by
  have hlow := d.le_toInt
  have hhigh := d.toInt_lt
  refine signedWord?_eq_some ?_ ?_ <;> simp only [Pointer.deltaLimit] <;> omega

theorem relativeByteWord?_eq (d : Int8) : relativeByteWord? d = some (relativeByte d) := by
  have hmost : signedWord? 32 (2 * Pointer.deltaLimit) = some (2 * Pointer.deltaLimit) := rfl
  have hbyte : unsignedWord? 8
        (min (max (d.toInt + Pointer.deltaLimit) 0) (2 * Pointer.deltaLimit)) =
      some (min (max (d.toInt + Pointer.deltaLimit) 0) (2 * Pointer.deltaLimit)).toNat := by
    refine unsignedWord?_eq_some ?_ ?_ <;> simp only [Pointer.deltaLimit] <;> omega
  simp only [relativeByteWord?, signedWord?_sum, hmost, hbyte, Option.bind_eq_bind, Option.bind_some]
  rfl

theorem wheelByteWord?_eq (d : Int8) : wheelByteWord? d = some (wheelByte d) := by
  have hhigh := d.toInt_lt
  have hquotient : (max (d.toInt + Pointer.deltaLimit) 0).tdiv 2 =
      (max (d.toInt + Pointer.deltaLimit) 0) / 2 := Int.tdiv_eq_ediv_of_nonneg (le_max_right ..)
  have hhalf : signedWord? 32 ((max (d.toInt + Pointer.deltaLimit) 0).tdiv 2) =
      some ((max (d.toInt + Pointer.deltaLimit) 0) / 2) := by
    rw [hquotient]
    refine signedWord?_eq_some ?_ ?_ <;> simp only [Pointer.deltaLimit] <;> omega
  have hbyte : unsignedWord? 8 ((max (d.toInt + Pointer.deltaLimit) 0) / 2) =
      some ((max (d.toInt + Pointer.deltaLimit) 0) / 2).toNat := by
    refine unsignedWord?_eq_some ?_ ?_ <;> simp only [Pointer.deltaLimit] <;> omega
  have hnat : ((max (d.toInt + Pointer.deltaLimit) 0) / 2).toNat =
      (max (d.toInt + Pointer.deltaLimit) 0).toNat / 2 := by omega
  simp only [wheelByteWord?, signedWord?_sum, hhalf, hbyte, hnat, Option.bind_eq_bind,
    Option.bind_some]
  rfl

/-- No word overflows, whatever the event. -/
theorem frameWord?_eq (e : Event) : e.frameWord? = some e.frame := by
  cases e with
  | key k pressed => rfl
  | button b pressed => rfl
  | move x y =>
    simp only [frameWord?, Pointer.toDeviceWord?_eq, Int16.toInt_toInt32, Option.bind_eq_bind,
      Option.bind_some]
    rfl
  | relative dx dy =>
    simp only [frameWord?, relativeByteWord?_eq, Option.bind_eq_bind, Option.bind_some]
    rfl
  | wheel dx dy =>
    simp only [frameWord?, wheelByteWord?_eq, Option.bind_eq_bind, Option.bind_some]
    rfl

/-! ## All numbers -/

theorem conveys_move : Conveys ofMove .toX .toY (-32768) 32767 MovePayload where
  accepted _ _ := exists_ok_iff fun _ => ofMove_eq_error_iff
  refused _ _ _ := ofMove_eq_error_iff
  carried x y e h := by
    obtain ⟨a, b, rfl, rfl, rfl⟩ := ofMove_eq_ok_iff.mp h
    exact movePayload_frame a b

theorem conveys_relative : Conveys ofRelative .deltaX .deltaY (-127) 127 StepPayload where
  accepted _ _ := exists_ok_iff fun _ => ofRelative_eq_error_iff
  refused _ _ _ := ofRelative_eq_error_iff
  carried x y e h := by
    obtain ⟨a, b, ⟨rfl, ha⟩, ⟨rfl, hb⟩, rfl⟩ := ofRelative_eq_ok_iff.mp h
    exact stepPayload_frame ha hb

theorem conveys_wheel : Conveys ofWheel .deltaX .deltaY (-127) 127 TurnPayload where
  accepted _ _ := exists_ok_iff fun _ => ofWheel_eq_error_iff
  refused _ _ _ := ofWheel_eq_error_iff
  carried x y e h := by
    obtain ⟨a, b, -, ⟨rfl, hb⟩, rfl⟩ := ofWheel_eq_ok_iff.mp h
    exact turnPayload_frame x a hb

/-- **Numbers reach the wire whole.** A place, a step or a turn is accepted exactly if both of its
numbers are within their bounds, and is sent by the bytes that say these numbers; otherwise the
first number out of bounds is named. Every event, also one that no host could have made, is sent in
the shape of its command and without an overflow, and a step of -128 like one of -127. -/
theorem numbers_reach_wire :
    Conveys ofMove .toX .toY (-32768) 32767 MovePayload ∧
    Conveys ofRelative .deltaX .deltaY (-127) 127 StepPayload ∧
    Conveys ofWheel .deltaX .deltaY (-127) 127 TurnPayload ∧
    (∀ e : Event, ReportShape e.frame.command e.frame.payload ∧ e.frameWord? = some e.frame) ∧
    ∀ d : Int8, (relative (-128) d).frame = (relative (-127) d).frame ∧
      (relative d (-128)).frame = (relative d (-127)).frame ∧
      (wheel d (-128)).frame = (wheel d (-127)).frame := by
  refine ⟨conveys_move, conveys_relative, conveys_wheel,
    fun e => ⟨reportShape_frame e, frameWord?_eq e⟩, fun d => ?_⟩
  have hstep : relativeByte (-128) = relativeByte (-127) := by decide
  have hturn : wheelByte (-128) = wheelByte (-127) := by decide
  simp only [frame, hstep, hturn, and_self]

/-- A move to the far corner, and a step that is too long. -/
theorem numbers_reach_wire_corner :
    ofMove 32767 (-32768) = .ok (.move 32767 (-32768)) ∧
    MovePayload 32767 (-32768) (move 32767 (-32768)).frame.payload ∧
    ofRelative 5 128 = .error (.invalidParameter .deltaY 128 (-127) 127) := by
  obtain ⟨hmove, hstep, -⟩ := numbers_reach_wire
  have hcorner : ofMove 32767 (-32768) = .ok (.move 32767 (-32768)) := by decide
  exact ⟨hcorner, hmove.carried _ _ _ hcorner,
    (hstep.refused _ _ _).mpr (.second (by decide) (by decide))⟩

end Event

end SerialHid
