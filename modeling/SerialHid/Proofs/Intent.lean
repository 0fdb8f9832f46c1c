/-
SerialHid.Proofs.Intent — which intents of a host look alike on the wire.

* `Intent` — what a host asks for, by its own names and numbers; `Intent.event` checks them.
* `Key.code_inj`, `Button.eq_of_bytes`, `Event.toNat_relativeByte`, `Event.toNat_wheelByte`,
  `Event.coordinateBytes_inj` — what each byte of a report tells, and what it leaves out.
* `Alike : Intent → Intent → Prop` — the intents that look alike, said of names and numbers.
* `Intent.frames_shared` — two intents have one frame exactly if they are alike.

Keys and places have reports of their own, so there is nothing to tell them apart from. The other
three kinds share one report of four bytes, and are compared pair by pair.
-/
import Mathlib.Data.List.Nodup
import SerialHid.Proofs.Codec
import SerialHid.Proofs.Event

namespace SerialHid

/-! ## Intents -/

/-- What a host asks for. -/
inductive Intent where
  | key (name : String) (pressed : Bool)
  | button (name : String) (pressed : Bool)
  | move (x y : Int)
  | relative (dx dy : Int)
  | wheel (dx dy : Int)
  deriving DecidableEq, Repr

namespace Intent

/-- The event, if the names and numbers are accepted. -/
def event : Intent → Except EventError Event
  | key name pressed => Event.ofKey name pressed
  | button name pressed => Event.ofButton name pressed
  | move x y => Event.ofMove x y
  | relative dx dy => Event.ofRelative dx dy
  | wheel dx dy => Event.ofWheel dx dy

/-- The command by which the event is sent. -/
def command : Intent → Command
  | key .. => .sendKeyboardGeneral
  | button .. => .sendMouseRelative
  | move .. => .sendMouseAbsolute
  | relative .. => .sendMouseRelative
  | wheel .. => .sendMouseRelative

/-- The intents that ask for no button, no step and no turn that the report could carry. -/
inductive IsIdle : Intent → Prop where
  | released (name : String) : IsIdle (button name false)
  | farthest : IsIdle (relative (-127) (-127))
  | turned {dx dy : Int} (hy : dy = -127 ∨ dy = -126) : IsIdle (wheel dx dy)

end Intent

/-- The intents that look alike. -/
inductive Alike : Intent → Intent → Prop where
  | keyPressed (name : String) : Alike (.key name true) (.key name true)
  | keyReleased (name name' : String) : Alike (.key name false) (.key name' false)
  | move {x y x' y' : Int} (hx : Pointer.toDevice x = Pointer.toDevice x')
      (hy : Pointer.toDevice y = Pointer.toDevice y') : Alike (.move x y) (.move x' y')
  | buttonPressed (name : String) : Alike (.button name true) (.button name true)
  | relative (dx dy : Int) : Alike (.relative dx dy) (.relative dx dy)
  /-- Half of the turn is lost to rounding, and all of its horizontal part. -/
  | wheel {dx dy dx' dy' : Int} (hy : (dy + 127) / 2 = (dy' + 127) / 2) :
      Alike (.wheel dx dy) (.wheel dx' dy')
  /-- The button is a turn of the wheel by one notch. -/
  | up {dx dy : Int} (hy : dy = -125 ∨ dy = -124) : Alike (.button "up" true) (.wheel dx dy)
  | turned {dx dy : Int} (hy : dy = -125 ∨ dy = -124) : Alike (.wheel dx dy) (.button "up" true)
  | idle {a b : Intent} (ha : a.IsIdle) (hb : b.IsIdle) : Alike a b

theorem Alike.symm {a b : Intent} (h : Alike a b) : Alike b a := by
  cases h with
  | keyPressed name => exact .keyPressed name
  | keyReleased name name' => exact .keyReleased name' name
  | move hx hy => exact .move hx.symm hy.symm
  | buttonPressed name => exact .buttonPressed name
  | relative dx dy => exact .relative dx dy
  | wheel hy => exact .wheel hy.symm
  | up hy => exact .turned hy
  | turned hy => exact .up hy
  | idle ha hb => exact .idle hb ha

/-! ## Bytes -/

namespace Key

theorem code_inj {k k' : Key} : k.code = k'.code ↔ k = k' := by
  have hnodup : (all.map code).Nodup := by decide +kernel
  exact ⟨fun h => List.inj_on_of_nodup_map hnodup k.mem_all k'.mem_all h, fun h => h ▸ rfl⟩

/-- Code zero is left for no key. -/
theorem code_ne_zero (k : Key) : k.code ≠ 0 := by
  have hall : ∀ k ∈ all, k.code ≠ 0 := by decide +kernel
  exact hall k k.mem_all

end Key

namespace Button

variable {b b' : Button}

theorem eq_of_bytes (hbuttons : b.buttonsByte = b'.buttonsByte)
    (hwheel : b.wheelByte = b'.wheelByte) : b = b' := by
  cases b <;> cases b' <;> first | rfl | simp [buttonsByte, wheelByte] at hbuttons hwheel

/-- A button that is no bit of the buttons byte is a notch of the wheel, one way or the other. -/
theorem wheelByte_of_buttonsByte (h : b.buttonsByte = 0) :
    b = up ∧ b.wheelByte = 0x01 ∨ b = down ∧ b.wheelByte = 0x81 := by
  cases b <;> simp [buttonsByte, wheelByte] at h ⊢

theorem wheelByte_ne_zero (h : b.buttonsByte = 0) : b.wheelByte ≠ 0 := by
  rcases wheelByte_of_buttonsByte h with ⟨-, hwheel⟩ | ⟨-, hwheel⟩ <;> rw [hwheel] <;> decide

end Button

namespace Event

variable {d d' : Int8}

theorem toNat_relativeByte (d : Int8) :
    ((relativeByte d).toNat : Int) = max d.toInt (-127) + 127 := by
  have hhigh := d.toInt_lt
  have hsmall :
      (min (max (d.toInt + Pointer.deltaLimit) 0) (2 * Pointer.deltaLimit)).toNat < 256 := by
    simp only [Pointer.deltaLimit]
    omega
  rw [relativeByte, UInt8.toNat_ofNat_of_lt' hsmall]
  simp only [Pointer.deltaLimit]
  omega

theorem toNat_wheelByte (d : Int8) :
    ((wheelByte d).toNat : Int) = (max d.toInt (-127) + 127) / 2 := by
  have hhigh := d.toInt_lt
  have hsmall : (max (d.toInt + Pointer.deltaLimit) 0).toNat / 2 < 256 := by
    simp only [Pointer.deltaLimit]
    omega
  rw [wheelByte, UInt8.toNat_ofNat_of_lt' hsmall]
  simp only [Pointer.deltaLimit]
  omega

theorem relativeByte_inj (hd : -127 ≤ d.toInt) (hd' : -127 ≤ d'.toInt) :
    relativeByte d = relativeByte d' ↔ d.toInt = d'.toInt := by
  have h := toNat_relativeByte d
  have h' := toNat_relativeByte d'
  rw [← UInt8.toNat_inj]
  omega

theorem relativeByte_eq_zero (hd : -127 ≤ d.toInt) : relativeByte d = 0 ↔ d.toInt = -127 := by
  have h := toNat_relativeByte d
  rw [← UInt8.toNat_inj, UInt8.toNat_zero]
  omega

theorem wheelByte_inj (hd : -127 ≤ d.toInt) (hd' : -127 ≤ d'.toInt) :
    wheelByte d = wheelByte d' ↔ (d.toInt + 127) / 2 = (d'.toInt + 127) / 2 := by
  have h := toNat_wheelByte d
  have h' := toNat_wheelByte d'
  rw [← UInt8.toNat_inj]
  omega

theorem wheelByte_eq_iff (hd : -127 ≤ d.toInt) (b : UInt8) :
    wheelByte d = b ↔ (d.toInt + 127) / 2 = b.toNat := by
  have h := toNat_wheelByte d
  rw [← UInt8.toNat_inj]
  omega

/-- Two bytes are enough for a coordinate of the device. -/
theorem coordinateBytes_inj {m n : Nat} (hm : m < 65536) (hn : n < 65536) :
    coordinateBytes m = coordinateBytes n ↔ m = n := by
  constructor
  · intro h
    obtain ⟨hlow, hhigh⟩ : UInt8.ofNat m = UInt8.ofNat n ∧
        UInt8.ofNat (m / 256) = UInt8.ofNat (n / 256) := by
      simpa [coordinateBytes] using h
    rw [← UInt8.toNat_inj, UInt8.toNat_ofNat', UInt8.toNat_ofNat'] at hlow hhigh
    omega
  · rintro rfl
    rfl

theorem toDevice_lt (v : Int) : Pointer.toDevice v < 65536 := by
  simp only [Pointer.toDevice, Pointer.deviceMax]
  omega

/-! ## Reports -/

theorem keyboardReport_inj {code code' : UInt8} :
    keyboardReport code = keyboardReport code' ↔ code = code' := by
  simp [keyboardReport]

theorem relativeReport_inj {b x y w b' x' y' w' : UInt8} :
    relativeReport b x y w = relativeReport b' x' y' w' ↔ b = b' ∧ x = x' ∧ y = y' ∧ w = w' := by
  simp [relativeReport]

theorem absoluteReport_inj {x y x' y' : Int} :
    absoluteReport (Pointer.toDevice x) (Pointer.toDevice y) =
        absoluteReport (Pointer.toDevice x') (Pointer.toDevice y') ↔
      Pointer.toDevice x = Pointer.toDevice x' ∧ Pointer.toDevice y = Pointer.toDevice y' := by
  rw [← coordinateBytes_inj (toDevice_lt x) (toDevice_lt x'),
    ← coordinateBytes_inj (toDevice_lt y) (toDevice_lt y')]
  simp [absoluteReport, coordinateBytes, and_assoc]

end Event

/-! ## Intents that look alike -/

section Alike

open Event

variable {a b : Intent} {e e' : Event} {name name' : String} {pressed pressed' : Bool}
  {dx dy dx' dy' x y x' y' : Int}

theorem frame_of_isIdle (ha : a.event = .ok e) (hidle : a.IsIdle) :
    e.frame = mouseReleaseFrame := by
  cases hidle with
  | released name =>
    obtain ⟨b, -, rfl⟩ := ofButton_eq_ok_iff.mp ha
    rfl
  | farthest =>
    obtain ⟨d, d', ⟨hd, hlow⟩, ⟨hd', -⟩, rfl⟩ := ofRelative_eq_ok_iff.mp ha
    rw [frame, (relativeByte_eq_zero (hd ▸ hlow)).mpr hd,
      (relativeByte_eq_zero (hd' ▸ hlow)).mpr hd']
    rfl
  | turned hy =>
    obtain ⟨d, d', -, ⟨rfl, hlow⟩, rfl⟩ := ofWheel_eq_ok_iff.mp ha
    rw [frame, (wheelByte_eq_iff hlow 0).mpr (by rw [UInt8.toNat_zero]; omega)]
    rfl

/-- The upper button and the turns that look like it. -/
theorem frame_of_up (ha : Event.ofButton "up" true = .ok e) : e.frame = relativeReport 0 0 0 1 := by
  have hup : Event.ofButton "up" true = .ok (.button .up true) := rfl
  obtain rfl := Except.ok.inj (hup.symm.trans ha)
  rfl

theorem frame_of_notch (hy : dy = -125 ∨ dy = -124) (ha : Event.ofWheel dx dy = .ok e) :
    e.frame = relativeReport 0 0 0 1 := by
  obtain ⟨d, d', -, ⟨rfl, hlow⟩, rfl⟩ := ofWheel_eq_ok_iff.mp ha
  rw [frame, (wheelByte_eq_iff hlow 1).mpr (by rw [UInt8.toNat_one]; omega)]

theorem frame_eq_of_alike (ha : a.event = .ok e) (hb : b.event = .ok e') (h : Alike a b) :
    e.frame = e'.frame := by
  cases h with
  | keyPressed | buttonPressed | relative => rw [Except.ok.inj (ha.symm.trans hb)]
  | keyReleased name name' =>
    obtain ⟨k, -, rfl⟩ := ofKey_eq_ok_iff.mp ha
    obtain ⟨k', -, rfl⟩ := ofKey_eq_ok_iff.mp hb
    rfl
  | move hx hy =>
    obtain ⟨c, d, rfl, rfl, rfl⟩ := ofMove_eq_ok_iff.mp ha
    obtain ⟨c', d', rfl, rfl, rfl⟩ := ofMove_eq_ok_iff.mp hb
    exact absoluteReport_inj.mpr ⟨hx, hy⟩
  | wheel hy =>
    obtain ⟨c, d, -, ⟨rfl, hd⟩, rfl⟩ := ofWheel_eq_ok_iff.mp ha
    obtain ⟨c', d', -, ⟨rfl, hd'⟩, rfl⟩ := ofWheel_eq_ok_iff.mp hb
    exact relativeReport_inj.mpr ⟨rfl, rfl, rfl, (wheelByte_inj hd hd').mpr hy⟩
  | up hy => rw [frame_of_up ha, frame_of_notch hy hb]
  | turned hy => rw [frame_of_up hb, frame_of_notch hy ha]
  | idle hidle hidle' => rw [frame_of_isIdle ha hidle, frame_of_isIdle hb hidle']

/-! ### Two intents of one kind -/

theorem alike_keys (ha : Event.ofKey name pressed = .ok e)
    (hb : Event.ofKey name' pressed' = .ok e')
    (h : e.frame = e'.frame) : Alike (.key name pressed) (.key name' pressed') := by
  obtain ⟨k, rfl, rfl⟩ := ofKey_eq_ok_iff.mp ha
  obtain ⟨k', rfl, rfl⟩ := ofKey_eq_ok_iff.mp hb
  cases pressed with
  | false =>
    cases pressed' with
    | false => exact .keyReleased k.name k'.name
    | true => exact absurd (keyboardReport_inj.mp h).symm k'.code_ne_zero
  | true =>
    cases pressed' with
    | false => exact absurd (keyboardReport_inj.mp h) k.code_ne_zero
    | true =>
      obtain rfl := Key.code_inj.mp (keyboardReport_inj.mp h)
      exact .keyPressed k.name

theorem alike_moves (ha : Event.ofMove x y = .ok e) (hb : Event.ofMove x' y' = .ok e')
    (h : e.frame = e'.frame) : Alike (.move x y) (.move x' y') := by
  obtain ⟨c, d, rfl, rfl, rfl⟩ := ofMove_eq_ok_iff.mp ha
  obtain ⟨c', d', rfl, rfl, rfl⟩ := ofMove_eq_ok_iff.mp hb
  obtain ⟨hx, hy⟩ := absoluteReport_inj.mp h
  exact .move hx hy

/-- A button that is down is seen. -/
theorem frame_button_ne (b : Button) : (Event.button b true).frame ≠ mouseReleaseFrame := by
  intro h
  obtain ⟨hbuttons, -, -, hwheel⟩ := relativeReport_inj.mp h
  exact Button.wheelByte_ne_zero hbuttons hwheel

theorem alike_buttons (ha : Event.ofButton name pressed = .ok e)
    (hb : Event.ofButton name' pressed' = .ok e') (h : e.frame = e'.frame) :
    Alike (.button name pressed) (.button name' pressed') := by
  obtain ⟨b, rfl, rfl⟩ := ofButton_eq_ok_iff.mp ha
  obtain ⟨b', rfl, rfl⟩ := ofButton_eq_ok_iff.mp hb
  cases pressed with
  | false =>
    cases pressed' with
    | false => exact .idle (.released b.name) (.released b'.name)
    | true => exact absurd h.symm (frame_button_ne b')
  | true =>
    cases pressed' with
    | false => exact absurd h (frame_button_ne b)
    | true =>
      obtain ⟨hbuttons, -, -, hwheel⟩ := relativeReport_inj.mp h
      obtain rfl := Button.eq_of_bytes hbuttons hwheel
      exact .buttonPressed b.name

theorem alike_relatives (ha : Event.ofRelative dx dy = .ok e)
    (hb : Event.ofRelative dx' dy' = .ok e') (h : e.frame = e'.frame) :
    Alike (.relative dx dy) (.relative dx' dy') := by
  obtain ⟨c, d, ⟨rfl, hc⟩, ⟨rfl, hd⟩, rfl⟩ := ofRelative_eq_ok_iff.mp ha
  obtain ⟨c', d', ⟨rfl, hc'⟩, ⟨rfl, hd'⟩, rfl⟩ := ofRelative_eq_ok_iff.mp hb
  obtain ⟨-, hx, hy, -⟩ := relativeReport_inj.mp h
  rw [(relativeByte_inj hc hc').mp hx, (relativeByte_inj hd hd').mp hy]
  exact .relative c'.toInt d'.toInt

theorem alike_wheels (ha : Event.ofWheel dx dy = .ok e) (hb : Event.ofWheel dx' dy' = .ok e')
    (h : e.frame = e'.frame) : Alike (.wheel dx dy) (.wheel dx' dy') := by
  obtain ⟨c, d, -, ⟨rfl, hd⟩, rfl⟩ := ofWheel_eq_ok_iff.mp ha
  obtain ⟨c', d', -, ⟨rfl, hd'⟩, rfl⟩ := ofWheel_eq_ok_iff.mp hb
  obtain ⟨-, -, -, hwheel⟩ := relativeReport_inj.mp h
  exact .wheel ((wheelByte_inj hd hd').mp hwheel)

/-! ### Two kinds that share a report -/

/-- A step of the pointer fills two bytes that a button leaves at zero. -/
theorem alike_button_relative (ha : Event.ofButton name pressed = .ok e)
    (hb : Event.ofRelative dx dy = .ok e') (h : e.frame = e'.frame) :
    Alike (.button name pressed) (.relative dx dy) := by
  obtain ⟨b, rfl, rfl⟩ := ofButton_eq_ok_iff.mp ha
  obtain ⟨c, d, ⟨rfl, hc⟩, ⟨rfl, hd⟩, rfl⟩ := ofRelative_eq_ok_iff.mp hb
  cases pressed with
  | false =>
    obtain ⟨-, hx, hy, -⟩ := relativeReport_inj.mp h
    rw [(relativeByte_eq_zero hc).mp hx.symm, (relativeByte_eq_zero hd).mp hy.symm]
    exact .idle (.released b.name) .farthest
  | true =>
    obtain ⟨hbuttons, -, -, hwheel⟩ := relativeReport_inj.mp h
    exact absurd hwheel (Button.wheelByte_ne_zero hbuttons)

/-- A turn upwards fills the wheel byte up to `7F`, and the two notches are `01` and `81`. -/
theorem alike_button_wheel (ha : Event.ofButton name pressed = .ok e)
    (hb : Event.ofWheel dx dy = .ok e') (h : e.frame = e'.frame) :
    Alike (.button name pressed) (.wheel dx dy) := by
  obtain ⟨b, rfl, rfl⟩ := ofButton_eq_ok_iff.mp ha
  obtain ⟨c, d, -, ⟨rfl, hd⟩, rfl⟩ := ofWheel_eq_ok_iff.mp hb
  have hhigh := d.toInt_lt
  cases pressed with
  | false =>
    obtain ⟨-, -, -, hwheel⟩ := relativeReport_inj.mp h
    have hzero := (wheelByte_eq_iff hd 0).mp hwheel.symm
    rw [UInt8.toNat_zero] at hzero
    exact .idle (.released b.name) (.turned (by omega))
  | true =>
    obtain ⟨hbuttons, -, -, hwheel⟩ := relativeReport_inj.mp h
    have hnotch := (wheelByte_eq_iff hd b.wheelByte).mp hwheel.symm
    rcases Button.wheelByte_of_buttonsByte hbuttons with ⟨rfl, hbyte⟩ | ⟨rfl, hbyte⟩
    · simp only [hbyte, UInt8.reduceToNat] at hnotch
      exact .up (by omega)
    · simp only [hbyte, UInt8.reduceToNat] at hnotch
      omega

theorem alike_relative_wheel (ha : Event.ofRelative dx dy = .ok e)
    (hb : Event.ofWheel dx' dy' = .ok e') (h : e.frame = e'.frame) :
    Alike (.relative dx dy) (.wheel dx' dy') := by
  obtain ⟨c, d, ⟨rfl, hc⟩, ⟨rfl, hd⟩, rfl⟩ := ofRelative_eq_ok_iff.mp ha
  obtain ⟨c', d', -, ⟨rfl, hd'⟩, rfl⟩ := ofWheel_eq_ok_iff.mp hb
  obtain ⟨-, hx, hy, hwheel⟩ := relativeReport_inj.mp h
  have hzero := (wheelByte_eq_iff hd' 0).mp hwheel.symm
  rw [UInt8.toNat_zero] at hzero
  rw [(relativeByte_eq_zero hc).mp hx, (relativeByte_eq_zero hd).mp hy]
  exact .idle .farthest (.turned (by omega))

/-! ### All intents -/

theorem command_frame (ha : a.event = .ok e) : e.frame.command = a.command.code := by
  cases a with
  | key name pressed =>
    obtain ⟨k, -, rfl⟩ := ofKey_eq_ok_iff.mp ha
    cases pressed <;> rfl
  | button name pressed =>
    obtain ⟨b, -, rfl⟩ := ofButton_eq_ok_iff.mp ha
    cases pressed <;> rfl
  | move x y =>
    obtain ⟨c, d, -, -, rfl⟩ := ofMove_eq_ok_iff.mp ha
    rfl
  | relative dx dy =>
    obtain ⟨c, d, -, -, rfl⟩ := ofRelative_eq_ok_iff.mp ha
    rfl
  | wheel dx dy =>
    obtain ⟨c, d, -, -, rfl⟩ := ofWheel_eq_ok_iff.mp ha
    rfl

theorem alike_of_frame_eq (ha : a.event = .ok e) (hb : b.event = .ok e')
    (h : e.frame = e'.frame) : Alike a b := by
  -- Kinds that are sent by different commands have nothing in common.
  have hcommand : a.command.code = b.command.code := by
    rw [← command_frame ha, ← command_frame hb, h]
  cases a with
  | key name pressed =>
    cases b with
    | key name' pressed' => exact alike_keys ha hb h
    | _ => exact absurd hcommand (by simp [Intent.command, Command.code])
  | move x y =>
    cases b with
    | move x' y' => exact alike_moves ha hb h
    | _ => exact absurd hcommand (by simp [Intent.command, Command.code])
  | button name pressed =>
    cases b with
    | button name' pressed' => exact alike_buttons ha hb h
    | relative dx' dy' => exact alike_button_relative ha hb h
    | wheel dx' dy' => exact alike_button_wheel ha hb h
    | _ => exact absurd hcommand (by simp [Intent.command, Command.code])
  | relative dx dy =>
    cases b with
    | button name' pressed' => exact (alike_button_relative hb ha h.symm).symm
    | relative dx' dy' => exact alike_relatives ha hb h
    | wheel dx' dy' => exact alike_relative_wheel ha hb h
    | _ => exact absurd hcommand (by simp [Intent.command, Command.code])
  | wheel dx dy =>
    cases b with
    | button name' pressed' => exact (alike_button_wheel hb ha h.symm).symm
    | relative dx' dy' => exact (alike_relative_wheel hb ha h.symm).symm
    | wheel dx' dy' => exact alike_wheels ha hb h
    | _ => exact absurd hcommand (by simp [Intent.command, Command.code])

theorem bytes_eq_iff_alike (ha : a.event = .ok e) (hb : b.event = .ok e') :
    e.frame.bytes = e'.frame.bytes ↔ Alike a b :=
  Frame.bytes_inj.trans ⟨alike_of_frame_eq ha hb, frame_eq_of_alike ha hb⟩

end Alike

/-- **Which intents share a frame.** Two intents that are accepted are sent as the same bytes
exactly if they are alike. In particular a key that is pressed is told from every key that is
released, and from every key of another name. -/
theorem Intent.frames_shared :
    (∀ a b e e', event a = .ok e → event b = .ok e' →
      (e.frame.bytes = e'.frame.bytes ↔ Alike a b)) ∧
    (∀ name name' e e', Event.ofKey name true = .ok e → Event.ofKey name' false = .ok e' →
      e.frame.bytes ≠ e'.frame.bytes) ∧
    ∀ name name' e e', name ≠ name' → Event.ofKey name true = .ok e →
      Event.ofKey name' true = .ok e' → e.frame.bytes ≠ e'.frame.bytes := by
  refine ⟨fun a b e e' => bytes_eq_iff_alike, ?_, ?_⟩
  · intro name name' e e' ha hb hbytes
    have halike := (bytes_eq_iff_alike (a := key name true) (b := key name' false) ha hb).mp hbytes
    cases halike with
    | idle hidle => cases hidle
  · intro name name' e e' hne ha hb hbytes
    have halike := (bytes_eq_iff_alike (a := key name true) (b := key name' true) ha hb).mp hbytes
    cases halike with
    | keyPressed => exact hne rfl
    | idle hidle => cases hidle

/-- The upper button and a turn that looks like it, and a key that looks like no other. -/
theorem Intent.frames_shared_up :
    event (button "up" true) = .ok (.button .up true) ∧
    event (wheel 90 (-124)) = .ok (.wheel 90 (-124)) ∧
    ((Event.button .up true).frame.bytes = (Event.wheel 90 (-124)).frame.bytes ↔
      Alike (button "up" true) (wheel 90 (-124))) ∧
    Event.ofKey "KeyA" true = .ok (.key .keyA true) ∧
    Event.ofKey "KeyB" false = .ok (.key .keyB false) ∧
    (Event.key .keyA true).frame.bytes ≠ (Event.key .keyB false).frame.bytes ∧
    "KeyA" ≠ "KeyB" ∧ Event.ofKey "KeyB" true = .ok (.key .keyB true) ∧
    (Event.key .keyA true).frame.bytes ≠ (Event.key .keyB true).frame.bytes := by
  obtain ⟨hshared, hreleased, hnamed⟩ := frames_shared
  have hup : event (button "up" true) = .ok (.button .up true) := rfl
  have hturned : event (wheel 90 (-124)) = .ok (.wheel 90 (-124)) := by decide
  have hpressed : Event.ofKey "KeyA" true = .ok (.key .keyA true) := by decide
  have hrelease : Event.ofKey "KeyB" false = .ok (.key .keyB false) := by decide
  have hother : Event.ofKey "KeyB" true = .ok (.key .keyB true) := by decide
  have hnames : "KeyA" ≠ "KeyB" := by decide
  exact ⟨hup, hturned, hshared _ _ _ _ hup hturned, hpressed, hrelease,
    hreleased _ _ _ _ hpressed hrelease, hnames, hother, hnamed _ _ _ _ hnames hpressed hother⟩

end SerialHid
