/-
SerialHid.Proofs.Event — which names and numbers make an event, and why the others are refused.

* `Key.ofName?_eq_some_iff`, `Button.ofName?_eq_some_iff` — a name is accepted if it is the name of
  a key, or of a button, and stands for no other one.
* `Event.coordinate_eq_ok_iff`, `Event.delta_eq_ok_iff` — a number is accepted if it fits, and
  comes out unchanged.
* `FirstOutside` — of two numbers the first one that is out of its bounds is refused, by its name;
  `Event.ofMove_eq_error_iff` and the lemmas beside it.
-/
import SerialHid.Event

namespace SerialHid

/-! ## Names -/

namespace Key

theorem mem_all (k : Key) : k ∈ all := by
  cases k <;> decide

theorem ofName?_name (k : Key) : ofName? k.name = some k := by
  have hall : ∀ k ∈ all, ofName? k.name = some k := by decide +kernel
  exact hall k k.mem_all

theorem ofName?_eq_some_iff {text : String} {k : Key} :
    ofName? text = some k ↔ k.name = text := by
  constructor
  · intro h
    simpa using List.find?_some h
  · rintro rfl
    exact k.ofName?_name

theorem ofName?_eq_none_iff {text : String} : ofName? text = none ↔ ∀ k : Key, k.name ≠ text := by
  simp [Option.eq_none_iff_forall_ne_some, ofName?_eq_some_iff]

end Key

/-- The name of a button. -/
def Button.name : Button → String
  | left => "left"
  | right => "right"
  | middle => "middle"
  | up => "up"
  | down => "down"

namespace Button

theorem ofName?_eq_some_iff {text : String} {b : Button} :
    ofName? text = some b ↔ b.name = text := by
  constructor
  · intro h
    unfold ofName? at h
    repeat'
      split at h
      · cases h
        exact Eq.symm ‹_›
    cases h
  · rintro rfl
    cases b <;> rfl

theorem ofName?_eq_none_iff {text : String} :
    ofName? text = none ↔ ∀ b : Button, b.name ≠ text := by
  simp [Option.eq_none_iff_forall_ne_some, ofName?_eq_some_iff]

end Button

/-! ## Numbers -/

/-- Of two numbers the first one that is not within the bounds is refused, by its name. -/
inductive FirstOutside (first second : Parameter) (min max x y : Int) : EventError → Prop where
  | first (hx : ¬ (min ≤ x ∧ x ≤ max)) :
      FirstOutside first second min max x y (.invalidParameter first x min max)
  | second (hx : min ≤ x ∧ x ≤ max) (hy : ¬ (min ≤ y ∧ y ≤ max)) :
      FirstOutside first second min max x y (.invalidParameter second y min max)

namespace Event

variable {name : String} {pressed : Bool} {parameter : Parameter} {x y : Int} {e : Event}
  {refused : EventError}

theorem ofKey_eq_ok_iff :
    ofKey name pressed = .ok e ↔ ∃ k : Key, k.name = name ∧ e = .key k pressed := by
  unfold ofKey
  cases h : Key.ofName? name with
  | none => simp [Key.ofName?_eq_none_iff.mp h]
  | some k =>
    have hname {k' : Key} : k'.name = name ↔ k = k' := by
      rw [← Key.ofName?_eq_some_iff, h, Option.some.injEq]
    simp [hname, eq_comm]

theorem ofKey_eq_error_iff :
    ofKey name pressed = .error refused ↔
      (∀ k : Key, k.name ≠ name) ∧ refused = .unknownKey name := by
  rw [← Key.ofName?_eq_none_iff]
  unfold ofKey
  cases Key.ofName? name <;> simp [eq_comm]

theorem ofButton_eq_ok_iff :
    ofButton name pressed = .ok e ↔ ∃ b : Button, b.name = name ∧ e = .button b pressed := by
  unfold ofButton
  cases h : Button.ofName? name with
  | none => simp [Button.ofName?_eq_none_iff.mp h]
  | some b =>
    have hname {b' : Button} : b'.name = name ↔ b = b' := by
      rw [← Button.ofName?_eq_some_iff, h, Option.some.injEq]
    simp [hname, eq_comm]

theorem ofButton_eq_error_iff :
    ofButton name pressed = .error refused ↔
      (∀ b : Button, b.name ≠ name) ∧ refused = .unknownButton name := by
  rw [← Button.ofName?_eq_none_iff]
  unfold ofButton
  cases Button.ofName? name <;> simp [eq_comm]

theorem coordinate_eq (parameter : Parameter) (x : Int) :
    coordinate parameter x =
      if -32768 ≤ x ∧ x ≤ 32767 then .ok (.ofInt x)
      else .error (.invalidParameter parameter x (-32768) 32767) := by
  unfold coordinate inRange
  split
  · rename_i h
    exact (if_pos h).symm
  · rename_i h
    exact (if_neg h).symm

theorem delta_eq (parameter : Parameter) (x : Int) :
    delta parameter x =
      if -127 ≤ x ∧ x ≤ 127 then .ok (.ofInt x)
      else .error (.invalidParameter parameter x (-127) 127) := by
  unfold delta inRange
  split
  · rename_i h
    exact (if_pos h).symm
  · rename_i h
    exact (if_neg h).symm

/-- Every place of the host's range fits. -/
theorem coordinate_eq_ok_iff {a : Int16} : coordinate parameter x = .ok a ↔ a.toInt = x := by
  have hlow := a.le_toInt
  have hhigh := a.toInt_lt
  rw [coordinate_eq]
  constructor
  · intro h
    split at h
    · cases h
      exact Int16.toInt_ofInt_of_le (by omega) (by omega)
    · cases h
  · rintro rfl
    rw [if_pos (by omega), Int16.ofInt_toInt]

/-- Every step of at most 127 fits. -/
theorem delta_eq_ok_iff {a : Int8} :
    delta parameter x = .ok a ↔ a.toInt = x ∧ -127 ≤ x := by
  have hhigh := a.toInt_lt
  rw [delta_eq]
  constructor
  · intro h
    split at h
    · cases h
      exact ⟨Int8.toInt_ofInt_of_le (by omega) (by omega), by omega⟩
    · cases h
  · rintro ⟨rfl, hlow⟩
    rw [if_pos (by omega), Int8.ofInt_toInt]

section Pair

variable {α : Type} {check : Parameter → Int → Except EventError α} {conv : Int → α}
  {first second : Parameter} {min max : Int}

theorem pair_eq_ok_iff (make : α → α → Event) :
    (do return make (← check first x) (← check second y)) = Except.ok e ↔
      ∃ a b, check first x = .ok a ∧ check second y = .ok b ∧ e = make a b := by
  cases check first x <;> cases check second y <;>
    simp [bind, Except.bind, pure, Except.pure, eq_comm]

theorem pair_eq_error_iff
    (hcheck : ∀ parameter v, check parameter v =
      if min ≤ v ∧ v ≤ max then .ok (conv v)
      else .error (.invalidParameter parameter v min max))
    (make : α → α → Event) :
    (do return make (← check first x) (← check second y)) = Except.error refused ↔
      FirstOutside first second min max x y refused := by
  rw [hcheck, hcheck]
  constructor
  · intro h
    by_cases hx : min ≤ x ∧ x ≤ max
    · by_cases hy : min ≤ y ∧ y ≤ max
      · rw [if_pos hx, if_pos hy] at h
        cases h
      · rw [if_pos hx, if_neg hy] at h
        cases h
        exact .second hx hy
    · rw [if_neg hx] at h
      cases h
      exact .first hx
  · intro h
    cases h with
    | first hx => rw [if_neg hx]; rfl
    | second hx hy => rw [if_pos hx, if_neg hy]; rfl

end Pair

theorem ofMove_eq_ok_iff :
    ofMove x y = .ok e ↔ ∃ a b : Int16, a.toInt = x ∧ b.toInt = y ∧ e = .move a b := by
  simp only [ofMove, pair_eq_ok_iff, coordinate_eq_ok_iff]

theorem ofMove_eq_error_iff :
    ofMove x y = .error refused ↔ FirstOutside .toX .toY (-32768) 32767 x y refused :=
  pair_eq_error_iff coordinate_eq move

theorem ofRelative_eq_ok_iff :
    ofRelative x y = .ok e ↔
      ∃ a b : Int8, (a.toInt = x ∧ -127 ≤ x) ∧ (b.toInt = y ∧ -127 ≤ y) ∧ e = .relative a b := by
  simp only [ofRelative, pair_eq_ok_iff, delta_eq_ok_iff]

theorem ofRelative_eq_error_iff :
    ofRelative x y = .error refused ↔ FirstOutside .deltaX .deltaY (-127) 127 x y refused :=
  pair_eq_error_iff delta_eq relative

theorem ofWheel_eq_ok_iff :
    ofWheel x y = .ok e ↔
      ∃ a b : Int8, (a.toInt = x ∧ -127 ≤ x) ∧ (b.toInt = y ∧ -127 ≤ y) ∧ e = .wheel a b := by
  simp only [ofWheel, pair_eq_ok_iff, delta_eq_ok_iff]

theorem ofWheel_eq_error_iff :
    ofWheel x y = .error refused ↔ FirstOutside .deltaX .deltaY (-127) 127 x y refused :=
  pair_eq_error_iff delta_eq wheel

end Event

end SerialHid
