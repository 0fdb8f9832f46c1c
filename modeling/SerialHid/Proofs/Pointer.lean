/-
SerialHid.Proofs.Pointer — the columns of the device share the host's places evenly.

* `signedWord?`, `unsignedWord?` — a number as a machine word, if it fits; `Pointer.toDeviceWord?`
  scales with such words, and gives up where one of them would overflow.
* `Pointer.ideal` — the exact quotient, rounded down, of which nothing is moved in.
* `Pointer.first`, `Pointer.next` — where a column begins and where the next one does, in closed
  form.
* `Pointer.le_toDevice_iff` — a column is reached exactly where it begins. The order of the columns,
  their width and their number all follow from this.
* `Pointer.covers_evenly` — what the scaling is on the host's range and beyond it.
-/
import Mathlib.Data.Int.Interval
import Mathlib.Data.Rat.Floor
import Mathlib.Data.Set.Card
import SerialHid.Pointer

namespace SerialHid

/-! ## Machine words -/

/-- The number as a word of so many bits, one of them for the sign; there is none if it does not
fit. -/
def signedWord? (bits : Nat) (n : Int) : Option Int :=
  if -2 ^ (bits - 1) ≤ n ∧ n < 2 ^ (bits - 1) then some n else none

/-- The number as a word of so many bits, none of them for a sign. -/
def unsignedWord? (bits : Nat) (n : Int) : Option Nat :=
  if 0 ≤ n ∧ n < 2 ^ bits then some n.toNat else none

theorem signedWord?_eq_some {bits : Nat} {n : Int} (hlow : -2 ^ (bits - 1) ≤ n)
    (hhigh : n < 2 ^ (bits - 1)) : signedWord? bits n = some n := if_pos ⟨hlow, hhigh⟩

theorem unsignedWord?_eq_some {bits : Nat} {n : Int} (hlow : 0 ≤ n) (hhigh : n < 2 ^ bits) :
    unsignedWord? bits n = some n.toNat := if_pos ⟨hlow, hhigh⟩

namespace Pointer

/-- The device coordinate, with every sum, product and quotient in a word of 64 bits and the result
in one of 16 bits without a sign; there is none if a word overflows. -/
def toDeviceWord? (v : Int32) : Option Nat := do
  let shifted ← signedWord? 64 (v.toInt + 32767)
  let product ← signedWord? 64 (shifted * resolution)
  let quotient ← signedWord? 64 (product.fdiv 65534)
  unsignedWord? 16 (min (max quotient 0) deviceMax)

/-! ## The quotient -/

/-- The stretched coordinate, rounded down. -/
def ideal (v : Int) : Int := ⌊((v + 32767) * 4096 : ℚ) / 65534⌋

theorem scaled_eq_ideal (v : Int) : scaled v = ideal v := by
  have hfloor := Rat.floor_intCast_div_natCast ((v + 32767) * 4096) 65534
  push_cast at hfloor
  rw [ideal, hfloor]
  exact Int.fdiv_eq_ediv_of_nonneg _ (by decide)

theorem ideal_eq (v : Int) : ideal v = (v + 32767) * 4096 / 65534 :=
  (scaled_eq_ideal v).symm.trans (Int.fdiv_eq_ediv_of_nonneg _ (by decide))

theorem toDevice_eq (v : Int) : (toDevice v : Int) = min (max (ideal v) 0) 4095 := by
  rw [toDevice, scaled_eq_ideal, deviceMax]
  omega

theorem toDevice_le (v : Int) : toDevice v ≤ 4095 := by
  have h := toDevice_eq v
  omega

/-- No word overflows on the way. -/
theorem toDeviceWord?_eq (v : Int32) : toDeviceWord? v = some (toDevice v.toInt) := by
  have hlow := v.le_toInt
  have hhigh := v.toInt_lt
  have hideal := ideal_eq v.toInt
  have hshifted : signedWord? 64 (v.toInt + 32767) = some (v.toInt + 32767) :=
    signedWord?_eq_some (by omega) (by omega)
  have hproduct : signedWord? 64 ((v.toInt + 32767) * resolution) =
      some ((v.toInt + 32767) * resolution) := by
    refine signedWord?_eq_some ?_ ?_ <;> simp only [resolution] <;> omega
  have hquotient : signedWord? 64 (((v.toInt + 32767) * resolution).fdiv 65534) =
      some (scaled v.toInt) := by
    refine signedWord?_eq_some (n := scaled v.toInt) ?_ ?_ <;> rw [scaled_eq_ideal] <;> omega
  have hnarrow : unsignedWord? 16 (min (max (scaled v.toInt) 0) deviceMax) =
      some (toDevice v.toInt) := by
    refine unsignedWord?_eq_some ?_ ?_ <;> simp only [deviceMax] <;> omega
  simp only [toDeviceWord?, hshifted, hproduct, hquotient, hnarrow, Option.bind_eq_bind,
    Option.bind_some]

/-! ## Columns -/

/-- The first place of a column. The least place of the host lies before it is due. -/
def first (n : Nat) : Int := if n = 0 then -32768 else (65534 * n + 4095) / 4096 - 32767

/-- The first place behind a column. The greatest place of the host belongs to the last one. -/
def next (n : Nat) : Int := if n = 4095 then 32768 else first (n + 1)

/-- The places of the host that a column stands for. -/
def column (n : Nat) : Set Int := {v | (-32768 ≤ v ∧ v ≤ 32767) ∧ toDevice v = n}

theorem first_succ (n : Nat) : first (n + 1) = (65534 * (n + 1 : Nat) + 4095) / 4096 - 32767 :=
  if_neg (Nat.succ_ne_zero n)

section Columns

variable {n : Nat} {v w : Int}

/-- A column is reached where it begins. -/
theorem le_toDevice_iff (hpos : 0 < n) (hn : n ≤ 4095) : n ≤ toDevice v ↔ first n ≤ v := by
  have hdevice := toDevice_eq v
  have hideal := ideal_eq v
  obtain ⟨k, rfl⟩ := Nat.exists_eq_add_one.mpr hpos
  rw [first_succ]
  omega

theorem toDevice_mono (h : v ≤ w) : toDevice v ≤ toDevice w := by
  rcases Nat.eq_zero_or_pos (toDevice v) with hzero | hpos
  · exact hzero ▸ Nat.zero_le _
  · have hbegun := (le_toDevice_iff hpos (toDevice_le v)).mp (Nat.le_refl _)
    exact (le_toDevice_iff hpos (toDevice_le v)).mpr (hbegun.trans h)

/-- On the host's range this holds of the outermost columns too. -/
theorem first_le_iff (hn : n ≤ 4095) (hv : -32768 ≤ v) : first n ≤ v ↔ n ≤ toDevice v := by
  rcases Nat.eq_zero_or_pos n with rfl | hpos
  · exact iff_of_true hv (Nat.zero_le _)
  · exact (le_toDevice_iff hpos hn).symm

theorem lt_next_iff (hn : n ≤ 4095) (hv : v ≤ 32767) : v < next n ↔ toDevice v ≤ n := by
  rw [next]
  split_ifs with hlast
  · exact iff_of_true (by omega) (hlast ▸ toDevice_le v)
  · rw [← Int.not_le, ← le_toDevice_iff (Nat.succ_pos n) (by omega)]
    omega

theorem mem_column_iff (hn : n ≤ 4095) : v ∈ column n ↔ first n ≤ v ∧ v < next n := by
  have hlow : -32768 ≤ first n := by
    rw [first]
    split_ifs <;> omega
  have hhigh : next n ≤ 32768 := by
    rw [next, first_succ]
    split_ifs <;> omega
  constructor
  · rintro ⟨⟨hv, hv'⟩, rfl⟩
    exact ⟨(first_le_iff hn hv).mpr (Nat.le_refl _), (lt_next_iff hn hv').mpr (Nat.le_refl _)⟩
  · rintro ⟨hfirst, hnext⟩
    have hv : -32768 ≤ v := hlow.trans hfirst
    have hv' : v ≤ 32767 := by omega
    exact ⟨⟨hv, hv'⟩, Nat.le_antisymm ((lt_next_iff hn hv').mp hnext)
      ((first_le_iff hn hv).mp hfirst)⟩

/-- A column is sixteen places wide, less a part of a place that adds up; the ends make the
outermost columns one place wider. -/
theorem card_column (hn : n ≤ 4095) :
    15 ≤ (column n).ncard ∧ (column n).ncard ≤ 17 := by
  have hcolumn : column n = Finset.Ico (first n) (next n) := by
    ext v
    rw [Finset.mem_coe, Finset.mem_Ico]
    exact mem_column_iff hn
  rw [hcolumn, Set.ncard_coe_finset, Int.card_Ico, next, first_succ, first]
  split_ifs <;> omega

end Columns

/-- **The columns share the places evenly.** The coordinates that the device is sent keep the order
of the host's, stay on the device, and are reckoned without an overflow. Within the host's range
they are the stretched coordinates rounded down; only the two ends, for which these lie one step
outside, are moved in. From one place to the next it is at most one column, and no column stands for
fewer than 15 places or more than 17. -/
theorem covers_evenly :
    (∀ v w : Int32, v.toInt ≤ w.toInt → toDevice v.toInt ≤ toDevice w.toInt) ∧
    (∀ v : Int32, toDevice v.toInt ≤ 4095 ∧ toDeviceWord? v = some (toDevice v.toInt)) ∧
    (∀ v : Int, -32768 < v → v < 32767 → (toDevice v : Int) = ideal v) ∧
    (ideal (-32768) = -1 ∧ toDevice (-32768) = 0) ∧
    (ideal 32767 = 4096 ∧ toDevice 32767 = 4095) ∧
    (∀ v : Int, -32768 ≤ v → v < 32767 →
      toDevice v ≤ toDevice (v + 1) ∧ toDevice (v + 1) ≤ toDevice v + 1) ∧
    ∀ n ≤ 4095, 15 ≤ (column n).ncard ∧ (column n).ncard ≤ 17 := by
  refine ⟨fun v w => toDevice_mono, fun v => ⟨toDevice_le _, toDeviceWord?_eq v⟩, ?inner,
    ⟨ideal_eq _, by decide⟩, ⟨ideal_eq _, by decide⟩, ?step, fun n => card_column⟩
  case inner =>
    intro v hlow hhigh
    rw [toDevice_eq, ideal_eq]
    omega
  case step =>
    intro v hlow hhigh
    refine ⟨toDevice_mono (by omega), ?_⟩
    have hhere := toDevice_eq v
    have hbeside := toDevice_eq (v + 1)
    rw [ideal_eq] at hhere hbeside
    omega

/-- A place in the middle and its neighbour, and the first column. -/
theorem covers_evenly_middle :
    toDevice (0 : Int32).toInt ≤ toDevice (16 : Int32).toInt ∧
    (toDevice 0 : Int) = ideal 0 ∧ toDevice (0 + 1) ≤ toDevice 0 + 1 ∧
    15 ≤ (column 0).ncard ∧ (column 0).ncard ≤ 17 := by
  obtain ⟨hmono, -, hinner, -, -, hstep, hwidth⟩ := covers_evenly
  exact ⟨hmono 0 16 (by decide), hinner 0 (by decide) (by decide),
    (hstep 0 (by decide) (by decide)).2, hwidth 0 (by decide)⟩

end Pointer

end SerialHid
