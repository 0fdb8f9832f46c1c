/-
SerialHid.Proofs.Binary64 — what a number of 64 bits stands for, and how long so many seconds are.

* `Binary64.value?` — the rational number that the bits stand for; there is none for a NaN or an
  infinity.
* `Binary64.unitsOf` — a magnitude in units of the least positive one. It grows with the bits, so
  that comparing bits is comparing values: `Binary64.value_le_iff`.
* `roundEven_near` — rounding a quotient to the nearest whole number.
* `Measures` — a length of time that a number of seconds comes to.
* `Binary64.isSome_duration?_iff`, `Binary64.measures_of_duration?` — which numbers of seconds have a
  length of time, and which one.
-/
import Mathlib.Algebra.Order.Field.Basic
import Mathlib.Algebra.Order.Field.Power
import Mathlib.Data.Rat.Cast.Order
import Mathlib.Order.Monotone.Basic
import Mathlib.Tactic.FieldSimp
import Mathlib.Tactic.Linarith
import Mathlib.Tactic.NormNum
import Mathlib.Tactic.Ring
import SerialHid.Number.Binary64

namespace SerialHid

namespace Binary64

/-! ## Magnitudes -/

/-- A magnitude in units of the least positive one, of which there are `2 ^ 1074` in one. -/
def unitsOf (magnitude : Nat) : Nat :=
  (if magnitude / 2 ^ 52 = 0 then magnitude % 2 ^ 52 else 2 ^ 52 + magnitude % 2 ^ 52) *
    2 ^ (max (magnitude / 2 ^ 52) 1 - 1)

/-- One bit pattern further is a larger magnitude, also where the exponent changes. -/
theorem unitsOf_lt_succ (m : Nat) : unitsOf m < unitsOf (m + 1) := by
  by_cases hcarry : m % 2 ^ 52 + 1 < 2 ^ 52
  · have hfield : (m + 1) / 2 ^ 52 = m / 2 ^ 52 := by omega
    have hfraction : (m + 1) % 2 ^ 52 = m % 2 ^ 52 + 1 := by omega
    rw [unitsOf, unitsOf, hfield, hfraction]
    refine Nat.mul_lt_mul_of_pos_right ?_ (Nat.two_pow_pos _)
    split <;> omega
  · have hfield : (m + 1) / 2 ^ 52 = m / 2 ^ 52 + 1 := by omega
    have hfraction : (m + 1) % 2 ^ 52 = 0 := by omega
    have hbelow : m % 2 ^ 52 < 2 ^ 52 := Nat.mod_lt _ (by decide)
    rw [unitsOf, unitsOf, hfield, hfraction, if_neg (Nat.succ_ne_zero _), Nat.add_zero,
      Nat.max_eq_left (Nat.succ_pos _), Nat.succ_sub_one]
    by_cases hzero : m / 2 ^ 52 = 0
    · rw [if_pos hzero, hzero]
      simpa using hbelow
    · obtain ⟨k, hk⟩ := Nat.exists_eq_succ_of_ne_zero hzero
      rw [if_neg hzero, hk, Nat.max_eq_left (Nat.succ_pos k), Nat.succ_sub_one]
      calc (2 ^ 52 + m % 2 ^ 52) * 2 ^ k
          < (2 ^ 52 + 2 ^ 52) * 2 ^ k :=
            Nat.mul_lt_mul_of_pos_right (Nat.add_lt_add_left hbelow _) (Nat.two_pow_pos _)
        _ = 2 ^ 52 * 2 ^ (k + 1) := by rw [Nat.pow_succ]; ring

theorem unitsOf_strictMono : StrictMono unitsOf := strictMono_nat_of_lt_succ unitsOf_lt_succ

theorem unitsOf_le_iff {m n : Nat} : unitsOf m ≤ unitsOf n ↔ m ≤ n :=
  unitsOf_strictMono.le_iff_le

/-! ## Values -/

variable {x y : Binary64} {q : ℚ}

/-- What the bits stand for, if they are those of a finite number. -/
def value (x : Binary64) : ℚ :=
  (if x.isNegative then -1 else 1) * (x.significand * 2 ^ x.exponent)

/-- What the bits stand for. -/
def value? (x : Binary64) : Option ℚ := if x.isNaN || x.isInfinite then none else some x.value

/-- The value in units of the least positive one. -/
def units (x : Binary64) : Int :=
  if x.isNegative then -(unitsOf x.magnitude : Int) else unitsOf x.magnitude

/-- The least positive value. -/
def leastPositive : ℚ := 2 ^ (-1074 : Int)

theorem leastPositive_pos : 0 < leastPositive := zpow_pos two_pos _

theorem magnitude_eq (x : Binary64) :
    (x.significand * 2 ^ x.exponent : ℚ) = unitsOf x.magnitude * leastPositive := by
  have hunits : unitsOf x.magnitude = x.significand * 2 ^ (max x.exponentField 1 - 1) := rfl
  have hexponent : x.exponent = ((max x.exponentField 1 - 1 : Nat) : Int) + -1074 := by
    have hpos : 1 ≤ max x.exponentField 1 := Nat.le_max_right _ _
    rw [exponent]
    omega
  rw [hexponent, zpow_add₀ two_ne_zero, ← mul_assoc, zpow_natCast, hunits, Nat.cast_mul,
    Nat.cast_pow, Nat.cast_ofNat, leastPositive]

theorem value_eq (x : Binary64) : x.value = x.units * leastPositive := by
  rw [value, units, magnitude_eq]
  split
  · push_cast
    ring
  · push_cast
    ring

/-- The order of the bits is the order of the values. -/
theorem value_le_iff : x.value ≤ y.value ↔ x.rank ≤ y.rank := by
  have hunits : x.value ≤ y.value ↔ x.units ≤ y.units := by
    rw [value_eq, value_eq, mul_le_mul_iff_left₀ leastPositive_pos, Int.cast_le]
  have hle : unitsOf x.magnitude ≤ unitsOf y.magnitude ↔ x.magnitude ≤ y.magnitude :=
    unitsOf_le_iff
  have hge : unitsOf y.magnitude ≤ unitsOf x.magnitude ↔ y.magnitude ≤ x.magnitude :=
    unitsOf_le_iff
  -- Opposite signs leave only the two zeros to compare.
  have hx : unitsOf x.magnitude ≤ 0 ↔ x.magnitude ≤ 0 := unitsOf_le_iff (n := 0)
  have hy : unitsOf y.magnitude ≤ 0 ↔ y.magnitude ≤ 0 := unitsOf_le_iff (n := 0)
  rw [hunits, units, units, rank, rank]
  split <;> split <;> omega

theorem value?_eq_some_iff :
    x.value? = some q ↔ x.isNaN = false ∧ x.isInfinite = false ∧ x.value = q := by
  rw [value?]
  cases x.isNaN <;> cases x.isInfinite <;> simp

theorem atLeast_iff (hx : x.isNaN = false) (hy : y.isNaN = false) :
    x.atLeast y = true ↔ y.value ≤ x.value := by
  rw [value_le_iff, atLeast, hx, hy]
  simp

theorem value_nonneg_iff : 0 ≤ x.value ↔ 0 ≤ x.rank := by
  have hzero : (⟨0⟩ : Binary64).value = 0 := by
    have hunits : (⟨0⟩ : Binary64).units = 0 := by decide
    rw [value_eq, hunits, Int.cast_zero, zero_mul]
  rw [← hzero]
  exact value_le_iff

end Binary64

/-! ## Rounding -/

/-- No whole number is nearer, and of two the even one is taken. -/
theorem roundEven_near (num : Nat) {den : Nat} (hden : 0 < den) :
    |(roundEven num den : ℚ) - num / den| ≤ 1 / 2 ∧
      (|(roundEven num den : ℚ) - num / den| = 1 / 2 → roundEven num den % 2 = 0) := by
  have hpos : (0 : ℚ) < den := Nat.cast_pos.mpr hden
  obtain ⟨t, ht⟩ : ∃ t : ℚ, t = (num % den : Nat) / den := ⟨_, rfl⟩
  have hquotient : (num : ℚ) / den = (num / den : Nat) + t := by
    have hsplit : (num : ℚ) = den * (num / den : Nat) + (num % den : Nat) := by
      exact_mod_cast (Nat.div_add_mod num den).symm
    rw [ht, hsplit]
    field_simp
  have hlow : 0 ≤ t := ht ▸ div_nonneg (Nat.cast_nonneg _) hpos.le
  have hhigh : t < 1 := by
    rw [ht, div_lt_one hpos]
    exact Nat.cast_lt.mpr (Nat.mod_lt _ hden)
  have hdown : 2 * (num % den) < den ↔ t < 1 / 2 := by
    rw [ht, div_lt_div_iff₀ hpos two_pos, one_mul, mul_comm ((num % den : Nat) : ℚ)]
    exact_mod_cast Iff.rfl
  have hup : den < 2 * (num % den) ↔ 1 / 2 < t := by
    rw [ht, div_lt_div_iff₀ two_pos hpos, one_mul, mul_comm ((num % den : Nat) : ℚ)]
    exact_mod_cast Iff.rfl
  rw [hquotient, roundEven]
  split_ifs with h h'
  · have h := hdown.mp h
    have hdistance : ((num / den : Nat) : ℚ) - ((num / den : Nat) + t) = -t := by ring
    rw [hdistance, abs_neg, abs_of_nonneg hlow]
    exact ⟨h.le, fun htie => absurd htie h.ne⟩
  · have h' := hup.mp h'
    have hdistance : ((num / den + 1 : Nat) : ℚ) - ((num / den : Nat) + t) = 1 - t := by
      push_cast
      ring
    rw [hdistance, abs_of_pos (by linarith)]
    exact ⟨by linarith, fun htie => absurd htie (by linarith)⟩
  · have htie : t = 1 / 2 := le_antisymm (not_lt.mp (hup.not.mp h')) (not_lt.mp (hdown.not.mp h))
    refine ⟨?_, fun _ => by omega⟩
    rcases Nat.mod_two_eq_zero_or_one (num / den) with heven | hodd
    · rw [heven, htie, abs_le]
      constructor <;> push_cast <;> linarith
    · rw [hodd, htie, abs_le]
      constructor <;> push_cast <;> linarith

theorem roundEven_le (num den : Nat) : roundEven num den ≤ num / den + 1 := by
  rw [roundEven]
  split_ifs <;> omega

theorem roundEven_one (num : Nat) : roundEven num 1 = num := by
  simp [roundEven, Nat.mod_one]

/-! ## Seconds -/

/-- The length of time that is nearest to so many seconds; of two, the one with an even number of
nanoseconds. The whole seconds fit into 64 bits. -/
structure Measures (seconds : ℚ) (d : Duration) : Prop where
  near : |(d.nanoseconds : ℚ) - seconds * 10 ^ 9| ≤ 1 / 2
  even : |(d.nanoseconds : ℚ) - seconds * 10 ^ 9| = 1 / 2 → d.nanoseconds % 2 = 0
  fits : d.seconds < 2 ^ 64

namespace Binary64

variable {x : Binary64} {d : Duration} {q : ℚ}

/-- The numerator of the magnitude as a quotient of whole numbers. -/
def numerator (x : Binary64) : Nat := x.significand * 2 ^ x.exponent.toNat

/-- The denominator of the magnitude, a power of two. -/
def denominator (x : Binary64) : Nat := 2 ^ (-x.exponent).toNat

theorem denominator_pos (x : Binary64) : 0 < x.denominator := Nat.two_pow_pos _

theorem significand_lt (x : Binary64) : x.significand < 2 ^ 53 := by
  have hfraction : x.fraction < 2 ^ 52 := Nat.mod_lt _ (by decide)
  rw [significand]
  split
  · omega
  · show 2 ^ 52 + x.fraction < 2 ^ 53
    omega

theorem quotient_eq (x : Binary64) :
    (x.numerator : ℚ) / x.denominator = x.significand * 2 ^ x.exponent := by
  rw [numerator, denominator]
  obtain ⟨n, hn | hn⟩ := Int.eq_nat_or_neg x.exponent
  · simp [hn]
  · simp [hn, div_eq_mul_inv]

theorem value_of_nonneg (h : 0 ≤ x.rank) : x.value = x.numerator / x.denominator := by
  have hsign : 0 ≤ x.value := value_nonneg_iff.mpr h
  rw [quotient_eq]
  rw [value] at hsign ⊢
  have hmagnitude : (0 : ℚ) ≤ x.significand * 2 ^ x.exponent := by positivity
  split_ifs at hsign ⊢ with hnegative
  · linarith
  · exact one_mul _

theorem duration?_eq (x : Binary64) :
    x.duration? =
      if x.isNaN || x.isInfinite || x.rank < 0 then none
      else if 2 ^ 64 * x.denominator ≤ x.numerator then none
      else some ⟨roundEven (x.numerator * 10 ^ 9) x.denominator⟩ := rfl

theorem tooLong_iff (h : 0 ≤ x.rank) :
    2 ^ 64 * x.denominator ≤ x.numerator ↔ (2 : ℚ) ^ 64 ≤ x.value := by
  rw [value_of_nonneg h, le_div_iff₀ (Nat.cast_pos.mpr x.denominator_pos)]
  exact_mod_cast Iff.rfl

/-- The numbers of seconds that have a length of time. -/
theorem duration?_eq_some_iff :
    x.duration? = some d ↔
      (∃ q, x.value? = some q ∧ 0 ≤ q ∧ q < 2 ^ 64) ∧
        d = ⟨roundEven (x.numerator * 10 ^ 9) x.denominator⟩ := by
  rw [duration?_eq]
  cases hspecial : x.isNaN || x.isInfinite with
  | true =>
    have hnone : x.value? = none := if_pos hspecial
    simp [hnone]
  | false =>
    have hvalue : x.value? = some x.value := if_neg (Bool.eq_false_iff.mp hspecial)
    by_cases hrank : 0 ≤ x.rank
    · have hsign := value_nonneg_iff.mpr hrank
      have hlong := tooLong_iff hrank
      simp only [Bool.false_or, decide_eq_true_eq, Int.not_lt.mpr hrank, if_false, hlong, hvalue,
        Option.some.injEq, exists_eq_left', hsign, true_and, ← not_le]
      by_cases h : (2 : ℚ) ^ 64 ≤ x.value <;> simp [h, eq_comm]
    · have hsign : ¬ 0 ≤ x.value := mt value_nonneg_iff.mp hrank
      simp [Int.not_le.mp hrank, hvalue, hsign]

theorem isSome_duration?_iff :
    x.duration?.isSome ↔ ∃ q, x.value? = some q ∧ 0 ≤ q ∧ q < 2 ^ 64 := by
  rw [Option.isSome_iff_exists]
  constructor
  · rintro ⟨d, hd⟩
    exact (duration?_eq_some_iff.mp hd).1
  · intro h
    exact ⟨_, duration?_eq_some_iff.mpr ⟨h, rfl⟩⟩

/-- Rounding to nanoseconds does not reach `2 ^ 64` seconds: numbers that large are whole. -/
theorem roundEven_lt (h : x.numerator < 2 ^ 64 * x.denominator) :
    roundEven (x.numerator * 10 ^ 9) x.denominator < 2 ^ 64 * 10 ^ 9 := by
  rcases Int.le_total 0 x.exponent with hexponent | hexponent
  · have hden : x.denominator = 1 := by
      rw [denominator, Int.toNat_of_nonpos (by omega), Nat.pow_zero]
    rw [hden, roundEven_one]
    rw [hden] at h
    omega
  · have hnum : x.numerator < 2 ^ 53 := by
      rw [numerator, Int.toNat_of_nonpos hexponent, Nat.pow_zero, Nat.mul_one]
      exact x.significand_lt
    have hround := roundEven_le (x.numerator * 10 ^ 9) x.denominator
    have hquotient := Nat.div_le_self (x.numerator * 10 ^ 9) x.denominator
    omega

theorem measures_of_duration? (h : x.duration? = some d) (hq : x.value? = some q) :
    Measures q d := by
  obtain ⟨⟨q', hq', hlow, hhigh⟩, rfl⟩ := duration?_eq_some_iff.mp h
  obtain rfl := Option.some.inj (hq'.symm.trans hq)
  obtain ⟨-, -, rfl⟩ := value?_eq_some_iff.mp hq
  have hrank := value_nonneg_iff.mp hlow
  have hquotient : x.value * 10 ^ 9 = (x.numerator * 10 ^ 9 : Nat) / x.denominator := by
    rw [value_of_nonneg hrank]
    push_cast
    ring
  have hround := roundEven_near (x.numerator * 10 ^ 9) x.denominator_pos
  rw [← hquotient] at hround
  refine ⟨hround.1, hround.2, ?_⟩
  have hbelow := mt (tooLong_iff hrank).mp (not_le.mpr hhigh)
  exact (Nat.div_lt_iff_lt_mul (by decide)).mpr (roundEven_lt (Nat.not_le.mp hbelow))

end Binary64

end SerialHid
