import BlockExtension.Decimal.Shortest
import Mathlib.Algebra.Order.Field.Power
import Mathlib.Tactic.LinearCombination
import Mathlib.Tactic.NormNum
import Mathlib.Tactic.Positivity

/-!
# The shortest digits identify a double

A double is written with the fewest decimal digits that no other double is nearer to.
This file says that the double can be found again: whoever rounds the written decimal
once to the nearest double, a half to the even mantissa, gets the double that was
written.

There are two halves. `Interval` is what its name promises, so every quotient in the
interval of a double rounds to it; the one case that needs care is below a power of
two, where the quotient has one doubling less than the double. And the search for the
digits always succeeds with seventeen of them, since a grid of that many digits is
finer than the interval. The rounding is about natural numbers; rational numbers are
the common ground of the decimals, whose exponents have a sign.

## Main results

* `Double.nearest_of_covers`: every quotient in the interval of a double rounds to it.
* `Double.contains_shortest`: the digits that are searched for are in the interval.
* `Scientific.nearest?_eq`: a decimal with the value of the shortest digits of a double
  is read as this double.
-/

namespace BlockExtension.Decimal

/-! ## Rounding a quotient -/

/--
A quotient is rounded to the number that is less than half a unit away, or half a unit
away and even.
-/
theorem roundHalfEven_eq {num den m : Nat} (hDen : 0 < den)
    (hLow : 2 * (m * den) ≤ 2 * num + den) (hHigh : 2 * num ≤ 2 * (m * den) + den)
    (hHalf : m % 2 = 0 ∨ 2 * (m * den) < 2 * num + den ∧ 2 * num < 2 * (m * den) + den) :
    roundHalfEven num den = m := by
  have hSplit : num / den * den + num % den = num := Nat.div_add_mod' num den
  have hRest : num % den < den := Nat.mod_lt _ hDen
  have hAtMost : num / den ≤ m := by
    by_contra hAbove
    have hNext : (m + 1) * den ≤ num / den * den := Nat.mul_le_mul_right den (by omega)
    rw [Nat.succ_mul] at hNext
    omega
  have hAtLeast : m ≤ num / den + 1 := by
    by_contra hBelow
    have hNext : (num / den + 1 + 1) * den ≤ m * den := Nat.mul_le_mul_right den (by omega)
    rw [Nat.succ_mul, Nat.succ_mul] at hNext
    omega
  simp only [roundHalfEven]
  generalize num / den = quotient at *
  generalize num % den = remainder at *
  obtain rfl | rfl : m = quotient ∨ m = quotient + 1 := by omega
  · split_ifs <;> omega
  · have hNext : (quotient + 1) * den = quotient * den + den := Nat.succ_mul ..
    split_ifs <;> omega

namespace Double

theorem doublings_eq {num den shift : Nat} (hLow : twoPow (52 + shift) * den ≤ num)
    (hHigh : num < twoPow (53 + shift) * den) : doublings num den = shift := by
  have hDen : 0 < den := Nat.pos_of_ne_zero fun h => by simp [h] at hHigh
  have hAtLeast : 2 ^ (52 + shift) ≤ num / den := by
    rw [Nat.le_div_iff_mul_le hDen]
    rwa [twoPow, Nat.one_shiftLeft] at hLow
  have hBelow : num / den < 2 ^ (52 + shift + 1) := by
    rw [Nat.div_lt_iff_lt_mul hDen]
    rwa [twoPow, Nat.one_shiftLeft, show 53 + shift = 52 + shift + 1 by omega] at hHigh
  have hPositive : num / den ≠ 0 :=
    Nat.ne_of_gt (Nat.lt_of_lt_of_le (Nat.two_pow_pos _) hAtLeast)
  rw [doublings, (Nat.log2_eq_iff hPositive).2 ⟨hAtLeast, hBelow⟩]
  omega

theorem doublings_eq_zero {num den : Nat} (h : num < twoPow 53 * den) : doublings num den = 0 := by
  have hDen : 0 < den := Nat.pos_of_ne_zero fun hZero => by simp [hZero] at h
  by_cases hPositive : num / den = 0
  · simp [doublings, hPositive]
  · have hBelow : num / den < 2 ^ 53 := by
      rw [Nat.div_lt_iff_lt_mul hDen]
      rwa [twoPow, Nat.one_shiftLeft] at h
    have hLog := (Nat.log2_lt hPositive).2 hBelow
    simp only [doublings]
    omega

/-- A quotient whose rounded mantissa is small enough is the double of that mantissa. -/
theorem nearest_of_mantissa {x : Double} {num den : Nat} (hShift : doublings num den = x.exponent)
    (hMantissa : roundHalfEven num (den * twoPow x.exponent) = x.mantissa) :
    nearest x.negative num den = some x := by
  have hSmall := x.mantissa_lt
  have hRange := x.exponent_le
  simp only [nearest, hShift, hMantissa, dif_pos hSmall, dif_pos hRange]

/-- A quotient whose rounded mantissa reaches the next power of two is this power. -/
theorem nearest_of_carry {x : Double} {num den shift : Nat} (hExponent : x.exponent = shift + 1)
    (hPower : x.mantissa = twoPow 52) (hShift : doublings num den = shift)
    (hMantissa : roundHalfEven num (den * twoPow shift) = twoPow 53) :
    nearest x.negative num den = some x := by
  have hRange : shift + 1 ≤ 2045 := hExponent ▸ x.exponent_le
  have hLarge : ¬ twoPow 53 < twoPow 53 := Nat.lt_irrefl _
  simp only [nearest, hShift, hMantissa, dif_neg hLarge, dif_pos hRange]
  obtain ⟨negative, mantissa, exponent, _, _, _⟩ := x
  cases hExponent
  cases hPower
  rfl

end Double

/-! ## The interval of a double -/

/-- `num / den` quarters of a unit lie in the interval. -/
def Interval.Covers (i : Interval) (num den : Nat) : Prop :=
  i.low * den ≤ num ∧ num ≤ i.high * den ∧
    (i.closed = true ∨ i.low * den < num ∧ num < i.high * den)

namespace Double

/-- How far the interval of a double reaches down, in quarters of its last place. -/
def below (x : Double) : Nat := if x.mantissa = twoPow 52 && x.exponent != 0 then 1 else 2

theorem below_eq (x : Double) :
    x.below = 1 ∧ x.mantissa = twoPow 52 ∧ x.exponent ≠ 0 ∨
      x.below = 2 ∧ (x.exponent = 0 ∨ twoPow 52 < x.mantissa) := by
  by_cases h : x.mantissa = twoPow 52 ∧ x.exponent ≠ 0
  · exact Or.inl ⟨by simp [below, h], h⟩
  · refine Or.inr ⟨by simp [below, h], ?_⟩
    have hNormal := x.normal
    omega

/-- The interval in units of the last place of the double. -/
theorem covers_interval_iff {x : Double} {num den unit : Nat}
    (hUnit : unit = twoPow x.exponent * den) :
    x.interval.Covers num den ↔
      4 * (x.mantissa * unit) - x.below * unit ≤ num ∧ num ≤ 4 * (x.mantissa * unit) + 2 * unit ∧
        (x.mantissa % 2 = 0 ∨ 4 * (x.mantissa * unit) - x.below * unit < num ∧
          num < 4 * (x.mantissa * unit) + 2 * unit) := by
  have hLow : x.interval.low * den = 4 * (x.mantissa * unit) - x.below * unit := by
    rw [show x.interval.low = (4 * x.mantissa - x.below) * twoPow x.exponent from rfl,
      Nat.mul_assoc, ← hUnit, Nat.sub_mul, Nat.mul_assoc]
  have hHigh : x.interval.high * den = 4 * (x.mantissa * unit) + 2 * unit := by
    rw [show x.interval.high = (4 * x.mantissa + 2) * twoPow x.exponent from rfl,
      Nat.mul_assoc, ← hUnit, Nat.add_mul, Nat.mul_assoc]
  rw [Interval.Covers, hLow, hHigh,
    show (x.interval.closed = true) = (x.mantissa % 2 = 0) from decide_eq_true_eq]

/-- A quotient of the interval with as many doublings as the double rounds to its mantissa. -/
theorem nearest_of_doublings {x : Double} {num den : Nat} (hDen : 0 < den)
    (hCovers : x.interval.Covers (4 * num) den) (hShift : doublings num den = x.exponent) :
    nearest x.negative num den = some x := by
  obtain ⟨hLow, hHigh, hEnds⟩ := (covers_interval_iff rfl).1 hCovers
  have hUnit : 0 < twoPow x.exponent * den := Nat.mul_pos (twoPow_pos _) hDen
  refine nearest_of_mantissa hShift ?_
  rw [Nat.mul_comm den]
  generalize twoPow x.exponent * den = unit at *
  have hBelow : x.below * unit = unit ∨ x.below * unit = 2 * unit := by
    rcases below_eq x with h | h <;> simp [h.1]
  refine roundHalfEven_eq hUnit (by omega) (by omega) ?_
  rcases hEnds with hEven | hInside
  · exact Or.inl hEven
  · exact Or.inr (by omega)

/--
Below a power of two a quotient of the interval has one doubling less, and carries. Only a
double that is such a power has an interval that reaches there.
-/
theorem nearest_of_below_power {x : Double} {num den : Nat} (hDen : 0 < den)
    (hCovers : x.interval.Covers (4 * num) den) (hExponent : x.exponent ≠ 0)
    (hReach : num < twoPow 52 * (twoPow x.exponent * den)) :
    nearest x.negative num den = some x := by
  obtain ⟨shift, hShift⟩ := Nat.exists_eq_succ_of_ne_zero hExponent
  have hPower : twoPow x.exponent * den = 2 * (twoPow shift * den) := by
    rw [hShift, Nat.succ_eq_add_one, Nat.add_comm, twoPow_add, Nat.mul_assoc]
    rfl
  have hUnit : 0 < twoPow shift * den := Nat.mul_pos (twoPow_pos _) hDen
  have hHalf : twoPow 52 * (2 * (twoPow shift * den)) = 2 * (twoPow 52 * (twoPow shift * den)) :=
    Nat.mul_left_comm ..
  have hDouble : twoPow 53 * (twoPow shift * den) = 2 * (twoPow 52 * (twoPow shift * den)) :=
    Nat.mul_assoc 2 (twoPow 52) _
  have hLess : twoPow shift * den ≤ twoPow 52 * (twoPow shift * den) :=
    Nat.le_mul_of_pos_left _ (twoPow_pos 52)
  obtain ⟨hLow, hHigh, _⟩ := (covers_interval_iff rfl).1 hCovers
  rw [hPower] at hLow hHigh hReach
  have hMantissa : x.mantissa = twoPow 52 := by
    rcases below_eq x with h | ⟨hBelow, hZero | hLarge⟩
    · exact h.2.1
    · exact absurd hZero hExponent
    · have hNext : (twoPow 52 + 1) * (2 * (twoPow shift * den)) ≤
          x.mantissa * (2 * (twoPow shift * den)) := Nat.mul_le_mul_right _ hLarge
      rw [Nat.succ_mul] at hNext
      rw [hBelow] at hLow
      omega
  have hBelow : x.below = 1 := by simp [below, hMantissa, hExponent]
  rw [hMantissa, hBelow] at hLow
  rw [hMantissa] at hHigh
  refine nearest_of_carry hShift hMantissa (doublings_eq ?_ ?_) ?_
  · rw [twoPow_add, Nat.mul_assoc]
    omega
  · rw [twoPow_add, Nat.mul_assoc]
    omega
  · rw [Nat.mul_comm den]
    exact roundHalfEven_eq hUnit (by omega) (by omega) (Or.inl (by decide))

/-- Every quotient in the interval of a double rounds to it. -/
theorem nearest_of_covers {x : Double} {num den : Nat} (hDen : 0 < den)
    (hCovers : x.interval.Covers (4 * num) den) : nearest x.negative num den = some x := by
  have hHigh := ((covers_interval_iff rfl).1 hCovers).2.1
  have hUnit : 0 < twoPow x.exponent * den := Nat.mul_pos (twoPow_pos _) hDen
  have hProduct : (x.mantissa + 1) * (twoPow x.exponent * den) ≤
      twoPow 53 * (twoPow x.exponent * den) := Nat.mul_le_mul_right _ x.mantissa_lt
  rw [Nat.succ_mul] at hProduct
  by_cases hExponent : x.exponent = 0
  · have hPower : twoPow x.exponent * den = den := by
      rw [hExponent]
      exact Nat.one_mul den
    rw [hPower] at hHigh hProduct
    refine nearest_of_doublings hDen hCovers ?_
    rw [hExponent]
    exact doublings_eq_zero (by omega)
  · by_cases hReach : num < twoPow 52 * (twoPow x.exponent * den)
    · exact nearest_of_below_power hDen hCovers hExponent hReach
    · refine nearest_of_doublings hDen hCovers (doublings_eq ?_ ?_)
      · rw [twoPow_add, Nat.mul_assoc]
        omega
      · rw [twoPow_add, Nat.mul_assoc]
        omega

end Double

/-! ## The search -/

theorem cast_tenPow (k : Nat) : (tenPow k : ℚ) = 10 ^ k := by simp [tenPow]

/-- Powers of ten on both sides of a fraction are one power with a sign. -/
theorem tenPow_toNat (e : Int) :
    (tenPow e.toNat : ℚ) = 10 ^ e * tenPow (-e).toNat := by
  rcases Int.le_total 0 e with h | h
  · obtain ⟨n, rfl⟩ := Int.eq_ofNat_of_zero_le h
    simp [tenPow]
  · obtain ⟨n, rfl⟩ := Int.exists_eq_neg_ofNat h
    simp [tenPow]

namespace Interval

theorem contains_iff {i : Interval} {point : Nat} {e : Int} :
    i.contains point e = true ↔
      i.Covers (point * (tenPow e.toNat * scale)) (tenPow (-e).toNat) := by
  cases hClosed : i.closed <;> simp [contains, Covers, hClosed]
  omega

/-- What the search finds on a grid is on the grid and in the interval. -/
theorem contains_of_onGrid {i : Interval} {e : Int} {x : Scientific} (h : i.onGrid e = some x) :
    i.contains x.coefficient x.exponent = true := by
  simp only [onGrid] at h
  have hFloor := div_le_roundHalfEven (i.value * tenPow (-e).toNat) (tenPow e.toNat * scale)
  have hCeiling := roundHalfEven_le (i.value * tenPow (-e).toNat) (tenPow e.toNat * scale)
  split at h
  · cases h
  · next hBelow _ =>
      cases h
      exact hBelow
  · next _ hAbove =>
      cases h
      exact hAbove
  · next hBelow hAbove =>
      cases h
      obtain hSame | hNext := Nat.eq_or_lt_of_le hFloor
      · rwa [← hSame]
      · rwa [show roundHalfEven _ _ = _ from Nat.le_antisymm hCeiling hNext]

theorem contains_of_lt {i : Interval} {point : Nat} {e : Int}
    (hLow : i.low * tenPow (-e).toNat < point * (tenPow e.toNat * scale))
    (hHigh : point * (tenPow e.toNat * scale) < i.high * tenPow (-e).toNat) :
    i.contains point e = true :=
  contains_iff.2 ⟨Nat.le_of_lt hLow, Nat.le_of_lt hHigh, Or.inr ⟨hLow, hHigh⟩⟩

/--
A grid that is finer than the interval has a point in it: the two points around the value
are less apart than the ends of the interval.
-/
theorem onGrid_ne_none {i : Interval} {e : Int} (hLow : i.low < i.value) (hHigh : i.value < i.high)
    (hFine : tenPow e.toNat * scale < (i.high - i.low) * tenPow (-e).toNat) :
    i.onGrid e ≠ none := by
  have hDown : 0 < tenPow (-e).toNat := tenPow_pos _
  have hStep : 0 < tenPow e.toNat * scale := Nat.mul_pos (tenPow_pos _) (twoPow_pos _)
  have hAboveLow := Nat.mul_lt_mul_of_pos_right hLow hDown
  have hBelowHigh := Nat.mul_lt_mul_of_pos_right hHigh hDown
  have hFloor := Nat.div_mul_le_self (i.value * tenPow (-e).toNat) (tenPow e.toNat * scale)
  have hCeiling := Nat.lt_div_mul_add (a := i.value * tenPow (-e).toNat) hStep
  rw [Nat.sub_mul] at hFine
  have hFound : i.contains (i.value * tenPow (-e).toNat / (tenPow e.toNat * scale)) e = true ∨
      i.contains (i.value * tenPow (-e).toNat / (tenPow e.toNat * scale) + 1) e = true := by
    by_cases hInside : i.low * tenPow (-e).toNat <
        i.value * tenPow (-e).toNat / (tenPow e.toNat * scale) * (tenPow e.toNat * scale)
    · exact Or.inl (contains_of_lt hInside (Nat.lt_of_le_of_lt hFloor hBelowHigh))
    · refine Or.inr (contains_of_lt ?_ ?_)
      · rw [Nat.succ_mul]
        exact Nat.lt_trans hAboveLow hCeiling
      · rw [Nat.succ_mul]
        omega
  intro hNone
  simp only [onGrid] at hNone
  split at hNone
  · next hBelow hAbove => simp [hBelow, hAbove] at hFound
  · cases hNone
  · cases hNone
  · cases hNone

/-- The value reaches the power of ten of its first digit. -/
theorem magnitude_le {i : Interval} (h : scale ≤ i.value * tenPow 330) :
    (10 : ℚ) ^ i.magnitude * scale ≤ i.value := by
  have hScale : 0 < scale := twoPow_pos _
  have hPositive : 1 ≤ i.value * tenPow 330 / scale := (Nat.one_le_div_iff hScale).2 h
  rw [magnitude]
  obtain ⟨n, hLength⟩ : ∃ n, (Nat.toDigits 10 (i.value * tenPow 330 / scale)).length = n + 1 :=
    Nat.exists_eq_succ_of_ne_zero (Nat.ne_of_gt Nat.length_toDigits_pos)
  have hReach : 10 ^ n ≤ i.value * tenPow 330 / scale := by
    cases n with
    | zero => exact hPositive
    | succ n =>
        by_contra hShort
        have hFew := (Nat.length_toDigits_le_iff (by decide) (Nat.succ_pos n)).2
          (Nat.lt_of_not_le hShort)
        omega
  have hProduct : 10 ^ n * scale ≤ i.value * tenPow 330 := (Nat.le_div_iff_mul_le hScale).1 hReach
  have hRational : (10 : ℚ) ^ n * scale ≤ i.value * tenPow 330 := by exact_mod_cast hProduct
  rw [hLength, show ((n + 1 : Nat) : Int) - 331 = n - (330 : Nat) by omega,
    zpow_sub₀ (by norm_num), zpow_natCast, zpow_natCast, ← cast_tenPow 330, div_mul_eq_mul_div,
    div_le_iff₀ (by exact_mod_cast tenPow_pos 330)]
  exact hRational

/-- Seventeen digits are enough for an interval that is not too small a part of its value. -/
theorem contains_shortest {i : Interval} (hLow : i.low < i.value) (hHigh : i.value < i.high)
    (hLeast : scale ≤ i.value * tenPow 330) (hWide : i.value < tenPow 16 * (i.high - i.low)) :
    i.contains i.shortest.coefficient i.shortest.exponent = true := by
  have hFine : tenPow (i.magnitude - 16).toNat * scale <
      (i.high - i.low) * tenPow (-(i.magnitude - 16)).toNat := by
    have hWideRational : (i.value : ℚ) < 10 ^ 16 * (i.high - i.low : Nat) := by
      rw [← cast_tenPow]
      exact_mod_cast hWide
    have hStep : (10 : ℚ) ^ (i.magnitude - 16) * scale < (i.high - i.low : Nat) := by
      rw [zpow_sub₀ (by norm_num), div_mul_eq_mul_div, div_lt_iff₀ (by positivity),
        mul_comm _ (_ ^ _)]
      exact (magnitude_le hLeast).trans_lt hWideRational
    have hDown : (0 : ℚ) < tenPow (-(i.magnitude - 16)).toNat := by exact_mod_cast tenPow_pos _
    have hScaled := mul_lt_mul_of_pos_right hStep hDown
    rw [mul_right_comm, ← tenPow_toNat] at hScaled
    exact_mod_cast hScaled
  have hLast : i.onGrid (i.magnitude - (16 : Nat)) ≠ none := onGrid_ne_none hLow hHigh hFine
  simp only [shortest]
  split
  · next x hFound =>
      obtain ⟨n, _, hGrid⟩ := List.exists_of_findSome?_eq_some hFound
      exact contains_of_onGrid hGrid
  · next hNone =>
      rw [List.findSome?_eq_none_iff] at hNone
      exact absurd (hNone 16 (by decide)) hLast

end Interval

/-! ## Reading a decimal -/

theorem Interval.Covers.congr {i : Interval} {num den num' den' : Nat} (hDen : 0 < den)
    (hDen' : 0 < den') (hSame : num * den' = num' * den) (h : i.Covers num den) :
    i.Covers num' den' := by
  have hLe : ∀ a, a * den ≤ num ↔ a * den' ≤ num' := fun a => by
    rw [← Nat.mul_le_mul_right_iff hDen', hSame, Nat.mul_right_comm, Nat.mul_le_mul_right_iff hDen]
  have hGe : ∀ a, num ≤ a * den ↔ num' ≤ a * den' := fun a => by
    rw [← Nat.mul_le_mul_right_iff hDen', hSame, Nat.mul_right_comm, Nat.mul_le_mul_right_iff hDen]
  simpa only [Interval.Covers, ← Nat.not_le, hLe, hGe] using h

namespace Double

/-- How wide the interval of a double is. -/
theorem width_interval {x : Double} (hNonzero : x.mantissa ≠ 0) :
    x.interval.high - x.interval.low = (2 + x.below) * twoPow x.exponent := by
  have hReach : x.below ≤ 4 * x.mantissa := by rcases below_eq x with h | h <;> omega
  calc x.interval.high - x.interval.low
      = (4 * x.mantissa + 2) * twoPow x.exponent - (4 * x.mantissa - x.below) * twoPow x.exponent :=
        rfl
    _ = (4 * x.mantissa + 2 - (4 * x.mantissa - x.below)) * twoPow x.exponent :=
        (Nat.sub_mul ..).symm
    _ = (2 + x.below) * twoPow x.exponent := by
        congr 1
        omega

/-- Seventeen digits are enough for a double: its interval is not too small a part of it. -/
theorem value_interval_lt {x : Double} (hNonzero : x.mantissa ≠ 0) :
    x.interval.value < tenPow 16 * (x.interval.high - x.interval.low) := by
  have hTen : tenPow 16 = 10000000000000000 := by decide
  rw [width_interval hNonzero, show x.interval.value = 4 * x.mantissa * twoPow x.exponent from rfl,
    hTen, ← Nat.mul_assoc]
  refine Nat.mul_lt_mul_of_pos_right ?_ (twoPow_pos _)
  have hFiftyTwo : twoPow 52 = 4503599627370496 := by decide
  have hFiftyThree : twoPow 53 = 9007199254740992 := by decide
  have hSmall := x.mantissa_lt
  rcases below_eq x with h | h <;> omega

/-- The digits that are searched for lie in the interval of the double. -/
theorem contains_shortest (x : Double) :
    x.interval.contains x.shortest.coefficient x.shortest.exponent = true := by
  rw [shortest]
  by_cases hZero : x.mantissa = 0
  · have hLow : x.interval.low = 0 := by simp [interval, hZero]
    have hClosed : x.interval.closed = true := by simp [interval, hZero]
    rw [show x.isZero = true from decide_eq_true hZero, if_pos rfl, Interval.contains_iff]
    simp [Interval.Covers, hLow, hClosed]
  · rw [show x.isZero = false from decide_eq_false hZero, if_neg Bool.false_ne_true]
    have hPower := twoPow_pos x.exponent
    have hBelow : 4 * x.mantissa - x.below < 4 * x.mantissa := by
      rcases below_eq x with h | h <;> omega
    have hAbove : 4 * x.mantissa < 4 * x.mantissa + 2 := by omega
    have hLeast : Interval.scale ≤ 4 * tenPow 330 := by decide +kernel
    refine Interval.contains_shortest (Nat.mul_lt_mul_of_pos_right hBelow hPower)
      (Nat.mul_lt_mul_of_pos_right hAbove hPower) ?_ (value_interval_lt hZero)
    refine hLeast.trans (Nat.mul_le_mul_right _ ?_)
    calc 4 ≤ 4 * x.mantissa := by omega
      _ ≤ 4 * x.mantissa * twoPow x.exponent := Nat.le_mul_of_pos_right _ hPower

/-- Only zero is written with the digit zero, and then in its own place. -/
theorem shortest_of_coefficient_eq_zero {x : Double} (h : x.shortest.coefficient = 0) :
    x.shortest = ⟨0, 0⟩ := by
  by_cases hZero : x.mantissa = 0
  · rw [shortest, show x.isZero = true from decide_eq_true hZero, if_pos rfl]
  · obtain ⟨hLow, _⟩ := Interval.contains_iff.1 x.contains_shortest
    have hBelow : 0 < 4 * x.mantissa - x.below := by rcases below_eq x with h | h <;> omega
    have hPositive : 0 < x.interval.low := Nat.mul_pos hBelow (twoPow_pos _)
    have hDown := Nat.mul_pos hPositive (tenPow_pos (-x.shortest.exponent).toNat)
    rw [h, Nat.zero_mul] at hLow
    omega

end Double

namespace Scientific

def value (x : Scientific) : ℚ := x.coefficient * 10 ^ x.exponent

def nearest? (negative : Bool) (x : Scientific) : Option Double :=
  Double.nearest negative (x.coefficient * tenPow x.exponent.toNat * twoPow 1074)
    (tenPow (-x.exponent).toNat)

/-- A decimal with the value of the digits that a double is written with is read as this double. -/
theorem nearest?_eq {x : Double} {y : Scientific} (h : y.value = x.shortest.value) :
    y.nearest? x.negative = some x := by
  have hShortest := Interval.contains_iff.1 x.contains_shortest
  refine Double.nearest_of_covers (tenPow_pos _)
    (hShortest.congr (tenPow_pos _) (tenPow_pos _) ?_)
  have hScale : Interval.scale = 4 * twoPow 1074 := twoPow_add 2 1074
  have hSame : (x.shortest.coefficient * (tenPow x.shortest.exponent.toNat * (4 * twoPow 1074)) *
      tenPow (-y.exponent).toNat : ℚ) = 4 * (y.coefficient * tenPow y.exponent.toNat *
      twoPow 1074) * tenPow (-x.shortest.exponent).toNat := by
    simp only [value] at h
    rw [tenPow_toNat x.shortest.exponent, tenPow_toNat y.exponent]
    linear_combination -(4 * (twoPow 1074 : ℚ) * tenPow (-x.shortest.exponent).toNat *
      tenPow (-y.exponent).toNat) * h
  rw [hScale]
  exact_mod_cast hSame

end Scientific

end BlockExtension.Decimal
