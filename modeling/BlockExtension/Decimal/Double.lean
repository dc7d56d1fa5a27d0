import BlockExtension.Decimal.Power

/-!
# Finite doubles as exact numbers

A finite binary64 value is a whole multiple of the smallest positive one,
`2⁻¹⁰⁷⁴`, so it is kept as a sign, a mantissa below `2⁵³` and an exponent that
counts doublings of that unit. Arithmetic needs no floating-point unit: the
exact result is a quotient of natural numbers, and `Double.nearest` rounds it
once, to the nearest value, a half to the even neighbour.

## Main results

* `Double` carries its own canonical form, so equal values with equal signs are
  equal terms; `Double.nearest` builds that form.
-/

namespace BlockExtension.Decimal

/-! ## Rounding a quotient -/

/--
The quotient rounded to the nearest natural number. One that lies halfway between two of
them goes to the even one.
-/
def roundHalfEven (num den : Nat) : Nat :=
  let quotient := num / den
  let twice := 2 * (num % den)
  if twice < den then quotient
  else if den < twice then quotient + 1
  else if quotient % 2 = 0 then quotient
  else quotient + 1

theorem div_le_roundHalfEven (num den : Nat) : num / den ≤ roundHalfEven num den := by
  simp only [roundHalfEven]
  split
  · exact Nat.le_refl _
  · split
    · omega
    · split <;> omega

theorem roundHalfEven_le (num den : Nat) : roundHalfEven num den ≤ num / den + 1 := by
  simp only [roundHalfEven]
  split
  · omega
  · split
    · omega
    · split <;> omega

/-! ## The values -/

/--
A finite double: `mantissa · 2^exponent` units of `2⁻¹⁰⁷⁴`, with a sign. A
mantissa below `2⁵²` goes with exponent zero only, so each value has one form.
-/
structure Double where
  negative : Bool
  mantissa : Nat
  exponent : Nat
  mantissa_lt : mantissa < twoPow 53
  normal : exponent = 0 ∨ twoPow 52 ≤ mantissa
  exponent_le : exponent ≤ 2045
  deriving DecidableEq, Repr

namespace Double

/-- The magnitude in units of `2⁻¹⁰⁷⁴`. -/
def units (x : Double) : Nat := x.mantissa * twoPow x.exponent

def zero (negative : Bool) : Double :=
  ⟨negative, 0, 0, by decide, Or.inl rfl, by decide⟩

def isZero (x : Double) : Bool := x.mantissa = 0

def doublings (num den : Nat) : Nat := (num / den).log2 - 52

private theorem mantissa_large {num den : Nat} (h : doublings num den ≠ 0) :
    twoPow 52 ≤ roundHalfEven num (den * twoPow (doublings num den)) := by
  have hPositive : num / den ≠ 0 := by
    intro hZero
    exact h (by simp [doublings, hZero])
  have hLog : 52 + doublings num den = (num / den).log2 := by
    simp only [doublings] at h ⊢
    omega
  have hPow : twoPow (52 + doublings num den) ≤ num / den := by
    rw [hLog]
    exact twoPow_log2_le hPositive
  refine Nat.le_trans ?_ (div_le_roundHalfEven _ _)
  rw [← Nat.div_div_eq_div_mul, Nat.le_div_iff_mul_le (twoPow_pos _), ← twoPow_add]
  exact hPow

/--
The double nearest to `num / den` units, a half to the even mantissa; nothing
when that is beyond the largest finite value.
-/
def nearest (negative : Bool) (num den : Nat) : Option Double :=
  let shift := doublings num den
  let mantissa := roundHalfEven num (den * twoPow shift)
  if hSmall : mantissa < twoPow 53 then
    if hRange : shift ≤ 2045 then
      some ⟨negative, mantissa, shift, hSmall,
        (Decidable.em (shift = 0)).imp id fun h => mantissa_large h, hRange⟩
    else none
  else
    if hRange : shift + 1 ≤ 2045 then
      some ⟨negative, twoPow 52, shift + 1, by decide, Or.inr (Nat.le_refl _), hRange⟩
    else none

def ofNat? (negative : Bool) (n : Nat) : Option Double :=
  nearest negative (n * twoPow 1074) 1

def mul? (x y : Double) : Option Double :=
  nearest (x.negative != y.negative) (x.units * y.units) (twoPow 1074)

/-- The quotient, rounded once; nothing for a zero divisor. -/
def div? (x y : Double) : Option Double :=
  if y.isZero then none
  else nearest (x.negative != y.negative) (x.units * twoPow 1074) y.units

end Double

/-! ## Decimals to doubles -/

def largestPower : Nat := 308

/-- Divides by a power of ten that is itself rounded to a double. -/
def divideOnce (power : Nat) (x : Double) : Option Double :=
  (Double.ofNat? false (tenPow power)).bind x.div?

/-- Divides by the largest power of ten, `steps` times or until nothing is left to divide. -/
def divideRepeatedly : (steps : Nat) → Double → Option Double
  | 0, x => some x
  | steps + 1, x =>
      if x.isZero then some x
      else (divideOnce largestPower x).bind (divideRepeatedly steps)

/--
The double for `significand · 10^exponent`: the significand is rounded to a
double, the power of ten too, and their product or quotient is rounded once
more. A negative exponent below the largest power is taken in steps of that
power first. Nothing when the value is too large.
-/
def scale (negative : Bool) (significand : Nat) (exponent : Int) : Option Double :=
  let power := exponent.natAbs
  match Double.ofNat? negative significand with
  | none => none
  | some x =>
      if exponent < 0 then
        let steps := (power - 1) / largestPower
        (divideRepeatedly steps x).bind (divideOnce (power - steps * largestPower))
      else if power ≤ largestPower then
        (Double.ofNat? false (tenPow power)).bind x.mul?
      else if x.isZero then some x
      else none

end BlockExtension.Decimal
