import BlockExtension.Decimal.Double

/-!
# The fewest digits that identify a double

Every double stands for an interval of reals, those that round to it: it reaches
half-way to either neighbour, with its ends included exactly when the mantissa
is even. Below a power of two the neighbour is half as far away, and so is that
end. The written form of a double is the decimal with the fewest digits in that
interval; of several with equally few, the nearest; of two equally near, the
even one.

The search is the specification turned into a loop: for one digit, two digits,
and so on, it looks at the value's two neighbours on the decimal grid of that
many digits. All comparisons are exact, by cross multiplication in `Nat`.
-/

namespace BlockExtension.Decimal

/-- A positive decimal, `coefficient · 10^exponent`. -/
structure Scientific where
  coefficient : Nat
  exponent : Int
  deriving DecidableEq, Repr

namespace Scientific

def digits (x : Scientific) : List Char := Nat.toDigits 10 x.coefficient

def leadingExponent (x : Scientific) : Int := x.exponent + x.digits.length - 1

end Scientific

/--
The interval of a positive double, in quarters of a unit: its lower end, the
value itself and its upper end.
-/
structure Interval where
  low : Nat
  value : Nat
  high : Nat
  closed : Bool
  deriving DecidableEq, Repr

/--
The interval of reals that round to a double. Its ends belong to it if the mantissa is even,
and below a power of two it reaches down only half as far.
-/
def Double.interval (x : Double) : Interval :=
  let quarter := twoPow x.exponent
  let below := if x.mantissa = twoPow 52 && x.exponent != 0 then 1 else 2
  { low := (4 * x.mantissa - below) * quarter
    value := 4 * x.mantissa * quarter
    high := (4 * x.mantissa + 2) * quarter
    closed := x.mantissa % 2 = 0 }

namespace Interval

/-- The number of quarters of a unit in one. -/
def scale : Nat := twoPow 1076

/-- `point · 10^exponent` lies in the interval. -/
def contains (i : Interval) (point : Nat) (exponent : Int) : Bool :=
  let up := tenPow exponent.toNat * scale
  let down := tenPow (-exponent).toNat
  let left := i.low * down
  let middle := point * up
  let right := i.high * down
  if i.closed then left ≤ middle && middle ≤ right
  else left < middle && middle < right

/--
The best decimal of the interval on the grid of multiples of `10^exponent`, if it has one.
Of two points around the value that are in it, the nearer one is taken.
-/
def onGrid (i : Interval) (exponent : Int) : Option Scientific :=
  let num := i.value * tenPow (-exponent).toNat
  let den := tenPow exponent.toNat * scale
  let below := num / den
  match i.contains below exponent, i.contains (below + 1) exponent with
  | false, false => none
  | true, false => some ⟨below, exponent⟩
  | false, true => some ⟨below + 1, exponent⟩
  | true, true => some ⟨roundHalfEven num den, exponent⟩

/-- The power of ten of the value's first digit. -/
def magnitude (i : Interval) : Int :=
  (Nat.toDigits 10 (i.value * tenPow 330 / scale)).length - 331

def mostDigits : Nat := 17

/-- The decimal with the fewest digits in the interval. -/
def shortest (i : Interval) : Scientific :=
  let last : Int := i.magnitude
  match (List.range mostDigits).findSome? fun (n : Nat) => i.onGrid (last - (n : Int)) with
  | some x => x
  | none =>
      let exponent := last - (mostDigits - 1 : Nat)
      ⟨i.value * tenPow (-exponent).toNat / (tenPow exponent.toNat * scale), exponent⟩

end Interval

/-- The decimal with the fewest digits that identifies a double's magnitude. -/
def Double.shortest (x : Double) : Scientific :=
  if x.isZero then ⟨0, 0⟩ else x.interval.shortest

end BlockExtension.Decimal
