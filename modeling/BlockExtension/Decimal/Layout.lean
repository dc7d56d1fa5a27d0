import BlockExtension.Decimal.Shortest

/-!
# How the digits of a decimal are laid out

Which digits a number has is settled by `Double.shortest`; this module writes
them down. A `Layout` is one format's decisions: for which magnitudes the digits
are written in place, and how the exponent looks elsewhere. In place, a number
always has a point with a digit on both sides of it; with an exponent, the point
stands after the first digit and goes away when that digit is the only one.
-/

namespace BlockExtension.Decimal

/-- The decisions of a format for decimals. -/
structure Layout where
  leastInPlace : Int
  firstBeyond : Int
  mark : Char
  signAlways : Bool
  deriving DecidableEq, Repr

/-- The digits without the zeros at their end, but at least one digit. -/
def significantDigits (digits : List Char) : List Char :=
  match (digits.reverse.dropWhile (· = '0')).reverse with
  | [] => ['0']
  | kept => kept

namespace Layout

/-- The digits in place: `leading` is the power of ten of the first one. -/
def inPlace (digits : List Char) (leading : Int) : List Char :=
  if leading < 0 then
    '0' :: '.' :: List.replicate (leading.natAbs - 1) '0' ++ digits
  else
    let whole := leading.natAbs + 1
    let fraction := digits.drop whole
    digits.take whole ++ List.replicate (whole - digits.length) '0' ++
      '.' :: (if fraction.isEmpty then ['0'] else fraction)

def withExponent (layout : Layout) (digits : List Char) (leading : Int) : List Char :=
  let sign := if leading < 0 then ['-'] else if layout.signAlways then ['+'] else []
  let fraction := digits.drop 1
  digits.take 1 ++ (if fraction.isEmpty then [] else '.' :: fraction) ++
    layout.mark :: sign ++ Nat.toDigits 10 leading.natAbs

/-- A double in the format. -/
def write (layout : Layout) (x : Double) : List Char :=
  let shown := x.shortest
  let leading := shown.leadingExponent
  let digits := significantDigits shown.digits
  let body :=
    if layout.leastInPlace ≤ leading && leading < layout.firstBeyond then
      inPlace digits leading
    else layout.withExponent digits leading
  if x.negative then '-' :: body else body

end Layout

end BlockExtension.Decimal
