import BlockExtension.Decimal.Double

/-!
# Doubles of programs

How programs write doubles, and how a machine keeps them.
-/

/-!
## Doubles with a given number of places

The text of a finite double with as many places behind the point as are asked
for, or with as many significant digits. The exact value is rounded once, a half
to the even neighbour.
-/

namespace BlockExtension.Decimal

/-- The decimal digits of a number, with zeros in front up to a length. -/
def padded (length n : Nat) : List Char :=
  let digits := Nat.toDigits 10 n
  List.replicate (length - digits.length) '0' ++ digits

/-- Digits with a point before the last `places` of them. -/
def pointed (places : Nat) (digits : List Char) : List Char :=
  if places = 0 then digits
  else
    let whole := digits.length - places
    digits.take whole ++ '.' :: digits.drop whole

namespace Double

/-- The absolute value with a number of places. -/
def fixed (places : Nat) (x : Double) : List Char :=
  pointed places
    (padded (places + 1) (roundHalfEven (x.units * tenPow places) (twoPow 1074)))

def scaledDigits (x : Double) (power : Int) : Nat :=
  if power < 0 then roundHalfEven x.units (twoPow 1074 * tenPow power.natAbs)
  else roundHalfEven (x.units * tenPow power.natAbs) (twoPow 1074)

/-- The decimal exponent of the first digit; a guess that is corrected `fuel` times at most. -/
def firstExponent (x : Double) : (fuel : Nat) → (guess : Int) → Int
  | 0, guess => guess
  | fuel + 1, guess =>
      let reaches (power : Int) : Bool :=
        if power < 0 then twoPow 1074 ≤ x.units * tenPow power.natAbs
        else twoPow 1074 * tenPow power.natAbs ≤ x.units
      if !reaches guess then firstExponent x fuel (guess - 1)
      else if reaches (guess + 1) then firstExponent x fuel (guess + 1)
      else guess

/-- The digits of the absolute value with a number of places behind the first, and its exponent. -/
def significant (places : Nat) (x : Double) : List Char × Int :=
  if x.isZero then (List.replicate (places + 1) '0', 0)
  else
    let exponent := x.firstExponent 700 0
    let digits := x.scaledDigits ((places : Int) - exponent)
    let text := Nat.toDigits 10 digits
    if text.length = places + 2 then (text.dropLast, exponent + 1) else (text, exponent)

/-- The absolute value with one digit before the point and an exponent behind. -/
def scientific (places : Nat) (letter : Char) (x : Double) : List Char :=
  let (digits, exponent) := x.significant places
  pointed places digits ++ letter :: (if exponent < 0 then '-' else '+') ::
    padded 2 exponent.natAbs

/-- Digits behind a point without the zeros at their end, nor the point if nothing is left. -/
def trimmedPlaces (text : List Char) : List Char :=
  if text.contains '.' then
    ((text.reverse.dropWhile (· = '0')).dropWhile (· = '.')).reverse
  else text

/-- The absolute value in the shorter of both forms, with a number of significant digits. -/
def general (digits : Nat) (letter : Char) (x : Double) : List Char :=
  let digits := max digits 1
  let exponent := (x.significant (digits - 1)).2
  if -4 ≤ exponent && exponent < digits then
    trimmedPlaces (x.fixed ((digits : Int) - 1 - exponent).toNat)
  else
    let text := x.scientific (digits - 1) letter
    let mantissa := text.takeWhile (· ≠ letter)
    trimmedPlaces mantissa ++ text.drop mantissa.length

end Double

end BlockExtension.Decimal

/-!
## Doubles of the machine

A finite double in the exact form, and the sixty-four bits that a machine keeps
it in. The bits are a sign, the exponent, and the mantissa without its first
digit; the exponent of zero and of the numbers too small for a first digit is
zero.
-/

namespace BlockExtension.Decimal.Double

def toBits (x : Double) : UInt64 :=
  let sign := if x.negative then twoPow 63 else 0
  let size :=
    if x.mantissa < twoPow 52 then x.mantissa
    else (x.exponent + 1) * twoPow 52 + (x.mantissa - twoPow 52)
  UInt64.ofNat (sign + size)

def toFloat (x : Double) : Float := Float.ofBits x.toBits

/-- The double that some bits are, unless they stand for no finite number. -/
def ofBits? (bits : UInt64) : Option Double :=
  let n := bits.toNat
  let negative := twoPow 63 ≤ n
  let exponent := n / twoPow 52 % 2048
  let fraction := n % twoPow 52
  if exponent = 2047 then none
  else if exponent = 0 then nearest negative fraction 1
  else nearest negative ((fraction + twoPow 52) * twoPow (exponent - 1)) 1

/-- The exact form of a number of the machine, unless it is no finite number. -/
def ofFloat? (x : Float) : Option Double := ofBits? x.toBits

def wholeSize (x : Double) : Nat := x.units / twoPow 1074

def isWhole (x : Double) : Bool := x.units % twoPow 1074 = 0

def truncated (x : Double) : Int :=
  if x.negative then -(x.wholeSize : Int) else x.wholeSize

end BlockExtension.Decimal.Double
