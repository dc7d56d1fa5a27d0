import BlockExtension.Shell.Doubles
import BlockExtension.Shell.Reader.Words
import BlockExtension.Shell.Utility.Print
import BlockExtension.Shell.Utility.Scanning.Syntax

/-!
# Values of the pattern scanner

A value is a number or a text, and each can stand for the other: a text stands
for the number that it starts with, and a number for its digits. A text that came
from outside counts as a number if it looks like one.
-/

namespace BlockExtension.Shell.Utility.Scanning

open BlockExtension.Shell.Reader (digit? digits)

/-- A value. -/
inductive Cell where
  | unset
  | number (value : Float)
  | text (octets : Octets)
  /-- A text from outside, which is a number if it looks like one. -/
  | input (octets : Octets)

/-! ## Numbers in texts -/

def endless : Float := 1.0 / 0.0

def noNumber : Float := endless - endless

def nearest (num den : Nat) : Float :=
  match Decimal.Double.nearest false (num * Decimal.twoPow 1074) den with
  | some x => x.toFloat
  | none => endless

/-- The exponent behind a letter, and what follows it; nothing if there is none. -/
def exponent? (letter : Char) (text : Octets) : Option (Int × Octets) :=
  match text with
  | e :: behind =>
      if e.toLower = letter then
        let (minus, behind) :=
          match behind with
          | '-' :: rest => (true, rest)
          | '+' :: rest => (false, rest)
          | rest => (false, rest)
        let found := behind.takeWhile Char.isDigit
        if found.isEmpty then none
        else
          let n := min (Octets.valueOf found) 20000
          some (if minus then -(n : Int) else n, behind.drop found.length)
      else none
  | [] => none

def pointedDigits (isDigit : Char → Bool) (text : Octets) : Octets × Octets × Octets :=
  let whole := text.takeWhile isDigit
  match text.drop whole.length with
  | '.' :: behind =>
      let fraction := behind.takeWhile isDigit
      (whole, fraction, behind.drop fraction.length)
  | rest => (whole, [], rest)

def decimal? (text : Octets) : Option (Float × Octets) :=
  let (whole, fraction, rest) := pointedDigits Char.isDigit text
  if whole.isEmpty && fraction.isEmpty then none
  else
    let (exponent, rest) := (exponent? 'e' rest).getD (0, rest)
    let power := exponent - fraction.length
    let n := Octets.valueOf (whole ++ fraction)
    if power = 0 && n < Decimal.twoPow 53 then some (Float.ofNat n, rest)
    else if n = 0 then some (0.0, rest)
    else if power < 0 then some (nearest n (Decimal.tenPow power.natAbs), rest)
    else some (nearest (n * Decimal.tenPow power.natAbs) 1, rest)

def hexadecimal? (text : Octets) : Option (Float × Octets) :=
  let (whole, fraction, rest) := pointedDigits (fun c => (digit? 16 c).isSome) text
  if whole.isEmpty && fraction.isEmpty then none
  else
    let (exponent, rest) := (exponent? 'p' rest).getD (0, rest)
    let power := exponent - 4 * fraction.length
    let n := (whole ++ fraction).foldl (fun total c => total * 16 + (digit? 16 c).getD 0) 0
    if power < 0 then some (nearest n (Decimal.twoPow power.natAbs), rest)
    else some (nearest (n * Decimal.twoPow power.natAbs) 1, rest)

def behindWord? (word : String) (text : Octets) : Option Octets :=
  if text.length < word.length then none
  else if (text.take word.length).map Char.toLower = word.toList then
    some (text.drop word.length)
  else none

/-- The number that a text starts with, and what follows it. -/
def numeral? (text : Octets) : Option (Float × Octets) :=
  let text := text.dropWhile Octets.isSpace
  let (negative, text) :=
    match text with
    | '-' :: rest => (true, rest)
    | '+' :: rest => (false, rest)
    | rest => (false, rest)
  let found :=
    match text with
    | '0' :: x :: rest =>
        if x.toLower = 'x' then (hexadecimal? rest).orElse fun _ => decimal? text
        else decimal? text
    | c :: _ =>
        if c.isDigit || c = '.' then decimal? text
        else
          (((behindWord? "infinity" text).orElse fun _ => behindWord? "inf" text).map
            (endless, ·)).orElse fun _ => (behindWord? "nan" text).map (noNumber, ·)
    | [] => none
  found.map fun (x, rest) => (if negative then -x else x, rest)

def valueOf (text : Octets) : Float := ((numeral? text).map (·.1)).getD 0.0

/-- A text without the blanks at its ends. -/
def trimmed (text : Octets) : Octets :=
  ((text.dropWhile Octets.isSpace).reverse.dropWhile Octets.isSpace).reverse

def wholeNumeral? (text : Octets) : Option Float :=
  let text := trimmed text
  let endsWell := text.getLast?.any fun c => c.isDigit || c = '.'
  let startsWell := text.head?.any fun c => c.isDigit || c = '.' || c = '+' || c = '-'
  if !endsWell || !startsWell then none
  else
    match numeral? text with
    | some (x, []) => if x.isInf then none else some x
    | _ => none

/-! ## Texts of numbers -/

def wholeValue? (x : Float) : Option Int :=
  match Decimal.Double.ofFloat? x with
  | some exact => if exact.isWhole then some exact.truncated else none
  | none => none

def digitBounds : Int × Int := (-9223372036854775808, 18446744073709551615)

/-- The text of a number that no directive can write, if the number is one. -/
def unwritable? (x : Float) : Option Octets :=
  if x.isNaN then some "-nan".toList
  else if x.isInf then some (if x < 0.0 then "-inf".toList else "inf".toList)
  else none

def directed (directive : Print.Directive) (x : Float) : Octets :=
  match Decimal.Double.ofFloat? x with
  | some exact => directive.real exact
  | none =>
      let text := (unwritable? x).getD []
      let text := if text.head? = some '-' then text
        else directive.sign false ++ text
      let text := if ['E', 'G'].contains directive.letter then text.map Char.toUpper else text
      directive.fill false [] text

def directiveIn? (format : Octets) : Option (Octets × Print.Directive × Octets) :=
  let before := format.takeWhile (· ≠ '%')
  match format.drop before.length with
  | '%' :: text =>
      match Print.directive? Print.programVoice text ⟨[], [], [], false, false⟩ with
      | (some directive, rest, _) => some (before, directive, rest)
      | (none, _, _) => none
  | _ => none

def formatted (format : Octets) (x : Float) : Octets :=
  match directiveIn? format with
  | some (before, directive, rest) =>
      if ['d', 'i'].contains directive.letter then
        before ++ directive.signed ((wholeValue? x).getD 0) ++ rest
      else before ++ directed directive x ++ rest
  | none => format

def usualFormat : Octets := "%.6g".toList

/-- The text of a number: its digits if it is whole, and else what a format writes. -/
def textOfNumber (format : Octets) (x : Float) : Octets :=
  match wholeValue? x with
  | some n =>
      let (least, greatest) := digitBounds
      if least ≤ n && n ≤ greatest + 1 then Octets.ofInt (min n greatest) else formatted format x
  | none => (unwritable? x).getD (formatted format x)

def wholeWithin (least greatest : Int) (x : Float) : Int :=
  match Decimal.Double.ofFloat? x with
  | some exact => max least (min greatest exact.truncated)
  | none => if x.isNaN then -9223372036854775808 else if x < 0.0 then least else greatest

namespace Cell

def toNumber : Cell → Float
  | .unset => 0.0
  | .number x => x
  | .text octets => valueOf octets
  | .input octets => valueOf octets

/-- The text that a value stands for; a format writes numbers that are not whole. -/
def toText (format : Octets) : Cell → Octets
  | .unset => []
  | .number x => textOfNumber format x
  | .text octets => octets
  | .input octets => octets

def comparable? : Cell → Option Float
  | .unset => some 0.0
  | .number x => some x
  | .text _ => none
  | .input octets => wholeNumeral? octets

def isTrue : Cell → Bool
  | .unset => false
  | .number x => x != 0.0
  | .text octets => !octets.isEmpty
  | .input octets =>
      match wholeNumeral? octets with
      | some x => x != 0.0
      | none => !octets.isEmpty

def ofBool (holds : Bool) : Cell := .number (if holds then 1.0 else 0.0)

def ofNat (n : Nat) : Cell := .number (Float.ofNat n)

end Cell

def compareTexts : Octets → Octets → Ordering
  | [], [] => .eq
  | [], _ :: _ => .lt
  | _ :: _, [] => .gt
  | a :: left, b :: right =>
      if a < b then .lt else if b < a then .gt else compareTexts left right

def Relation.holdsFor (relation : Relation) (order : Ordering) : Bool :=
  match relation with
  | .equal => order == .eq
  | .unequal => order != .eq
  | .less => order == .lt
  | .lessOrEqual => order != .gt
  | .greater => order == .gt
  | .greaterOrEqual => order != .lt

def Relation.holdsForNumbers (relation : Relation) (x y : Float) : Bool :=
  match relation with
  | .equal => x == y
  | .unequal => x != y
  | .less => x < y
  | .lessOrEqual => x ≤ y
  | .greater => y < x
  | .greaterOrEqual => y ≤ x

def Relation.holds (relation : Relation) (format : Octets) (first second : Cell) : Bool :=
  match first.comparable?, second.comparable? with
  | some x, some y => relation.holdsForNumbers x y
  | _, _ => relation.holdsFor (compareTexts (first.toText format) (second.toText format))

/-- What is left of a division that goes towards zero. -/
def remainderOf (x y : Float) : Float :=
  match Decimal.Double.ofFloat? x, Decimal.Double.ofFloat? y with
  | some a, some b =>
      if b.isZero then noNumber
      else
        match Decimal.Double.nearest a.negative (a.units % b.units) 1 with
        | some found => found.toFloat
        | none => noNumber
  | some _, none => if y.isNaN then y else x
  | none, _ => noNumber

/-- A number without what is behind the point. -/
def towardsZero (x : Float) : Float :=
  if x.isNaN then x else if x < 0.0 then x.ceil else x.floor

/-- The result of an operation on two numbers. -/
def Operation.apply (operation : Operation) (x y : Float) : Float :=
  match operation with
  | .plus => x + y
  | .minus => x - y
  | .times => x * y
  | .quotient => x / y
  | .remainder => remainderOf x y
  | .power => x.pow y

end BlockExtension.Shell.Utility.Scanning
