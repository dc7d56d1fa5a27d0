import BlockExtension.Shell.Utility.Input
import BlockExtension.Shell.Utility.Print

/-!
# Numbers

The programs that take numbers apart, and that write some in a row.
-/

/-!
## Prime factors

The program that writes numbers as products of prime numbers. Small factors are
found by trying; larger ones by walks that come back to where they have been
modulo a factor before they do so modulo the number.
-/

namespace BlockExtension.Shell.Utility.Factors

open Act

/-! ### Small factors -/

/-- The factors from a divisor on that are found by trying, and what is left of a number. -/
def tried : (fuel : Nat) → (divisor : Nat) → Nat → List Nat × Nat
  | 0, _, n => ([], n)
  | fuel + 1, divisor, n =>
      if n < divisor * divisor then ([], n)
      else if n % divisor = 0 then
        let (found, rest) := tried fuel divisor (n / divisor)
        (divisor :: found, rest)
      else tried fuel (divisor + 1) n

/-! ### Large factors -/

def power (modulus : Nat) : (fuel : Nat) → (base exponent : Nat) → Nat
  | 0, _, _ => 1 % modulus
  | fuel + 1, base, exponent =>
      if exponent = 0 then 1 % modulus
      else
        let half := power modulus fuel (base * base % modulus) (exponent / 2)
        if exponent % 2 = 0 then half else half * base % modulus

/-- Squaring a number again and again comes to one less than the modulus. -/
def meets (modulus : Nat) : (steps : Nat) → Nat → Bool
  | 0, _ => false
  | steps + 1, n => n + 1 = modulus || meets modulus steps (n * n % modulus)

def speaksFor (n base : Nat) : Bool :=
  let rec halve : Nat → Nat → Nat × Nat
    | 0, m => (0, m)
    | fuel + 1, m =>
        if m % 2 = 0 && 0 < m then
          let (steps, odd) := halve fuel (m / 2)
          (steps + 1, odd)
        else (0, m)
  let (steps, odd) := halve (n.log2 + 1) (n - 1)
  let start := power n (n.log2 + 1) (base % n) odd
  base % n = 0 || start = 1 || meets n steps start

def seemsPrime (n : Nat) : Bool :=
  2 ≤ n && [2, 3, 5, 7, 11, 13, 17, 19, 23, 29, 31, 37, 41].all (speaksFor n)

/-- A divisor that a walk meets: one walker makes one step where another makes two. -/
def met (n shift : Nat) : (fuel : Nat) → (slow fast : Nat) → Nat
  | 0, _, _ => n
  | fuel + 1, slow, fast =>
      let step (x : Nat) : Nat := (x * x + shift) % n
      let slow := step slow
      let fast := step (step fast)
      let divisor := Nat.gcd (if slow < fast then fast - slow else slow - fast) n
      if divisor = 1 then met n shift fuel slow fast else divisor

def divisor? (n : Nat) : Option Nat :=
  ((List.range 8).map fun shift => met n (shift + 1) 262144 2 2).find? fun divisor =>
    1 < divisor && divisor < n && n % divisor = 0

/-- The factors of a number that has no small ones. -/
def taken : (fuel : Nat) → Nat → List Nat
  | 0, n => [n]
  | fuel + 1, n =>
      if n = 1 then []
      else if seemsPrime n then [n]
      else
        match divisor? n with
        | none => [n]
        | some divisor =>
            if n % divisor = 0 then taken fuel divisor ++ taken fuel (n / divisor) else [n]

def factors (n : Nat) : List Nat :=
  let (small, rest) := tried 4096 2 n
  small ++ taken 256 rest

/-! ### The program -/

/-- Equal factors that follow each other, each with how often it comes. -/
def counted : List Nat → List (Nat × Nat)
  | [] => []
  | n :: rest =>
      match counted rest with
      | (m, count) :: more =>
          if n = m then (m, count + 1) :: more else (n, 1) :: (m, count) :: more
      | [] => [(n, 1)]

/-- The factors of a number as they are written. -/
def shown (withExponents : Bool) (n : Nat) : Octets :=
  let found := if n < 2 then [] else (factors n).mergeSort fun a b => decide (a ≤ b)
  let words := if withExponents then
      (counted found).map fun (factor, count) =>
        Octets.ofNat factor ++ if count = 1 then [] else '^' :: Octets.ofNat count
    else found.map Octets.ofNat
  Octets.ofNat n ++ ':' :: words.flatMap (' ' :: ·)

/-- Writes the factors of numbers; tells whether all were numbers. -/
def showAll (self : Octets) (withExponents : Bool) : List Octets → Act Bool
  | [] => return true
  | word :: rest => do
      let trimmed := word.dropWhile (· = ' ')
      let digits := if trimmed.head? = some '+' then trimmed.drop 1 else trimmed
      match Octets.number? digits with
      | some n =>
          put (shown withExponents n ++ ['\n'])
          showAll self withExponents rest
      | none =>
          complainAs self (quoted word ++ " is not a valid positive integer".toList)
          let _ ← showAll self withExponents rest
          return false

/-- Writes numbers as products of prime numbers. -/
def factor : Program := fun self arguments =>
  withOptions self [switch "exponents" 'h'] true 1 arguments fun given => do
    let words ← if given.operands.isEmpty then do
        match ← readAll 0 with
        | .ok text => pure (wordsOf text)
        | .error _ => pure []
      else pure given.operands
    return if ← showAll self (given.has "exponents") words then 0 else 1
where
  wordsOf (text : Octets) : List Octets :=
    let spaced := text.map fun c => if c = '\t' || c = '\n' || c = '\x00' then ' ' else c
    (Octets.cutAt ' ' spaced).filter (!·.isEmpty)

end BlockExtension.Shell.Utility.Factors

/-!
## Sequences of numbers

The program that writes numbers at equal distances. A number keeps the places
behind its point, and the sequence has as many places as the more exact of its
start and its step; it is computed without rounding.
-/

namespace BlockExtension.Shell.Utility.Sequence

open Act

/-- A number with some places behind its point, and how wide it is written. -/
structure Point where
  /-- The number without its point. -/
  digits : Int
  places : Nat
  width : Nat
  deriving DecidableEq, Repr

namespace Point

def ofText? (text : Octets) : Option Point := do
  let trimmed := text.dropWhile Octets.isSpace
  let trimmed := if trimmed.head? = some '+' then trimmed.drop 1 else trimmed
  let negative := trimmed.head? = some '-'
  let unsigned := if negative then trimmed.drop 1 else trimmed
  let (whole, rest) := unsigned.span Char.isDigit
  let fraction := if rest.head? = some '.' then (rest.drop 1).takeWhile Char.isDigit else []
  let rest := if rest.head? = some '.' then rest.drop (1 + fraction.length) else rest
  if whole.isEmpty && fraction.isEmpty then none
  let exponent : Int ← match rest with
    | [] => some 0
    | e :: behind =>
        if e ≠ 'e' && e ≠ 'E' then none
        else
          match behind with
          | '-' :: digits => (Octets.number? digits).map fun n => -(n : Int)
          | '+' :: digits => (Octets.number? digits).map fun n => (n : Int)
          | digits => (Octets.number? digits).map fun n => (n : Int)
  let n := Octets.valueOf (whole ++ fraction)
  let places := (fraction.length : Int) - exponent
  let grown := if places < 0 then n * Decimal.tenPow places.natAbs else n
  return {
    digits := if negative then -(grown : Int) else grown
    places := places.toNat
    width := trimmed.length }

def unitsOf (point : Point) (places : Nat) : Int :=
  point.digits * Decimal.tenPow (places - point.places)

/-- How wide the number is with a number of places. -/
def widthWith (point : Point) (places : Nat) : Nat :=
  if places = 0 then point.width - (if point.places = 0 then 0 else point.places + 1)
  else if point.places = 0 then point.width + 1 + places
  else point.width + places - point.places

end Point

/-- A number of units as text, with zeros in front up to a width. -/
def shown (places width : Nat) (units : Int) : Octets :=
  let text := Decimal.pointed places (Decimal.padded (places + 1) units.natAbs)
  let sign := if units < 0 then ['-'] else []
  sign ++ List.replicate (width - sign.length - text.length) '0' ++ text

def longest : Nat := 1000000

/-- How many numbers there are from one on in steps up to another. -/
def count (first step last : Int) : Nat :=
  if 0 < step then if last < first then 0 else ((last - first) / step).toNat + 1
  else if first < last then 0 else ((first - last) / -step).toNat + 1

/-- The numbers from one on in steps up to another. -/
def terms (first step last : Int) : List Int :=
  (List.range (min longest (count first step last))).map fun (n : Nat) => first + step * n

/-- What is wrong with a format, if anything is: it must have one directive for a number. -/
def formatProblem? (format : Octets) : Option Octets :=
  let fault (said : String) : Option Octets :=
    some ("format ".toList ++ quoted format ++ (" " ++ said).toList)
  let found := directives format
  match found with
  | [] => fault "has no % directive"
  | [letter] =>
      if ['e', 'f', 'g', 'E', 'F', 'G', 'a', 'A'].contains letter then none
      else if letter = '\x00' then fault "ends in %"
      else fault s!"has unknown %{letter} directive"
  | _ => fault "has too many % directives"
where
  directives : Octets → List Char
    | '%' :: '%' :: rest => directives rest
    | '%' :: rest => (rest.find? fun c => !"-+#0 '.123456789".toList.contains c).getD '\x00' ::
        directives rest
    | _ :: rest => directives rest
    | [] => []

def formatted (format : Octets) (places : Nat) (units : Int) : Octets :=
  (Print.format Print.programVoice format [shown places 0 units]).1.written

def isNegative (argument : Octets) : Bool :=
  match argument with
  | '-' :: c :: _ => c.isDigit || c = '.'
  | _ => false

def withMark : List Octets → List Octets
  | [] => []
  | [only] => if isNegative only then [['-', '-'], only] else [only]
  | first :: second :: rest =>
      if isNegative first then ['-', '-'] :: first :: second :: rest
      else if first = "-s".toList || first = "-f".toList then first :: second :: withMark rest
      else if first.head? = some '-' then first :: withMark (second :: rest)
      else first :: second :: rest

/-- Writes the numbers from one on up to another. -/
def seq : Program := fun self arguments =>
  withOptions self
      [setting "separator" 's', setting "format" 'f', switch "equal-width" 'w'] false 1
      (withMark arguments) fun given => do
    let bad (text : Octets) : Act Nat := do
      complainAs self ("invalid floating point argument: ".toList ++ quoted text)
      pointToHelp self
      return 1
    if given.operands.isEmpty then return ← lackOperand self "operand" none
    if let extra :: _ := given.operands.drop 3 then return ← refuseExtra self extra
    if let some format := given.value? "format" then
      if let some problem := formatProblem? format then
        complainAs self problem
        return 1
      if given.has "equal-width" then
        complainAs self ("format string may not be specified when printing equal width " ++
          "strings").toList
        pointToHelp self
        return 1
    let one : Point := ⟨1, 0, 1⟩
    let endless := given.operands.getLast? = some "inf".toList
    let operands := if endless then given.operands.dropLast ++ ["999999999".toList]
      else given.operands
    if let some text := operands.find? fun text => (Point.ofText? text).isNone then
      return ← bad text
    let (first, step, last) := match operands.filterMap Point.ofText? with
      | [last] => (one, one, last)
      | [first, last] => (first, one, last)
      | [first, step, last] => (first, step, last)
      | _ => (one, one, one)
    if step.digits = 0 then
      complainAs self ("invalid Zero increment value: ".toList ++ quoted (operands[1]?.getD []))
      pointToHelp self
      return 1
    let places := max first.places step.places
    let finest := max places last.places
    let scale : Int := Decimal.tenPow (finest - places)
    let numbers := (terms (first.unitsOf finest) (step.unitsOf finest) (last.unitsOf finest)).map
      (· / scale)
    let width := if given.has "equal-width" then
        max (first.widthWith places) (last.widthWith places)
      else 0
    let texts := numbers.map fun units =>
      match given.value? "format" with
      | some format => formatted format places units
      | none => shown places width units
    let between := (given.value? "separator").getD ['\n']
    if texts.isEmpty then return 0
    finish (Octets.joined between texts ++ ['\n']) true

end BlockExtension.Shell.Utility.Sequence
