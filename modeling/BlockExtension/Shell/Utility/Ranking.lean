import BlockExtension.Decimal.Power
import BlockExtension.Shell.Octets

/-!
# Orders of texts

The orders that lines and names are put in: by their characters, by numbers in
one of three notations, by months, and by versions.
-/

namespace BlockExtension.Shell.Utility.Ranking

/-! ## Characters -/

def comparedTexts : Octets → Octets → Ordering
  | [], [] => .eq
  | [], _ => .lt
  | _, [] => .gt
  | a :: left, b :: right => if a = b then comparedTexts left right else compare a.toNat b.toNat

/-! ## Numbers -/

/-- A decimal number: its sign, and its digits before and behind the point. -/
structure Numeral where
  negative : Bool
  whole : Octets
  fraction : Octets
  letter : Option Char

/-- The number at the start of a text; a text without one is nought. -/
def Numeral.of (text : Octets) : Numeral :=
  let text := text.dropWhile Octets.isBlank
  let (negative, text) := match text with
    | '-' :: rest => (true, rest)
    | rest => (false, rest)
  let whole := text.takeWhile Char.isDigit
  let rest := text.drop whole.length
  let (fraction, rest) := match rest with
    | '.' :: rest => (rest.takeWhile Char.isDigit, rest.dropWhile Char.isDigit)
    | rest => ([], rest)
  ⟨negative, whole, fraction, rest.head?⟩

def Numeral.value (places : Nat) (number : Numeral) : Int :=
  let size := Octets.valueOf (number.whole ++ number.fraction ++
    List.replicate (places - number.fraction.length) '0')
  if number.negative then -(size : Int) else size

/-- The order of two numbers. -/
def Numeral.compared (a b : Numeral) : Ordering :=
  let places := max a.fraction.length b.fraction.length
  compare (a.value places) (b.value places)

/-- How far a letter behind a number makes it larger, or smaller if it is below nought. -/
def Numeral.magnitude (number : Numeral) : Int :=
  if number.value number.fraction.length = 0 then 0
  else
    let rank : Nat := match number.letter with
      | some 'k' => 1
      | some c => (("KMGTPEZYRQ".toList.idxOf? c).map (· + 1)).getD 0
      | none => 0
    if number.negative then -(rank : Int) else rank

/-- The order of two numbers with letters that multiply them. -/
def Numeral.comparedScaled (a b : Numeral) : Ordering :=
  (compare a.magnitude b.magnitude).then (a.compared b)

/-! ## Numbers with exponents -/

/-- What a text is as a number of the general notation. -/
inductive General where
  | none
  | undefined
  | infinite (negative : Bool)
  /-- A whole number times a power of ten. -/
  | finite (digits : Int) (power : Int)
  deriving DecidableEq, Repr

def exponent : Octets → Int
  | c :: rest =>
      if c ≠ 'e' && c ≠ 'E' then 0
      else
        let (negative, digits) := match rest with
          | '-' :: rest => (true, rest)
          | '+' :: rest => (false, rest)
          | rest => (false, rest)
        let size := min 20000 (Octets.valueOf (digits.takeWhile Char.isDigit))
        if negative then -(size : Int) else size
  | [] => 0

def hexDigit? (c : Char) : Option Nat :=
  if c.isDigit then some (c.toNat - '0'.toNat)
  else if 'a' ≤ c.toLower && c.toLower ≤ 'f' then some (c.toLower.toNat - 'a'.toNat + 10)
  else Option.none

/-- The number at the start of a text. -/
def General.of (text : Octets) : General :=
  let text := text.dropWhile Octets.isSpace
  let (negative, text) := match text with
    | '-' :: rest => (true, rest)
    | '+' :: rest => (false, rest)
    | rest => (false, rest)
  let signed (size : Nat) : Int := if negative then -(size : Int) else size
  let lower := (text.take 3).map Char.toLower
  if lower = "inf".toList then .infinite negative
  else if lower = "nan".toList then .undefined
  else
    let hex := (text.drop 2).map hexDigit?
    match text.take 2, hex.takeWhile (·.isSome) with
    | ['0', 'x'], digits@(_ :: _) =>
        .finite (signed ((digits.filterMap id).foldl (fun n digit => n * 16 + digit) 0)) 0
    | _, _ =>
        let whole := text.takeWhile Char.isDigit
        let rest := text.drop whole.length
        let (fraction, rest) := match rest with
          | '.' :: rest => (rest.takeWhile Char.isDigit, rest.dropWhile Char.isDigit)
          | rest => ([], rest)
        if whole.isEmpty && fraction.isEmpty then .none
        else .finite (signed (Octets.valueOf (whole ++ fraction)))
          (exponent rest - fraction.length)

/-- The place of a kind of number before or behind the others. -/
def General.rank : General → Nat
  | .none => 0
  | .undefined => 1
  | .infinite true => 2
  | .finite .. => 3
  | .infinite false => 4

/-- The order of two numbers of the general notation. -/
def General.compared (a b : General) : Ordering :=
  match a, b with
  | .finite x p, .finite y q =>
      let least := min p q
      let grown (n power : Int) : Int := n * Decimal.tenPow (power - least).toNat
      if x = 0 || y = 0 then compare x y else compare (grown x p) (grown y q)
  | a, b => compare a.rank b.rank

/-! ## Months -/

def months : List String :=
  ["JAN", "FEB", "MAR", "APR", "MAY", "JUN", "JUL", "AUG", "SEP", "OCT", "NOV", "DEC"]

def monthOf (text : Octets) : Nat :=
  let name := String.ofList (((text.dropWhile Octets.isBlank).take 3).map Char.toUpper)
  ((months.idxOf? name).map (· + 1)).getD 0

/-! ## Versions -/

/-- The place of a character in the order of versions; the end stands before most. -/
def versionRank : Octets → Int
  | [] => -1
  | c :: _ =>
      if c.isDigit then 0
      else if c.isAlpha then c.toNat
      else if c = '~' then -2
      else c.toNat + 256

/-- The order of two texts up to the first digits that both have next, and what is left. -/
def comparedBeforeDigits : (fuel : Nat) → Octets → Octets → Ordering × Octets × Octets
  | 0, a, b => (.eq, a, b)
  | fuel + 1, a, b =>
      let startsPlain (text : Octets) : Bool := text.head?.any (!·.isDigit)
      if !startsPlain a && !startsPlain b then (.eq, a, b)
      else if versionRank a = versionRank b then comparedBeforeDigits fuel (a.drop 1) (b.drop 1)
      else (compare (versionRank a) (versionRank b), a, b)

/-- The order of two texts in which numbers count as such. -/
def comparedStretches : (fuel : Nat) → Octets → Octets → Ordering
  | 0, _, _ => .eq
  | fuel + 1, a, b =>
      if a.isEmpty && b.isEmpty then .eq
      else
        match comparedBeforeDigits (a.length + b.length + 1) a b with
        | (.eq, a, b) =>
            let number (text : Octets) : Nat := Octets.valueOf (text.takeWhile Char.isDigit)
            let behind (text : Octets) : Octets := text.dropWhile Char.isDigit
            (compare (number a) (number b)).then (comparedStretches fuel (behind a) (behind b))
        | (order, _, _) => order

/-- The lengths of endings of a text that are made of points, each with letters behind it. -/
def endingLength (text : Octets) : Nat :=
  let isEnding (piece : Octets) : Bool :=
    match piece with
    | [] => false
    | c :: rest => (c.isAlpha || c = '~') && rest.all fun c => c.isAlphanum || c = '~'
  match (Octets.cutAt '.' text).reverse with
  | [] => 0
  | pieces =>
      let endings := (pieces.dropLast).takeWhile isEnding
      (endings.map (·.length + 1)).foldl (· + ·) 0

/-- The order of two names by the versions in them; what looks like an ending counts last. -/
def comparedVersions (a b : Octets) : Ordering :=
  let whole (a b : Octets) : Ordering := comparedStretches (a.length + b.length + 1) a b
  let dots (text : Octets) : Nat :=
    if text = ['.'] then 0
    else if text = ['.', '.'] then 1
    else if text.head? = some '.' then 2
    else 3
  if a.isEmpty || b.isEmpty then compare a.length b.length
  else if dots a ≠ dots b then compare (dots a) (dots b)
  else if dots a < 2 then .eq
  else
    let trimmed (text : Octets) : Octets :=
      let kept := text.take (text.length - endingLength text)
      if kept.isEmpty then text.take 1 else kept
    (whole (trimmed a) (trimmed b)).then (whole a b)

end BlockExtension.Shell.Utility.Ranking
