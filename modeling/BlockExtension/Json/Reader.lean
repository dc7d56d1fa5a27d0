import BlockExtension.Json.Value

/-!
# Reading JSON

A strict reader: blanks are space, tab, line feed and carriage return; no
comments, no commas before a closing bracket, nothing after the document. Strings
hold no raw character below space, and `\u` escapes come in whole surrogate
pairs or not at all. Containers nest to a depth that the caller sets. A document
is first read as it is written (`written?`); a key that an object repeats is
settled afterwards.

An integer that fits 64 bits, signed or not, stays an integer. Any other number
becomes a double: digits go into a 64-bit significand as long as they fit, the
others count as powers of ten, and `Decimal.scale` does the rest. Minus zero is
a double too, since no integer has its sign.
-/

namespace BlockExtension.Json.Reader

/-! ## Blanks, words and digits -/

def isBlank (c : Char) : Bool := c = ' ' || c = '\t' || c = '\n' || c = '\r'

def blanks (text : List Char) : List Char := text.dropWhile isBlank

def word : List Char → List Char → Option (List Char)
  | [], text => some text
  | _ :: _, [] => none
  | expected :: more, c :: text => if c = expected then word more text else none

def digitValue (c : Char) : Nat := c.toNat - '0'.toNat

def hexValue (c : Char) : Option Nat :=
  if '0' ≤ c && c ≤ '9' then some (c.toNat - '0'.toNat)
  else if 'a' ≤ c && c ≤ 'f' then some (c.toNat - 'a'.toNat + 10)
  else if 'A' ≤ c && c ≤ 'F' then some (c.toNat - 'A'.toNat + 10)
  else none

def unit (a b c d : Char) : Option Nat := do
  return ((← hexValue a) * 0x1000 + (← hexValue b) * 0x100) +
    ((← hexValue c) * 0x10 + (← hexValue d))

/-! ## Strings -/

def isHighSurrogate (unit : Nat) : Bool := 0xD800 ≤ unit && unit < 0xDC00

def isLowSurrogate (unit : Nat) : Bool := 0xDC00 ≤ unit && unit < 0xE000

def pairChar (high low : Nat) : Char :=
  Char.ofNat (0x10000 + (high - 0xD800) * 0x400 + (low - 0xDC00))

/-- The character that a backslash and a letter stand for. -/
def shortEscape : Char → Option Char
  | '"' => some '"'
  | '\\' => some '\\'
  | '/' => some '/'
  | 'b' => some (Char.ofNat 0x8)
  | 'f' => some (Char.ofNat 0xC)
  | 'n' => some '\n'
  | 'r' => some '\r'
  | 't' => some '\t'
  | _ => none

/-- A character in front of what was read after it. -/
def consTo (c : Char) (read : Option (List Char × List Char)) :
    Option (List Char × List Char) :=
  read.map fun (text, rest) => (c :: text, rest)

/-- The text of a string whose opening quotation mark is read, and what follows the closing one. -/
def stringBody : List Char → Option (List Char × List Char)
  | [] => none
  | '"' :: rest => some ([], rest)
  | '\\' :: 'u' :: a :: b :: c :: d :: rest =>
      match unit a b c d with
      | none => none
      | some first =>
          if isHighSurrogate first then
            match rest with
            | '\\' :: 'u' :: e :: f :: g :: h :: rest =>
                match unit e f g h with
                | none => none
                | some second =>
                    if isLowSurrogate second then
                      consTo (pairChar first second) (stringBody rest)
                    else none
            | _ => none
          else if isLowSurrogate first then none
          else consTo (Char.ofNat first) (stringBody rest)
  | '\\' :: c :: rest =>
      match shortEscape c with
      | none => none
      | some escaped => consTo escaped (stringBody rest)
  | c :: rest => if c.toNat < 0x20 then none else consTo c (stringBody rest)

/-! ## Numbers -/

/--
Takes digits into a significand while it fits 64 bits; the second part counts
those left over.
-/
def absorb (significand : Nat) : List Char → Nat × Nat
  | [] => (significand, 0)
  | c :: rest =>
      let next := significand * 10 + digitValue c
      if next < Decimal.twoPow 64 then absorb next rest else (significand, rest.length + 1)

def digitRun (text : List Char) : List Char × List Char :=
  (text.takeWhile Char.isDigit, text.dropWhile Char.isDigit)

/-- The digits of a whole part: one zero, or digits that start with no zero. -/
def wholePart (text : List Char) : Option (List Char × List Char) :=
  match digitRun text with
  | ([], _) => none
  | ('0' :: _ :: _, _) => none
  | run => some run

/-- The digits after a point, if there is a point; a point needs digits. -/
def fractionPart : List Char → Option (Option (List Char) × List Char)
  | '.' :: text =>
      match digitRun text with
      | ([], _) => none
      | (digits, rest) => some (some digits, rest)
  | text => some (none, text)

/-- The digits of an exponent with their sign. -/
def signedDigits (text : List Char) : Option (Int × List Char) :=
  let value (digits : List Char) : Nat :=
    digits.foldl (fun total c => total * 10 + digitValue c) 0
  let (negative, text) :=
    match text with
    | '-' :: text => (true, text)
    | '+' :: text => (false, text)
    | text => (false, text)
  match digitRun text with
  | ([], _) => none
  | (digits, rest) => some (if negative then -(value digits : Int) else value digits, rest)

/-- The exponent, if there is a mark for one; a mark needs digits. -/
def exponentPart : List Char → Option (Option Int × List Char)
  | 'e' :: text => (signedDigits text).map fun (value, rest) => (some value, rest)
  | 'E' :: text => (signedDigits text).map fun (value, rest) => (some value, rest)
  | text => some (none, text)

/-- The number that the parts of a literal denote; nothing if it is too large. -/
def numberOf (negative : Bool) (whole : List Char) (fraction : Option (List Char))
    (exponent : Option Int) : Option Number :=
  let (significand, beyond) := absorb 0 whole
  let isInteger := fraction.isNone && exponent.isNone && beyond = 0
  if isInteger && !negative then some (.integer significand)
  else if isInteger && 0 < significand && significand ≤ Decimal.twoPow 63 then
    some (.integer (-(significand : Int)))
  else
    let digits := fraction.getD []
    let (significand, unused) := absorb significand digits
    let exponent : Int := exponent.getD 0 + beyond - (digits.length - unused : Nat)
    (Decimal.scale negative significand exponent).map .double

/-- A number at the start of a text. -/
def number (text : List Char) : Option (Number × List Char) :=
  let (negative, text) :=
    match text with
    | '-' :: text => (true, text)
    | text => (false, text)
  match wholePart text with
  | none => none
  | some (whole, text) =>
    match fractionPart text with
    | none => none
    | some (fraction, text) =>
      match exponentPart text with
      | none => none
      | some (exponent, text) =>
          (numberOf negative whole fraction exponent).map fun value => (value, text)

/-! ## Values -/

mutual

/--
A value at the start of a text, with containers nested at most `depth` deep, and what
follows it; nothing if no value stands there.
-/
def value : (fuel depth : Nat) → List Char → Option (Json × List Char)
  | 0, _, _ => none
  | fuel + 1, depth, text =>
      match blanks text with
      | '"' :: rest =>
          (stringBody rest).map fun (body, rest) => (.string (String.ofList body), rest)
      | '[' :: rest =>
          match depth with
          | 0 => none
          | depth + 1 =>
              match blanks rest with
              | ']' :: rest => some (.array [], rest)
              | rest =>
                  (items fuel depth rest).map fun (found, rest) => (.array found, rest)
      | '\x7b' :: rest =>
          match depth with
          | 0 => none
          | depth + 1 =>
              match blanks rest with
              | '\x7d' :: rest => some (.object [], rest)
              | rest =>
                  (fields fuel depth rest).map fun (found, rest) => (.object found, rest)
      | 'n' :: rest => (word ['u', 'l', 'l'] rest).map fun rest => (.null, rest)
      | 't' :: rest => (word ['r', 'u', 'e'] rest).map fun rest => (.bool true, rest)
      | 'f' :: rest => (word ['a', 'l', 's', 'e'] rest).map fun rest => (.bool false, rest)
      | rest => (number rest).map fun (read, rest) => (.number read, rest)

/-- The items of an array up to its closing bracket. -/
def items : (fuel depth : Nat) → List Char → Option (List Json × List Char)
  | 0, _, _ => none
  | fuel + 1, depth, text =>
      match value fuel depth text with
      | none => none
      | some (item, rest) =>
          match blanks rest with
          | ',' :: rest => (items fuel depth rest).map fun (more, rest) => (item :: more, rest)
          | ']' :: rest => some ([item], rest)
          | _ => none

/--
The fields of an object up to its closing bracket, as they are written. A key may be there
more than once.
-/
def fields : (fuel depth : Nat) → List Char → Option (List (String × Json) × List Char)
  | 0, _, _ => none
  | fuel + 1, depth, text =>
      match blanks text with
      | '"' :: rest =>
          match stringBody rest with
          | none => none
          | some (key, rest) =>
              match blanks rest with
              | ':' :: rest =>
                  match value fuel depth rest with
                  | none => none
                  | some (item, rest) =>
                      let field := (String.ofList key, item)
                      match blanks rest with
                      | ',' :: rest =>
                          (fields fuel depth rest).map fun (more, rest) => (field :: more, rest)
                      | '\x7d' :: rest => some ([field], rest)
                      | _ => none
              | _ => none
      | _ => none

end

end Reader

def nestingLimit : Nat := 127

/--
A document as it is written, with every field of its objects, if its containers
nest at most `depth` deep; nothing if it is malformed.
-/
def written? (depth : Nat) (text : String) : Option Json :=
  let chars := text.toList
  match Reader.value (2 * chars.length + 2) depth chars with
  | some (value, rest) => if (Reader.blanks rest).isEmpty then some value else none
  | none => none

/--
The value of a document whose containers nest at most `depth` deep; nothing if
it is malformed.
-/
def parse? (depth : Nat) (text : String) : Option Json := (written? depth text).map settle

end BlockExtension.Json
