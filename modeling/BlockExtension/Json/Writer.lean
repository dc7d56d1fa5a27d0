import BlockExtension.Json.Value
import BlockExtension.Decimal.Layout

/-!
# Writing JSON

The compact form has no white space. The pretty form puts each item of a
non-empty container on a line of its own, two spaces deeper than the container.
A string escapes the quotation mark, the backslash and the characters below
space, and nothing else.
-/

namespace BlockExtension.Json

/-! ## Strings -/

def hexDigit (n : Nat) : Char := Nat.digitChar n

/--
A character as it stands inside a quoted string. All but the quotation mark, the backslash
and control characters stand for themselves.
-/
def escapeChar (c : Char) : List Char :=
  match c with
  | '"' => ['\\', '"']
  | '\\' => ['\\', '\\']
  | '\n' => ['\\', 'n']
  | '\r' => ['\\', 'r']
  | '\t' => ['\\', 't']
  | c =>
      if c.toNat = 0x8 then ['\\', 'b']
      else if c.toNat = 0xC then ['\\', 'f']
      else if c.toNat < 0x20 then
        ['\\', 'u', '0', '0', hexDigit (c.toNat / 16), hexDigit (c.toNat % 16)]
      else [c]

def quoteBody (text : List Char) : List Char := text.flatMap escapeChar

def quote (text : String) : String :=
  String.ofList ('"' :: quoteBody text.toList ++ ['"'])

/-! ## Numbers -/

/--
Doubles from `10⁻⁵` up to below `10¹⁶` are written in place, all others with a
signed exponent.
-/
def numberLayout : Decimal.Layout where
  leastInPlace := -5
  firstBeyond := 16
  mark := 'e'
  signAlways := true

def writeInteger (value : Int) : List Char :=
  if value < 0 then '-' :: Nat.toDigits 10 value.natAbs
  else Nat.toDigits 10 value.natAbs

/-- A number. -/
def Number.write : Number → String
  | .integer value => String.ofList (writeInteger value)
  | .double value => String.ofList (numberLayout.write value)

/-! ## Values -/

mutual

/-- A value without white space. -/
def compact : Json → String
  | .null => "null"
  | .bool true => "true"
  | .bool false => "false"
  | .number value => value.write
  | .string value => quote value
  | .array items => "[" ++ ",".intercalate (compactItems items) ++ "]"
  | .object fields => "\x7b" ++ ",".intercalate (compactFields fields) ++ "\x7d"

def compactItems : List Json → List String
  | [] => []
  | item :: rest => compact item :: compactItems rest

def compactFields : List (String × Json) → List String
  | [] => []
  | (key, value) :: rest => (quote key ++ ":" ++ compact value) :: compactFields rest

end

def lineBreak (indent : Nat) : String := "\n" ++ "".pushn ' ' indent

/-- The parts of a non-empty container, one on each line. -/
def bracketed (opening closing : String) (indent : Nat) (parts : List String) : String :=
  if parts.isEmpty then opening ++ closing
  else
    opening ++ lineBreak (indent + 2) ++
      ("," ++ lineBreak (indent + 2)).intercalate parts ++ lineBreak indent ++ closing

mutual

/-- A value with one item on each line, `indent` spaces deep. -/
def prettyAt (indent : Nat) : Json → String
  | .null => "null"
  | .bool true => "true"
  | .bool false => "false"
  | .number value => value.write
  | .string value => quote value
  | .array items => bracketed "[" "]" indent (prettyItems (indent + 2) items)
  | .object fields => bracketed "\x7b" "\x7d" indent (prettyFields (indent + 2) fields)

/-- The items of an array, each laid out `indent` spaces deep. -/
def prettyItems (indent : Nat) : List Json → List String
  | [] => []
  | item :: rest => prettyAt indent item :: prettyItems indent rest

/-- The fields of an object, each laid out `indent` spaces deep. -/
def prettyFields (indent : Nat) : List (String × Json) → List String
  | [] => []
  | (key, value) :: rest =>
      (quote key ++ ": " ++ prettyAt indent value) :: prettyFields indent rest

end

def pretty (value : Json) : String := prettyAt 0 value

end BlockExtension.Json
