import BlockExtension.Association
import BlockExtension.Shell.Octets

/-!
# Variables

What variables hold, and how that is written so that a shell reads it back.
-/

/-!
## Quotation

How a text is written so that a shell reads it back as that text: between single
or double quotation marks, with backslashes, or with a dollar sign and escapes
for what cannot be printed.
-/

namespace BlockExtension.Shell.Quotation

def unprintable (c : Char) : Bool := c < ' ' || '\x7f' ≤ c

/-- An unprintable character behind a backslash. -/
def escapedOctet (c : Char) : Octets :=
  match c with
  | '\x07' => ['\\', 'a']
  | '\x08' => ['\\', 'b']
  | '\t' => ['\\', 't']
  | '\n' => ['\\', 'n']
  | '\x0b' => ['\\', 'v']
  | '\x0c' => ['\\', 'f']
  | '\r' => ['\\', 'r']
  | c => '\\' :: [c.toNat / 64, c.toNat / 8 % 8, c.toNat % 8].flatMap Octets.ofNat

def escaped (text : Octets) : Octets :=
  "$'".toList ++ (text.flatMap fun c =>
    if c = '\'' || c = '\\' then ['\\', c]
    else if c = '\x1b' then ['\\', 'E']
    else if unprintable c then escapedOctet c
    else [c]) ++ ['\'']

def single (text : Octets) : Octets :=
  '\'' :: (text.flatMap fun c => if c = '\'' then "'\\''".toList else [c]) ++ ['\'']

def double (text : Octets) : Octets :=
  '"' :: (text.flatMap fun c =>
    if ['"', '$', '\x60', '\\'].contains c then ['\\', c] else [c]) ++ ['"']

/-- A text between quotation marks, or with escapes if it cannot be printed. -/
def reusable (text : Octets) : Octets :=
  if text.any unprintable then escaped text else single text

def declared (text : Octets) : Octets :=
  if text.any unprintable then escaped text else double text

/-- A character that has a meaning to a shell, or would be lost between words. -/
def isSpecial (c : Char) : Bool := " \t\n!\"$&'()*,;<>?[\\]^\x60\x7b|\x7d".toList.contains c

/-- A text with a backslash before what has a meaning to a shell. -/
def guardedFrom : (before : Option Char) → Octets → Octets
  | _, [] => []
  | before, c :: rest =>
      let isStart := before.isNone && (c = '#' || c = '~')
      let isHome := c = '~' && (before = some ':' || before = some '=')
      (if isStart || isHome || isSpecial c then ['\\', c] else [c]) ++ guardedFrom (some c) rest

def asWord (text : Octets) : Octets :=
  if text.isEmpty then ['\'', '\'']
  else if text.any unprintable then escaped text
  else guardedFrom none text

def isMeaningful (text : Octets) : Bool :=
  text.any (fun c => c ≠ ',' && isSpecial c) || text.head? = some '#' || text.head? = some '~'

/-- A text as a list of all variables has it: quoted if it must be. -/
def plainest (text : Octets) : Octets :=
  if text.any unprintable then escaped text
  else if isMeaningful text then single text
  else text

/-- A key as a list has it: quoted if it must be. -/
def key (text : Octets) : Octets :=
  if text.any unprintable then escaped text
  else if isMeaningful text || text.isEmpty then double text
  else text

end BlockExtension.Shell.Quotation

/-!
## Variables

A variable holds a text, or a row of texts that are numbered, or a table of
texts that have keys. A row may have gaps and is kept in ascending order. A table
is kept in the order of the places that its keys are given, whatever the order in
which they came.
-/

namespace BlockExtension.Shell

/-! ### Rows and tables -/

/-- Texts with numbers. -/
abbrev Row := List (Nat × Octets)

/-- Texts with keys. -/
abbrev Table := List (Octets × Octets)

namespace Row

def numbered (n : Nat) (text : Octets) : Row → Row
  | [] => [(n, text)]
  | (m, old) :: rest =>
      if n < m then (n, text) :: (m, old) :: rest
      else if n = m then (n, text) :: rest
      else (m, old) :: numbered n text rest

def ofTexts (first : Nat) : List Octets → Row
  | [] => []
  | text :: rest => (first, text) :: ofTexts (first + 1) rest

def next (row : Row) : Nat := (row.getLast?.map fun entry => entry.1 + 1).getD 0

end Row

namespace Table

def placeCount : Nat := 1024

def place (key : Octets) : Nat :=
  let scrambled := key.foldl (fun (sum : UInt32) c =>
    let octet := UInt32.ofNat c.toNat
    (sum * 16777619) ^^^ (if c < '\x80' then octet else octet ||| 0xffffff00)) 2166136261
  scrambled.toNat % placeCount

/-- Writes a key that is not there, before those whose places do not come earlier. -/
def seated (key text : Octets) : Table → Table
  | [] => [(key, text)]
  | (other, old) :: rest =>
      if place key ≤ place other then (key, text) :: (other, old) :: rest
      else (other, old) :: seated key text rest

def keyed (key text : Octets) (table : Table) : Table :=
  if (table.lookup key).isSome then Association.put table key text else seated key text table

end Table

/-! ### Values -/

/-- What kind of value a variable holds. -/
inductive Shape where
  | single
  | row
  | table
  deriving DecidableEq, Repr

/-- The value of a variable. -/
inductive Value where
  | single (text : Octets)
  | row (row : Row)
  | table (table : Table)
  deriving DecidableEq, Repr

namespace Value

/-- The kind of a value. -/
def shape : Value → Shape
  | .single _ => .single
  | .row _ => .row
  | .table _ => .table

def ofTexts (texts : List Octets) : Value := .row (Row.ofTexts 0 texts)

def text? : Value → Option Octets
  | .single text => some text
  | .row entries => entries.lookup 0
  | .table entries => entries.lookup ['0']

/-- The texts of a value. -/
def items : Value → List Octets
  | .single text => [text]
  | .row entries => entries.map (·.2)
  | .table entries => entries.map (·.2)

/-- What the texts of a value are found by. -/
def keys : Value → List Octets
  | .single _ => [['0']]
  | .row entries => entries.map fun entry => Octets.ofNat entry.1
  | .table entries => entries.map (·.1)

/-- A value as a row. -/
def toRow : Value → Row
  | .single text => [(0, text)]
  | .row entries => entries
  | .table _ => []

/-- A value with its texts changed. -/
def map (change : Octets → Octets) : Value → Value
  | .single text => .single (change text)
  | .row entries => .row (entries.map fun entry => (entry.1, change entry.2))
  | .table entries => .table (entries.map fun entry => (entry.1, change entry.2))

def withText (text : Octets) : Value → Value
  | .single _ => .single text
  | .row entries => .row (entries.numbered 0 text)
  | .table entries => .table (entries.keyed ['0'] text)

end Value

/-- A variable. It may have been declared without having a value. -/
structure Variable where
  value : Option Value
  exported : Bool
  isFixed : Bool
  /-- The kind of value that it will have. -/
  shape : Shape
  /-- Texts that are assigned to it are expressions. -/
  isNumber : Bool
  /-- The case that letters assigned to it get: true for capital ones. -/
  recasing : Option Bool
  /-- It stands for the variable that its text names. -/
  refers : Bool
  deriving DecidableEq, Repr

namespace Variable

def blank : Variable := ⟨none, false, false, .single, false, none, false⟩

def ofText (text : Octets) (exported : Bool) : Variable :=
  { blank with value := some (.single text), exported }

def cased (entry : Variable) (text : Octets) : Octets :=
  match entry.recasing with
  | none => text
  | some true => text.map Char.toUpper
  | some false => text.map Char.toLower

end Variable

abbrev Variables := List (Octets × Variable)

/-!
## Declarations

How a variable is written as the command that would declare it, with its value
in quotation marks.
-/

/-- The letters of what is said of a variable. -/
def Variable.flags (entry : Variable) : Octets :=
  let shape := match entry.shape with
    | .single => []
    | .row => ['a']
    | .table => ['A']
  let casing := match entry.recasing with
    | none => []
    | some true => ['u']
    | some false => ['l']
  shape ++ (if entry.isNumber then ['i'] else []) ++ (if entry.refers then ['n'] else []) ++
    (if entry.isFixed then ['r'] else []) ++ (if entry.exported then ['x'] else []) ++ casing

def Variable.options (entry : Variable) : Octets :=
  if entry.flags.isEmpty then "--".toList else '-' :: entry.flags

/-- A value as a declaration has it; lists stand between parentheses. -/
def Value.declared : Value → Octets
  | .single text => Quotation.declared text
  | .row entries =>
      '(' :: Octets.joined [' '] (entries.map fun (n, text) =>
        '[' :: Octets.ofNat n ++ "]=".toList ++ Quotation.declared text) ++ [')']
  | .table entries =>
      '(' :: (entries.flatMap fun (key, text) =>
        '[' :: Quotation.key key ++ "]=".toList ++ Quotation.declared text ++ [' ']) ++ [')']

def Variable.declaration (name : Octets) (entry : Variable) : Octets :=
  "declare ".toList ++ entry.options ++ ' ' :: name ++ match entry.value with
    | some value => '=' :: value.declared
    | none => []

def Variable.shownPlainly (name : Octets) (entry : Variable) : Octets :=
  name ++ '=' :: match entry.value with
    | some (.single text) => Quotation.plainest text
    | some value => value.declared
    | none => []

/-- The command that would give a variable a text again, if it has one. -/
def Variable.reassignment (name : Octets) (text : Option Octets) (entry : Variable) : Octets :=
  let start := if entry.flags.isEmpty then [] else "declare ".toList ++ entry.options ++ [' ']
  match text with
  | some text => start ++ name ++ '=' :: Quotation.reusable text
  | none => if entry.flags.isEmpty then [] else start ++ name

end BlockExtension.Shell
