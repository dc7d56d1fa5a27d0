import BlockExtension.Shell.Utility.Input

/-!
# Octets as numbers and letters

The program that shows the octets of its inputs, row by row. A row can be shown
in several forms, one below the other; the forms that need less room are spread
out, so that what stands for the same octets ends in the same column.
-/

namespace BlockExtension.Shell.Utility.Dump

open Act
open Quotation (unprintable)

/-! ## Forms -/

/-- What some octets in a row are shown as. -/
inductive Kind where
  | character
  | name
  /-- A number in a base that is written with zeros before it. -/
  | digits (base : Nat)
  | unsigned
  | signed
  deriving DecidableEq, Repr

/-- A way of showing a row. -/
structure Form where
  kind : Kind
  /-- How many octets are shown together. -/
  size : Nat
  /-- The row is also shown as text, behind the numbers. -/
  trails : Bool
  deriving DecidableEq, Repr

def inBase (base width n : Nat) : Octets :=
  let digits := Nat.toDigits base n
  List.replicate (width - digits.length) '0' ++ digits

def names : List String :=
  ["nul", "soh", "stx", "etx", "eot", "enq", "ack", "bel", "bs", "ht", "nl", "vt", "ff", "cr",
    "so", "si", "dle", "dc1", "dc2", "dc3", "dc4", "nak", "syn", "etb", "can", "em", "sub", "esc",
    "fs", "gs", "rs", "us", "sp"]

/-- An octet by its name; the highest bit does not count. -/
def nameOf (c : Char) : Octets :=
  let n := c.toNat % 128
  match names[n]? with
  | some name => name.toList
  | none => if n = 127 then "del".toList else [Char.ofNat n]

/-- An octet as a character. -/
def signOf (c : Char) : Octets :=
  match c with
  | '\x00' => ['\\', '0']
  | '\x07' => ['\\', 'a']
  | '\x08' => ['\\', 'b']
  | '\t' => ['\\', 't']
  | '\n' => ['\\', 'n']
  | '\x0b' => ['\\', 'v']
  | '\x0c' => ['\\', 'f']
  | '\r' => ['\\', 'r']
  | c => if unprintable c then inBase 8 3 c.toNat else [c]

namespace Form

def widest (base size : Nat) : Nat := (Nat.toDigits base (Nat.pow 256 size - 1)).length

/-- How wide what stands for some octets can be. -/
def width (form : Form) : Nat :=
  match form.kind with
  | .character => 3
  | .name => 3
  | .digits base => widest base form.size
  | .unsigned => widest 10 form.size
  | .signed => (Nat.toDigits 10 (Nat.pow 256 form.size / 2)).length + 1

/-- The number that octets are together, the first one the lowest. -/
def valueOf (octets : Octets) : Nat := octets.foldr (fun c rest => c.toNat + 256 * rest) 0

/-- What stands for some octets. -/
def shown (form : Form) (octets : Octets) : Octets :=
  match form.kind with
  | .character => octets.flatMap signOf
  | .name => octets.flatMap nameOf
  | .digits base => inBase base form.width (valueOf octets)
  | .unsigned => Octets.ofNat (valueOf octets)
  | .signed =>
      let n := valueOf octets
      let limit := Nat.pow 256 form.size
      Octets.ofInt (if limit / 2 ≤ n then (n : Int) - limit else n)

/-- How many columns a full row of some octets needs. -/
def room (form : Form) (row : Nat) : Nat := row / max 1 form.size * (form.width + 1)

end Form

/-- The room for a field that `left` fields are behind or in, of a spread over all of a row. -/
def spread (pad fields left : Nat) : Nat :=
  pad * left / max 1 fields - pad * (left - 1) / max 1 fields

/-- The fields of a row, one by one; `left` are those that there is room for. -/
def fieldsFrom (form : Form) (pad fields : Nat) : (left : Nat) → Octets → Octets
  | 0, _ => []
  | _, [] => []
  | left + 1, rest =>
      Octets.padLeft (form.width + 1 + spread pad fields (left + 1))
          (form.shown (rest.take form.size)) ++
        fieldsFrom form pad fields left (rest.drop form.size)

/-- A row in one form. -/
def line (form : Form) (size room : Nat) (row : Octets) : Octets :=
  let fields := size / max 1 form.size
  let pad := room - form.room size
  let body := fieldsFrom form pad fields fields row
  if !form.trails then body
  else
    let text := row.map fun c => if unprintable c then '.' else c
    let blank := (size - row.length) / max 1 form.size
    body ++ List.replicate (blank * (form.width + 1) + pad * blank / max 1 fields) ' ' ++
      "  >".toList ++ text ++ ['<']

/-! ## Rows -/

/-- A text in rows of a size; `fuel` is at least as great as the length of the text. -/
def rows (size : Nat) : (fuel : Nat) → Octets → List Octets
  | 0, rest => if rest.isEmpty then [] else [rest]
  | fuel + 1, text =>
      if text.isEmpty then [] else text.take size :: rows size fuel (text.drop size)

/-- How rows are shown. -/
structure Layout where
  forms : List Form
  /-- How many octets are in a row. -/
  size : Nat
  /-- Rows that are like the one before are shown too. -/
  all : Bool
  place : Nat → Octets

/-- A row in all forms, the first one behind its place. -/
def Layout.block (layout : Layout) (offset : Nat) (row : Octets) : Octets :=
  let room := (layout.forms.map fun form => form.room layout.size).foldl max 0
  let place := layout.place offset
  (layout.forms.zipIdx).flatMap fun (form, n) =>
    (if n = 0 then place else place.map fun _ => ' ') ++ line form layout.size room row ++ ['\n']

/-- Rows with their places before them; rows like the one before are shown as one asterisk. -/
def Layout.dumped (layout : Layout) :
    (offset : Nat) → (last : Option Octets) → (starred : Bool) → List Octets → Octets
  | offset, _, _, [] =>
      let place := layout.place offset
      if place.isEmpty then [] else place ++ ['\n']
  | offset, last, starred, row :: rest =>
      let next := offset + row.length
      if !layout.all && last = some row && row.length = layout.size then
        (if starred then [] else ['*', '\n']) ++ layout.dumped next last true rest
      else layout.block offset row ++ layout.dumped next (some row) false rest

/-! ## The program -/

def formsOf (whole : Octets) : (fuel : Nat) → Octets → Except Octets (List Form)
  | 0, _ => .ok []
  | _, [] => .ok []
  | fuel + 1, letter :: rest => do
      let single (kind : Kind) : Except Octets (List Form) := do
        let trails := rest.head? = some 'z'
        let more ← formsOf whole fuel (if trails then rest.drop 1 else rest)
        return ⟨kind, 1, trails⟩ :: more
      let sized (kind : Kind) : Except Octets (List Form) := do
        let digits := rest.takeWhile Char.isDigit
        let (size, rest) := match rest with
          | 'C' :: rest => (1, rest)
          | 'S' :: rest => (2, rest)
          | 'I' :: rest => (4, rest)
          | 'L' :: rest => (8, rest)
          | rest => ((Octets.number? digits).getD 4, rest.drop digits.length)
        if !([1, 2, 4, 8].contains size) then
          throw ("invalid type string ".toList ++ quoted whole ++
            ";\nthis system doesn't provide a ".toList ++ Octets.ofNat size ++
            "-byte integral type".toList)
        let trails := rest.head? = some 'z'
        let more ← formsOf whole fuel (if trails then rest.drop 1 else rest)
        return ⟨kind, size, trails⟩ :: more
      match letter with
      | 'a' => single .name
      | 'c' => single .character
      | 'd' => sized .signed
      | 'o' => sized (.digits 8)
      | 'u' => sized .unsigned
      | 'x' => sized (.digits 16)
      | c =>
          .error ("invalid character ".toList ++ quoted [c] ++ " in type string ".toList ++
            quoted whole)

def usualForms : String → Option String
  | "-a" => some "a"
  | "-b" => some "o1"
  | "-c" => some "c"
  | "-d" => some "u2"
  | "-i" => some "dI"
  | "-l" => some "dL"
  | "-o" => some "o2"
  | "-s" => some "d2"
  | "-x" => some "x2"
  | _ => none

def formsIn (given : Invocation) : Except Octets (List Form) := do
  let texts := given.options.filterMap fun option =>
    if option.word = "format" then option.value
    else (usualForms option.word).map String.toList
  let texts := if texts.isEmpty then ["o2".toList] else texts
  return (← texts.mapM fun text => formsOf text (text.length + 1) text).flatten

def placeOf? (radix : Option Octets) : Option (Nat → Octets) :=
  match radix with
  | none => some (inBase 8 7)
  | some ['o'] => some (inBase 8 7)
  | some ['d'] => some (inBase 10 7)
  | some ['x'] => some (inBase 16 6)
  | some ['n'] => some fun _ => []
  | some _ => none

/-- How many octets are in a row, and what is said if that is not what was asked for. -/
def rowSize (forms : List Form) (given : Invocation) : Nat × Option Octets :=
  let unit := (forms.map (·.size)).foldl max 1
  if !given.has "width" then (max 1 (16 / unit) * unit, none)
  else
    let asked := match given.value? "width" with
      | some text => (amount? text).getD 0
      | none => 32
    if 0 < asked && asked % unit = 0 then (asked, none)
    else
      (unit, some ("warning: invalid width ".toList ++ Octets.ofNat asked ++ "; using ".toList ++
        Octets.ofNat unit ++ " instead".toList))

/-- The options. -/
def rules : List OptionRule :=
  [setting "format" 't', setting "address-radix" 'A', switch "output-duplicates" 'v',
    setting "read-bytes" 'N', setting "skip-bytes" 'j', ⟨"width", some 'w', .perhaps⟩,
    ⟨"traditional", none, .nothing⟩, ⟨"endian", none, .value⟩] ++
  "abcdilosx".toList.map fun c => switch (String.ofList ['-', c]) c

/-- Shows the octets of its inputs. -/
def od : Program := fun self arguments =>
  withOptions self rules true 1 arguments fun given => do
    let complain (text : Octets) : Act Nat := do
      complainAs self text
      return 1
    let some place := placeOf? (given.value? "address-radix")
      | complain ("invalid output address radix ".toList ++
          quoted (((given.value? "address-radix").getD []).take 1) ++
          "; it must be one character from [doxn]".toList)
    if let some text := (given.value? "skip-bytes").filter fun text => (amount? text).isNone then
      return ← complain ("invalid -j argument ".toList ++ quoted text)
    if let some text := (given.value? "read-bytes").filter fun text => (amount? text).isNone then
      return ← complain ("invalid -N argument ".toList ++ quoted text)
    match formsIn given with
    | .error problem => complain problem
    | .ok forms =>
        let (size, warning) := rowSize forms given
        if let some text := warning then complainAs self text
        let (inputs, all) ← readInputs self plainVoice (inputNames given.operands)
        if inputs.isEmpty then return 1
        let text := inputs.flatMap (·.2)
        let skipped := ((given.value? "skip-bytes").bind amount?).getD 0
        if text.length < skipped then
          return ← complain "cannot skip past end of combined input".toList
        let kept := text.drop skipped
        let kept := match (given.value? "read-bytes").bind amount? with
          | some count => kept.take count
          | none => kept
        let layout : Layout := ⟨forms, size, given.has "output-duplicates", place⟩
        finish (layout.dumped skipped none false (rows size (kept.length + 1) kept)) all

end BlockExtension.Shell.Utility.Dump
