import BlockExtension.Shell.Utility.Input

/-!
# Programs for the columns of lines

The programs that take parts out of lines, put lines side by side, and break
lines that are too long.
-/

namespace BlockExtension.Shell.Utility

open Act

/-! ## Parts of lines -/

namespace Cutting

/-- A range of columns, counted from one; without an end it goes on. -/
abbrev Range := Nat × Option Nat

/-- A column is in one of some ranges. -/
def isIn (ranges : List Range) (column : Nat) : Bool :=
  ranges.any fun (first, last) => first ≤ column && last.all (column ≤ ·)

/-- What a list of columns is called in a complaint. -/
structure ListVoice where
  zero : String
  value : String

def range? (voice : ListVoice) (text : Octets) : Except Octets Range :=
  let invalid := .error (voice.value.toList ++ quoted text)
  match Octets.cutAt '-' text with
  | [only] =>
      match Octets.number? only with
      | some 0 => .error voice.zero.toList
      | some n => .ok (n, some n)
      | none => if only.isEmpty then .error voice.zero.toList else invalid
  | [[], []] => .error "invalid range with no endpoint: -".toList
  | [first, last] =>
      let start := if first.isEmpty then some 1 else Octets.number? first
      match start, Octets.number? last with
      | some 0, _ => .error voice.zero.toList
      | some a, some b =>
          if b < a then .error "invalid decreasing range".toList else .ok (a, some b)
      | some a, none => if last.isEmpty then .ok (a, none) else invalid
      | none, _ => invalid
  | _ => .error (if voice.zero.startsWith "f" then "invalid field range".toList
      else "invalid byte or character range".toList)

def tooLarge? (text : Octets) : Option Octets :=
  let numbers := (Octets.cutAt ',' text).flatMap fun piece =>
    (Octets.cutAt ' ' piece).flatMap (Octets.cutAt '-')
  numbers.find? fun digits => (Octets.number? digits).any (18446744073709551615 ≤ ·)

def ranges (voice : ListVoice) (text : Octets) : Except Octets (List Range) := do
  if let some digits := tooLarge? text then
    let kind := if voice.zero.startsWith "f" then "field number " else "byte/character offset "
    throw (kind.toList ++
      quoted digits ++ " is too large".toList)
  ((Octets.cutAt ',' text).flatMap (Octets.cutAt ' ')).mapM (range? voice)

/-- A range with one that starts in it or before its start, if they have columns in common. -/
def Range.union? (a b : Range) : Option Range :=
  if a.2.all (b.1 ≤ ·) then
    some (a.1, match a.2, b.2 with
      | some x, some y => some (max x y)
      | _, _ => none)
  else none

/-- Ranges in order, with those that have columns in common made one. -/
def united (ranges : List Range) : List Range :=
  let sorted := ranges.mergeSort fun a b => a.1 ≤ b.1
  sorted.foldr (fun range rest =>
    match rest with
    | [] => [range]
    | next :: others =>
        match range.union? next with
        | some both => both :: others
        | none => range :: next :: others) []

/-- The ranges between some that are in order, from a column on. -/
def gaps : (start : Nat) → List Range → List Range
  | start, [] => [(start, none)]
  | start, (first, last) :: rest =>
      let before := if start < first then [(start, some (first - 1))] else []
      match last with
      | some last => before ++ gaps (last + 1) rest
      | none => before

def characters (ranges : List Range) (between : Octets) (line : Octets) : Octets :=
  let parts := ranges.filterMap fun (first, last) =>
    let rest := line.drop (first - 1)
    let part := match last with
      | some last => rest.take (last + 1 - first)
      | none => rest
    if part.isEmpty then none else some part
  Octets.joined between parts

/-- The fields of a line in some columns; none if the line is to be left out. -/
def fields (chosen : Nat → Bool) (delimiter : Char) (between : Octets) (onlyCut : Bool)
    (line : Octets) : Option Octets :=
  if !line.contains delimiter then (if onlyCut then none else some line)
  else
    let kept := ((Octets.cutAt delimiter line).zipIdx 1).filterMap fun (field, column) =>
      if chosen column then some field else none
    some (Octets.joined between kept)

/-- The options. -/
def rules : List OptionRule :=
  [setting "bytes" 'b', setting "characters" 'c', setting "fields" 'f', setting "delimiter" 'd',
    switch "only-delimited" 's', switch "-n" 'n', ⟨"complement", none, .nothing⟩,
    ⟨"output-delimiter", none, .value⟩, switch "zero-terminated" 'z']

/-- Complains, and says where help is to be had. -/
def refuse (self text : Octets) : Act Nat := do
  complainAs self text
  pointToHelp self
  return 1

/-- Writes parts of the lines of its inputs. -/
def cut : Program := fun self arguments =>
  withOptions self rules true 1 arguments fun given => do
    let lists := given.options.filter fun option =>
      ["bytes", "characters", "fields"].contains option.word
    match lists with
    | [] => refuse self "you must specify a list of bytes, characters, or fields".toList
    | _ :: _ :: _ => refuse self "only one list may be specified".toList
    | [list] =>
        let isFields := list.word = "fields"
        let voice : ListVoice :=
          if isFields then ⟨"fields are numbered from 1", "invalid field value "⟩
          else ⟨"byte/character positions are numbered from 1",
            "invalid byte/character position "⟩
        let delimiter := given.value? "delimiter"
        if delimiter.any (1 < ·.length) then
          return ← refuse self "the delimiter must be a single character".toList
        if !isFields && delimiter.isSome then
          return ← refuse self
            "an input delimiter may be specified only when operating on fields".toList
        if !isFields && given.has "only-delimited" then
          return ← refuse self ("suppressing non-delimited lines makes sense\n\tonly when " ++
            "operating on fields").toList
        match ranges voice (list.value.getD []) with
        | .error problem => refuse self problem
        | .ok ranges =>
            let ranges := united ranges
            let ranges := if given.has "complement" then gaps 1 ranges else ranges
            let mark := (delimiter.bind (·.head?)).getD (if delimiter.isSome then '\x00' else '\t')
            let between := (given.value? "output-delimiter").getD [mark]
            let (text, all) ← readJoined self plainVoice given.operands
            let lines := (linesEndedBy (lineEnd given) text).filterMap fun line =>
              if isFields then
                fields (isIn ranges) mark between (given.has "only-delimited") line
              else some (characters ranges ((given.value? "output-delimiter").getD []) line)
            finish (endedBy (lineEnd given) lines) all

end Cutting

/-! ## Lines side by side -/

namespace Pasting

/-- Texts with delimiters between them that are taken in turn. -/
def interleaved (delimiters : List Octets) (texts : List Octets) : Octets :=
  match texts with
  | [] => []
  | first :: rest =>
      first ++ (rest.zipIdx).flatMap fun (text, n) =>
        (delimiters.getD (n % max 1 delimiters.length) []) ++ text

/-- The delimiters that a text describes; none if a backslash is its end. -/
def delimiters : Octets → Option (List Octets)
  | [] => some []
  | ['\\'] => none
  | '\\' :: c :: rest =>
      (delimiters rest).map fun more => (if c = '0' then [] else [delimiter c]) :: more
  | c :: rest => (delimiters rest).map ([c] :: ·)
where
  /-- The character that a letter behind a backslash stands for. -/
  delimiter (c : Char) : Char :=
    if "bfnrtv".toList.contains c then (Reader.letterEscape? c).getD c else c

/-- Why an input cannot be opened; it is read later. -/
def openError? (name : Octets) : Act (Option Files.OsError) := do
  if name = ['-'] then return none
  match (← tree).readFile (pathOf name) with
  | .error .isDirectory => return none
  | .error error => return if (descriptorAt? name).isSome then none else some error
  | .ok _ => return none

/-- Inputs that cannot all be opened; the first that cannot is complained about. -/
def areMissing (self : Octets) : List Octets → Act Bool
  | [] => return false
  | name :: rest => do
      match ← openError? name with
      | none => areMissing self rest
      | some error =>
          complainOf self name error
          return true

/--
Reads inputs; hyphens share the lines of the standard input between them. Inputs that
cannot be opened are left out; tells whether all could be read.
-/
def columns (self : Octets) (mark : Char) (operands : List Octets) :
    Act (List (List Octets) × Bool) := do
  let hyphens := (operands.filter (· = ['-'])).length
  let (inputs, all) ← readInputs self plainVoice operands.eraseDups
  let missing ← operands.filterM fun name => return (← openError? name).isSome
  let linesOf (name : Octets) : List Octets :=
    linesEndedBy mark ((inputs.lookup name).getD [])
  let shared := linesOf ['-']
  let rec place : Nat → List Octets → List (List Octets)
    | _, [] => []
    | seen, name :: rest =>
        if name = ['-'] then
          ((shared.zipIdx).filterMap fun (line, n) =>
            if n % max 1 hyphens = seen then some line else none) :: place (seen + 1) rest
        else linesOf name :: place seen rest
  return (place 0 (operands.filter (!missing.contains ·)), all)

/-- Puts the lines of its inputs side by side. -/
def paste : Program := fun self arguments =>
  withOptions self [setting "delimiters" 'd', switch "serial" 's', switch "zero-terminated" 'z']
      true 1 arguments fun given => do
    let text := (given.value? "delimiters").getD ['\t']
    let some between := delimiters text
      | do
        complainAs self ("delimiter list ends with an unescaped backslash: ".toList ++ text)
        return 1
    let names := inputNames given.operands
    unless given.has "serial" do
      if ← areMissing self names then return 1
    let (columns, all) ← columns self (lineEnd given) names
    let lines :=
      if given.has "serial" then columns.map (interleaved between)
      else
        let height := (columns.map List.length).foldl max 0
        (List.range height).map fun n =>
          interleaved between (columns.map fun column => column.getD n [])
    finish (endedBy (lineEnd given) lines) all

end Pasting

/-! ## Broken lines -/

namespace Folding

def columnBehind (octets : Bool) (column : Nat) (c : Char) : Nat :=
  if octets then column + 1
  else
    match c with
    | '\x08' => column - 1
    | '\r' => 0
    | '\t' => column + 8 - column % 8
    | _ => column + 1

def columnAfter (octets : Bool) (text : Octets) : Nat := text.foldl (columnBehind octets) 0

/-- The pieces of a line, none of them wider than a width; `kept` is backwards. -/
def pieces (width : Nat) (octets atBlanks : Bool) :
    (fuel : Nat) → (kept : Octets) → (column : Nat) → Octets → List Octets
  | 0, kept, _, rest => [kept.reverse ++ rest]
  | _, kept, _, [] => if kept.isEmpty then [] else [kept.reverse]
  | fuel + 1, kept, column, c :: rest =>
      let next := columnBehind octets column c
      if next ≤ width || kept.isEmpty then pieces width octets atBlanks fuel (c :: kept) next rest
      else
        let behind := kept.takeWhile (!Octets.isBlank ·)
        if atBlanks && behind.length < kept.length then
          (kept.drop behind.length).reverse ::
            pieces width octets atBlanks fuel behind (columnAfter octets behind.reverse) (c :: rest)
        else kept.reverse :: pieces width octets atBlanks fuel [] 0 (c :: rest)

/-- Breaks the lines of its inputs where they are too wide. -/
def fold : Program := fun self arguments =>
  withOptions self [switch "bytes" 'b', switch "spaces" 's', setting "width" 'w'] true 1
      (arguments.map (spelledOut "-w")) fun given => do
    let width := ((given.value? "width").bind Octets.number?).getD 80
    if let some text := given.value? "width" then
      if (Octets.number? text).all (· = 0) then
        let reason := if (Octets.number? text).isSome then
            ": Numerical result out of range".toList
          else []
        complainAs self ("invalid number of columns: ".toList ++ quoted text ++ reason)
        return 1
    let (text, all) ← readJoined self plainVoice given.operands
    let broken (line : Octets) : Octets :=
      Octets.joined ['\n']
        (pieces width (given.has "bytes") (given.has "spaces") (2 * line.length + 2) [] 0 line)
    finish (Octets.joined ['\n'] ((Octets.cutAt '\n' text).map broken)) all

end Folding

end BlockExtension.Shell.Utility
