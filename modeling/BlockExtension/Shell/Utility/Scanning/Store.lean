import BlockExtension.Shell.Machine
import BlockExtension.Shell.Utility.Scanning.Cells
import BlockExtension.Shell.Utility.Scanning.Notation
import Std.Data.HashMap

/-!
# State of the pattern scanner

What a program of the scanner works on: the pieces that inputs and records are cut
into, its tables, and its state between two steps.
-/

/-!
## Pieces of texts

Records are cut out of inputs, fields out of records, and pieces out of texts by
what stands between them. Other texts are put in the place of what matches an
expression.
-/

namespace BlockExtension.Shell.Utility.Scanning

/-- What stands between pieces of a text. -/
inductive Separator where
  | blanks
  | nothing
  | character (c : Char)
  | regex (regex : Regex)

def subjectOf (text : Octets) : Regex.Subject := ⟨text.toArray, false, false⟩

def words : (fuel : Nat) → Octets → List Octets
  | 0, _ => []
  | fuel + 1, text =>
      let text := text.dropWhile Octets.isSpace
      if text.isEmpty then []
      else
        let word := text.takeWhile (!Octets.isSpace ·)
        word :: words fuel (text.drop word.length)

def filledMatch? (regex : Regex) (subject : Regex.Subject) :
    (fuel start : Nat) → Option Regex.Found
  | 0, _ => none
  | fuel + 1, start =>
      match regex.find? subject start with
      | none => none
      | some found =>
          if found.first < found.last then some found
          else filledMatch? regex subject fuel (found.first + 1)

def piecesFrom (regex : Regex) (subject : Regex.Subject) : (fuel start : Nat) → List Octets
  | 0, start => [subject.between start subject.text.size]
  | fuel + 1, start =>
      match filledMatch? regex subject (subject.text.size + 1) start with
      | none => [subject.between start subject.text.size]
      | some found =>
          subject.between start found.first :: piecesFrom regex subject fuel found.last

/-- The pieces of a text. -/
def Separator.cut (separator : Separator) (text : Octets) : List Octets :=
  match separator with
  | .blanks => words (text.length + 1) text
  | .nothing => text.map fun c => [c]
  | .character mark => if text.isEmpty then [] else Octets.cutAt mark text
  | .regex body =>
      if text.isEmpty then []
      else piecesFrom body (subjectOf text) (text.length + 1) 0

/-! ### Records -/

/-- What is between records. -/
inductive RecordEnd where
  | character (c : Char)
  | emptyLines
  | regex (regex : Regex)

/-- What stands before the first of two line feeds that follow each other, and what behind. -/
def paragraph : (before : Octets) → Octets → Octets × Octets
  | before, [] => (before.reverse, [])
  | before, '\n' :: '\n' :: rest => (before.reverse, rest.dropWhile (· = '\n'))
  | before, c :: rest => paragraph (c :: before) rest

def RecordEnd.first? (recordEnd : RecordEnd) (input : Octets) : Option (Octets × Octets) :=
  if input.isEmpty then none
  else
    match recordEnd with
    | .character mark =>
        let found := input.takeWhile (· ≠ mark)
        some (found, input.drop (found.length + 1))
    | .emptyLines =>
        let input := input.dropWhile (· = '\n')
        if input.isEmpty then none
        else
          let (found, rest) := paragraph [] input
          if rest.isEmpty && found.getLast? = some '\n' then some (found.dropLast, rest)
          else some (found, rest)
    | .regex body =>
        let subject := subjectOf input
        match filledMatch? body subject (input.length + 1) 0 with
        | none => some (input, [])
        | some found => some (subject.between 0 found.first, input.drop found.last)

/-! ### Other texts in the place of matches -/

/-- A part of a text that is put in the place of a match. -/
inductive NewPart where
  | text (octets : Octets)
  /-- What has matched. -/
  | found

/-- The parts of a new text: an ampersand is what has matched, unless a backslash keeps it. -/
def newParts : (fuel : Nat) → Octets → List NewPart
  | 0, _ => []
  | _, [] => []
  | fuel + 1, '&' :: rest => .found :: newParts fuel rest
  | fuel + 1, '\\' :: rest =>
      let marks := 1 + (rest.takeWhile (· = '\\')).length
      match rest.drop (marks - 1) with
      | '&' :: behind =>
          let kept := List.replicate (marks / 2) '\\'
          if marks % 2 = 0 then .text kept :: .found :: newParts fuel behind
          else .text (kept ++ ['&']) :: newParts fuel behind
      | behind => .text (List.replicate marks '\\') :: newParts fuel behind
  | fuel + 1, c :: rest => .text [c] :: newParts fuel rest

def newText (parts : List NewPart) (found : Octets) : Octets :=
  parts.flatMap fun
    | .text octets => octets
    | .found => found

def replaceFirst? (regex : Regex) (parts : List NewPart) (text : Octets) : Option Octets :=
  let subject := subjectOf text
  (regex.find? subject 0).map fun found =>
    subject.between 0 found.first ++ newText parts (subject.between found.first found.last) ++
      subject.between found.last subject.text.size

/--
The rest of a text with all matches replaced, and their number. A match of nothing
right behind another match does not count.
-/
def replaceFrom (regex : Regex) (parts : List NewPart) (subject : Regex.Subject) :
    (fuel start : Nat) → (behindMatch : Bool) → Octets × Nat
  | 0, start, _ => (subject.between start subject.text.size, 0)
  | fuel + 1, start, behindMatch =>
      match regex.find? subject start with
      | none => (subject.between start subject.text.size, 0)
      | some found =>
          let before := subject.between start found.first
          let size := subject.text.size
          if found.first < found.last then
            let new := newText parts (subject.between found.first found.last)
            let (rest, count) := replaceFrom regex parts subject fuel found.last true
            (before ++ new ++ rest, count + 1)
          else
            let counts := !(behindMatch && found.first = start)
            let new := if counts then newText parts [] else []
            let number := if counts then 1 else 0
            let next := subject.between found.first (found.first + 1)
            if found.first < size then
              let (rest, count) := replaceFrom regex parts subject fuel (found.first + 1) false
              (before ++ new ++ next ++ rest, count + number)
            else (before ++ new, number)

def replaceAll (regex : Regex) (parts : List NewPart) (text : Octets) : Octets × Nat :=
  replaceFrom regex parts (subjectOf text) (2 * text.length + 2) 0 false

/-!
## Tables of the pattern scanner

A table holds values under keys, which are texts or whole numbers. A loop over
its keys meets them in an order of its own: keys are spread over lists by a
checksum of their text, and whole numbers by their last digits too, as long as
there are no others; a key that is looked up comes to the front of its list.
-/

/-- What a value is kept under. -/
inductive Key where
  | whole (n : Int)
  | text (octets : Octets)
  deriving DecidableEq, Repr

namespace Key

def toText : Key → Octets
  | .whole n => Octets.ofInt n
  | .text octets => octets

/-- The whole numbers that are keys as such. -/
def bounds : Int × Int := (-9223372036854775808, 9223372036854775807)

/-- The key that a value stands for; a format writes numbers that are not whole. -/
def ofCell (format : Octets) : Cell → Key
  | .number x =>
      let (least, greatest) := bounds
      match wholeValue? x with
      | some n =>
          if least ≤ n && n ≤ greatest + 1 then .whole (min n greatest)
          else .text (formatted format x)
      | none => .text ((unwritable? x).getD (formatted format x))
  | cell => .text (cell.toText format)

end Key

instance hashableChar : Hashable Char := instHashableChar

def checksum (text : Octets) : UInt32 :=
  text.foldl (fun sum c => (sum ^^^ c.toNat.toUInt32) * 16777619) 2166136261

/-- A table. -/
structure Table where
  size : Nat
  /-- One less than the number of lists. -/
  mask : Nat
  /-- Keys are spread by their texts. -/
  isNamed : Bool
  /-- The keys are the numbers from one on, and have not been spread yet. -/
  isRow : Bool
  named : Array (List Octets)
  numbered : Array (List Int)
  cells : Std.HashMap Octets Cell

namespace Table

def startingLists : Nat := 64

def keysPerList : Nat := 12

/-- A table without keys. -/
def empty : Table where
  size := 0
  mask := startingLists - 1
  isNamed := false
  isRow := false
  named := Array.replicate startingLists []
  numbered := Array.replicate startingLists []
  cells := ∅

def placeOfText (table : Table) (text : Octets) : Nat :=
  (checksum text).toNat % (table.mask + 1)

def placeOfWhole (table : Table) (n : Int) : Nat := (n % ((table.mask + 1 : Nat) : Int)).toNat

/-- Puts a text to the front of its list. -/
def nameFirst (table : Table) (text : Octets) : Table :=
  { table with
    named := table.named.modify (table.placeOfText text) fun list =>
      text :: list.filter (· ≠ text) }

def numberFirst (table : Table) (n : Int) : Table :=
  { table with
    numbered := table.numbered.modify (table.placeOfWhole n) fun list =>
      n :: list.filter (· ≠ n) }

/-- Doubles the number of lists; each is split in two, and its order is kept. -/
def doubled (table : Table) : Table :=
  let old := table.mask + 1
  let table := { table with mask := 2 * old - 1 }
  let split {α : Type} (lists : Array (List α)) (place : α → Nat) : Array (List α) :=
    lists.mapIdx (fun i list => list.filter fun a => place a = i) ++
      lists.mapIdx (fun i list => list.filter fun a => place a ≠ i)
  { table with
    named := split table.named table.placeOfText
    numbered := split table.numbered table.placeOfWhole }

/-- The table with one key more, which is in no list yet. -/
def enlarged (table : Table) : Table :=
  let table := { table with size := table.size + 1 }
  if (table.mask + 1) * keysPerList < table.size then table.doubled else table

def listsFor (keys : Nat) : (fuel : Nat) → (count : Nat) → Nat
  | 0, count => count
  | fuel + 1, count =>
      if count * keysPerList < keys then listsFor keys fuel (2 * count) else count

def spread (table : Table) : Table :=
  if !table.isRow then table
  else
    let count := listsFor table.size table.size startingLists
    let start : Table :=
      { table with
        isRow := false
        mask := count - 1
        named := Array.replicate count []
        numbered := Array.replicate count [] }
    (List.range table.size).foldl (fun table i => table.numberFirst ((i + 1 : Nat) : Int)) start

/-- Spreads keys by their texts. -/
def withNames (table : Table) : Table :=
  if table.isNamed then table
  else
    let table := table.spread
    let numbers := table.numbered.toList.flatten
    numbers.foldl (fun table n => table.nameFirst (Octets.ofInt n)) { table with isNamed := true }

/-- The table after a key has been looked up, and perhaps been added; none if it is not there. -/
def find? (table : Table) (key : Key) (creates : Bool) : Option Table :=
  let text := key.toText
  let isKnown := table.cells.contains text
  let added (table : Table) : Table :=
    if isKnown then table
    else { table.enlarged with cells := table.cells.insert text .unset }
  match key with
  | .text _ => if isKnown || creates then some ((added table.withNames).nameFirst text) else none
  | .whole n =>
      if table.isRow && isKnown then some table
      else if !isKnown && !creates then none
      else
        let table := table.spread
        let isListed := (table.numbered[table.placeOfWhole n]?.getD []).contains n
        if isListed then some (table.numberFirst n)
        else
          let table := added table
          some ((if table.isNamed then table.nameFirst text else table).numberFirst n)

def looked (table : Table) (key : Key) : Table :=
  match table.find? key false with
  | some table => table
  | none =>
      match key with
      | .text _ => if table.size = 0 then table else table.withNames
      | .whole _ => table

def value (table : Table) (key : Key) : Cell := table.cells.getD key.toText .unset

/-- The table with another value under a key that it has. -/
def put (table : Table) (key : Key) (cell : Cell) : Table :=
  { table with cells := table.cells.insert key.toText cell }

/-- The table without a key. -/
def erase (table : Table) (key : Key) : Table :=
  if table.size = 0 then table
  else
    let text := key.toText
    let isKnown := table.cells.contains text
    let table := match key with
      | .text _ => table.withNames
      | .whole _ => if isKnown then table.spread else table
    if !isKnown then table
    else if table.size = 1 then empty
    else
      let number : Option Int := match text with
        | '-' :: digits => (Octets.number? digits).map fun n => -(n : Int)
        | digits => (Octets.number? digits).map fun n => (n : Int)
      { table with
        size := table.size - 1
        named := table.named.modify (table.placeOfText text) (·.filter (· ≠ text))
        numbered := match number.filter (Octets.ofInt · = text) with
          | some n => table.numbered.modify (table.placeOfWhole n) (·.filter (· ≠ n))
          | none => table.numbered
        cells := table.cells.erase text }

/-- The texts of the keys in their order, and the table once they have been gone through. -/
def keys (table : Table) : List Octets × Table :=
  if table.size = 0 then ([], table)
  else
    let table := table.withNames
    (table.named.toList.flatten, table)

/-- The table that has some values under the numbers from one on. -/
def ofRow (cells : List Cell) : Table :=
  let filled := (List.zip (List.range cells.length) cells).foldl
    (fun found (i, cell) => found.insert (Octets.ofNat (i + 1)) cell) (∅ : Std.HashMap Octets Cell)
  { empty with size := cells.length, isRow := !cells.isEmpty, cells := filled }

end Table

/-!
## State of a scanner program

What a program has in its variables and tables, the record it is at, and what it
reads from and writes to. A step changes that, may act on files and channels, and
may jump out of what is running.
-/

/-- What a name holds. -/
inductive Slot where
  | cell (cell : Cell)
  | table (index : Nat)
  /-- Nothing yet; if a table is made of it, all who have been handed it know of it. -/
  | loose (index : Nat)

/-- Something that is read from: what is left of it, and how the command behind it has ended. -/
structure Reader where
  name : Octets
  isCommand : Bool
  rest : Octets
  status : Nat

/-- Where a text goes that is written. -/
inductive Goal where
  | output
  | errors
  | file (place : Nat)
  | command
  deriving DecidableEq

/-- Something that is written to, and what has not gone there yet. -/
structure Writer where
  name : Octets
  goal : Goal
  waiting : List Octets

/-- Why a statement did not run to its end. -/
inductive Stop where
  | leave
  | resume
  | nextRecord
  | nextFile
  | exit
  | back (value : Cell)
  /-- Something is wrong, and has been complained about. -/
  | fatal

/-- The state of a program that runs. -/
structure Scanner where
  /-- The name that complaints start with. -/
  self : Octets
  globals : Std.HashMap Octets Slot
  tables : Array Table
  /-- The parameters of the function that is running. -/
  frame : Array Slot
  /-- How many parameters all running functions have. -/
  depth : Nat
  record : Cell
  fields : Array Cell
  /-- The fields have been cut out of the record. -/
  isSplit : Bool
  /-- What is left of the input that records come from. -/
  main : Option Octets
  operand : Nat
  /-- Some operand has named an input. -/
  hasRead : Bool
  /-- There are no more inputs. -/
  isOver : Bool
  readers : List Reader
  writers : List Writer
  output : List Octets
  /-- The rules that are between their first and their last record. -/
  ranges : List Nat
  status : Nat
  seed : Cell
  expressions : Std.HashMap Octets Regex

/-- A step of a program. -/
abbrev Run := ExceptT Stop (StateT Scanner Act)

namespace Run

/-! ### Names -/

/-- What a place holds. -/
def slot (place : Place) : Run Slot := do
  match place with
  | .global name => return (← get).globals.getD name (.cell .unset)
  | .parameter index => return (← get).frame[index]?.getD (.cell .unset)

/-- Puts something into a place. -/
def putSlot (place : Place) (slot : Slot) : Run Unit :=
  modify fun scanner =>
    match place with
    | .global name => { scanner with globals := scanner.globals.insert name slot }
    | .parameter index => { scanner with frame := scanner.frame.setIfInBounds index slot }

def kept (name : String) : Run Cell := do
  match ← slot (.global name.toList) with
  | .cell cell => return cell
  | _ => return .unset

def keep (name : String) (cell : Cell) : Run Unit := putSlot (.global name.toList) (.cell cell)

def textFormat : Run Octets := return (← kept "CONVFMT").toText usualFormat

def outputFormat : Run Octets := return (← kept "OFMT").toText usualFormat

def textOf (cell : Cell) : Run Octets := do
  match cell with
  | .number _ => return cell.toText (← textFormat)
  | cell => return cell.toText usualFormat

def keptText (name : String) : Run Octets := do textOf (← kept name)

def newTable (table : Table) : Run Nat := do
  let scanner ← get
  set { scanner with tables := scanner.tables.push table }
  return scanner.tables.size

def tableAt (place : Place) : Run Nat := do
  match ← slot place with
  | .table index => return index
  | .loose index =>
      putSlot place (.table index)
      return index
  | .cell _ =>
      let index ← newTable .empty
      putSlot place (.table index)
      return index

def table (index : Nat) : Run Table := return (← get).tables[index]?.getD .empty

def putTable (index : Nat) (table : Table) : Run Unit :=
  modify fun scanner => { scanner with tables := scanner.tables.setIfInBounds index table }

/-- The key that subscripts make. -/
def keyOf (subscripts : List Cell) : Run Key := do
  match subscripts with
  | [one] => return .ofCell (← textFormat) one
  | several =>
      let texts ← several.mapM textOf
      return .text (Octets.joined (← keptText "SUBSEP") texts)

/-! ### Complaints -/

/-- Says that something is wrong, and gives up. -/
def fail {α : Type} (message : Octets) : Run α := do
  Act.report ((← get).self ++ ": ".toList ++ message ++ ['\n'])
  throw .fatal

/-- Says that something is wrong, and where the program was. -/
def failAt {α : Type} (message : Octets) : Run α := do
  let file ← keptText "FILENAME"
  let number (name : String) : Run Octets := do
    return Octets.ofInt (wholeWithin (-2147483647) 2147483647 (← kept name).toNumber)
  let fileNumber ← number "FNR"
  let total ← number "NR"
  fail ("run time error: ".toList ++ message ++ "\n\tFILENAME=\"".toList ++ file ++
    "\" FNR=".toList ++ fileNumber ++ " NR=".toList ++ total)

/-! ### Expressions -/

def regexProblem (problem : Notation.Problem) (source : Octets) : Octets :=
  ("regular expression compile failed (" ++ problem.message ++ ")\n").toList ++ source

/-- The regular expression that a text writes. -/
def regexOf (source : Octets) : Run Regex := do
  match (← get).expressions[source]? with
  | some found => return found
  | none =>
      match Notation.regexOf source with
      | .error problem => failAt (regexProblem problem source)
      | .ok found =>
          modify fun scanner =>
            { scanner with expressions := scanner.expressions.insert source found }
          return found

/-- What a text says that stands between pieces. -/
def separatorOf (text : Octets) : Run Separator := do
  match text with
  | [] => return .nothing
  | [' '] => return .blanks
  | [c] => return .character c
  | text => return .regex (← regexOf text)

def recordEnd : Run RecordEnd := do
  match ← keptText "RS" with
  | [] => return .emptyLines
  | [c] => return .character c
  | text => return .regex (← regexOf text)

/-! ### Fields -/

def mostFields : Nat := 1000000

/-- Fields, of which some are taken away or added. -/
def resized (count : Nat) (fields : Array Cell) : Array Cell :=
  fields.extract 0 count ++ Array.replicate (count - fields.size) (.text [])

def splitRecord : Run Unit := do
  unless (← get).isSplit do
    let text ← textOf (← get).record
    let pieces := (← separatorOf (← keptText "FS")).cut text
    modify fun scanner =>
      { scanner with fields := (pieces.map Cell.input).toArray, isSplit := true }
    keep "NF" (.ofNat pieces.length)

def joinFields : Run Unit := do
  let fields := (← get).fields
  let record ← match fields.toList with
    | [] => pure (.text [])
    | [one] => pure one
    | several => do
        let texts ← several.mapM textOf
        pure (.input (Octets.joined (← keptText "OFS") texts))
  modify fun scanner => { scanner with record }

def putRecord (text : Octets) : Run Unit :=
  modify fun scanner => { scanner with record := .input text, fields := #[], isSplit := false }

def fieldNumber (index : Cell) : Run Nat := do
  let n := wholeWithin (-2147483647) 2147483647 index.toNumber
  if n < 0 then
    failAt ("negative field index $".toList ++ Octets.ofInt n)
  return n.toNat

/-- The value of a field; the record itself is the field with number zero. -/
def field (index : Nat) : Run Cell := do
  if index = 0 then return (← get).record
  splitRecord
  return (← get).fields[index - 1]?.getD (.text [])

def putField (index : Nat) (cell : Cell) : Run Unit := do
  if index = 0 then putRecord (← textOf cell)
  else
    splitRecord
    let fields := (← get).fields
    if mostFields < index then
      failAt ("maximum number of fields exceeded".toList)
    if fields.size < index then
      modify fun scanner => { scanner with fields := resized index fields }
      keep "NF" (.ofNat index)
    modify fun scanner =>
      { scanner with fields := scanner.fields.setIfInBounds (index - 1) cell }
    joinFields

/-- Changes the number of fields. -/
def resize (count : Cell) : Run Unit := do
  splitRecord
  let n := wholeWithin (-2147483647) 2147483647 count.toNumber
  if n < 0 then failAt "negative value assigned to NF".toList
  modify fun scanner => { scanner with fields := resized (min n.toNat mostFields) scanner.fields }
  keep "NF" count
  joinFields

/-! ### Values of names -/

def value (place : Place) : Run Cell := do
  if place = .global "NF".toList then splitRecord
  match ← slot place with
  | .cell cell => return cell
  | _ => return .unset

/-- Gives a name a value. -/
def assign (place : Place) (cell : Cell) : Run Unit := do
  match place with
  | .global name =>
      match String.ofList name with
      | "NF" => resize cell
      | "FS" => do
          splitRecord
          let _ ← separatorOf (← textOf cell)
          putSlot place (.cell cell)
      | "RS" => do
          let _ ← separatorOf (← textOf cell)
          putSlot place (.cell cell)
      | _ => putSlot place (.cell cell)
  | place => putSlot place (.cell cell)

def handed (place : Place) : Run Slot := do
  if place = .global "NF".toList then splitRecord
  match ← slot place with
  | .cell .unset =>
      let index ← newTable .empty
      putSlot place (.loose index)
      return .loose index
  | slot => return slot

end Run

end BlockExtension.Shell.Utility.Scanning
