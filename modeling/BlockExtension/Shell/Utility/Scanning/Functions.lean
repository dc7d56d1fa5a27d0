import BlockExtension.Shell.Ambient
import BlockExtension.Shell.Calendar
import BlockExtension.Shell.Utility.Scanning.Cells
import BlockExtension.Shell.Utility.Scanning.Streams

/-!
# Functions of the pattern scanner

The functions that every program has, and the formats that some of them write by.
-/

/-!
## Formats of the pattern scanner

A format is a text in which directives say how values are written. Each takes the
next value. A directive that has no value, or no meaning, ends the writing, but
what was written before stays.
-/

namespace BlockExtension.Shell.Utility.Scanning.Directives

abbrev Written := Octets × Option Octets

def before (text : Octets) (written : Written) : Written := (text ++ written.1, written.2)

/-- A number in a directive, which may be the next value; none if it lacks its value. -/
def number? (text : Octets) (cells : List Cell) : Option (Option Int × Octets × List Cell) :=
  match text with
  | '*' :: rest =>
      match cells with
      | [] => none
      | cell :: cells =>
          some (some (wholeWithin (-2147483647) 2147483647 cell.toNumber), rest, cells)
  | text =>
      let digits := text.takeWhile Char.isDigit
      some (if digits.isEmpty then none else some (Octets.valueOf digits),
        text.drop digits.length, cells)

/-- How many bits of a whole number count. -/
inductive Size where
  | usual
  | short
  deriving DecidableEq

def signedValue (size : Size) (x : Float) : Int :=
  let greatest : Int := 9223372036854775807
  match size with
  | .short => (wholeWithin (-greatest) greatest x).bmod 65536
  | .usual => wholeWithin (-greatest) 18446744073709551615 x

/-- The whole number without a sign that is meant. -/
def unsignedValue (size : Size) (x : Float) : Nat :=
  let n := wholeWithin (-9223372036854775807) 18446744073709551615 x
  match size with
  | .short => (n % 65536).toNat
  | .usual => (n % 18446744073709551616).toNat

def character (format : Octets) (cell : Cell) : Octets :=
  let ofNumber (x : Float) : Octets :=
    [Char.ofNat (wholeWithin (-2147483647) 2147483647 x % 256).toNat]
  match cell with
  | .unset => ['\x00']
  | .number x => ofNumber x
  | .text octets => [octets.headD '\x00']
  | .input octets =>
      match wholeNumeral? octets with
      | some x => ofNumber x
      | none => [(cell.toText format).headD '\x00']

/-- What a directive makes of a value; nothing if it has no meaning. -/
def conversion? (format : Octets) (directive : Print.Directive) (size : Option Size)
    (cell : Cell) : Option Octets :=
  let letter := directive.letter
  if ['d', 'i'].contains letter then
    some (directive.signed (signedValue (size.getD .usual) cell.toNumber))
  else if ['o', 'u', 'x', 'X'].contains letter then
    some (directive.unsigned (unsignedValue (size.getD .usual) cell.toNumber))
  else if size.isSome then none
  else if letter = 's' then some (directive.texts (cell.toText format))
  else if letter = 'c' then some (directive.fill false [] (character format cell))
  else if ['e', 'f', 'g', 'E', 'G'].contains letter then
    some (directed directive cell.toNumber)
  else none

/-- What is said of a format that wants more values than there are. -/
def lack (who : String) (whole : Octets) : Octets :=
  "not enough arguments passed to ".toList ++ who.toList ++ "(\"".toList ++ whole ++ "\")".toList

/-- What is said of a directive without a meaning. -/
def improper (who : String) (whole : Octets) (number : Nat) : Octets :=
  s!"improper conversion(number {number}) in {who}(\"".toList ++ whole ++ "\")".toList

def directive? (text : Octets) (cells : List Cell) :
    Option (Print.Directive × Option Size × Octets × List Cell) := do
  let flags := text.takeWhile ['-', '+', ' ', '#', '0', '\''].contains
  let (width, rest, cells) ← number? (text.drop flags.length) cells
  let (places, rest, cells) ← match rest with
    | '.' :: rest => do
        let (places, rest, cells) ← number? rest cells
        pure (some (places.getD 0), rest, cells)
    | rest => pure (none, rest, cells)
  let (size, rest) := match rest with
    | 'l' :: rest => (some Size.usual, rest)
    | 'h' :: rest => (some Size.short, rest)
    | rest => (none, rest)
  let flags := if width.any (· < 0) then '-' :: flags else flags
  return (⟨flags, (width.getD 0).natAbs, places.bind fun n => if n < 0 then none else some n.toNat,
    rest.headD '\x00', none, []⟩, size, rest.drop 1, cells)

def writeFrom (who : String) (format whole : Octets) :
    (fuel number : Nat) → Octets → List Cell → Written
  | 0, _, _, _ => ([], none)
  | _, _, [], _ => ([], none)
  | fuel + 1, number, '%' :: '%' :: rest, cells =>
      before ['%'] (writeFrom who format whole fuel number rest cells)
  | fuel + 1, number, '%' :: text, cells =>
      match directive? text cells with
      | none => ([], some (lack who whole))
      | some (_, _, _, []) => ([], some (lack who whole))
      | some (directive, size, rest, cell :: cells) =>
          match conversion? format directive size cell with
          | none => ([], some (improper who whole number))
          | some found =>
              before found (writeFrom who format whole fuel (number + 1) rest cells)
  | fuel + 1, number, c :: rest, cells =>
      before [c] (writeFrom who format whole fuel number rest cells)

/--
Writes values as a format says, on behalf of someone who complaints name; numbers
in the place of texts are written by a format of their own.
-/
def write (who : String) (format whole : Octets) (cells : List Cell) : Written :=
  writeFrom who format whole (whole.length + 1) 1 whole cells

end BlockExtension.Shell.Utility.Scanning.Directives

/-!
## Functions that every scanner program has

What the functions do that need not be defined. They are handed their arguments
without a value yet, since some of them change what an argument names, or take it
for a regular expression.
-/

namespace BlockExtension.Shell.Utility.Scanning

/-- What a value can be assigned to, once it is known which one it is. -/
inductive Location where
  | place (place : Place)
  | element (table : Nat) (key : Key)
  | field (index : Nat)

/-- An argument: its value, the expression that it writes, and what it names, if it does. -/
structure Argument where
  value : Run Cell
  regex : Run Regex
  place : Option Place
  location : Option (Run Location)
  /-- The expression is written as one, and not as a text. -/
  isPattern : Bool

namespace Run

/-- The value at a location. -/
def read : Location → Run Cell
  | .place place => value place
  | .element index key => return (← table index).value key
  | .field index => field index

/-- Puts a value to a location. -/
def store (location : Location) (cell : Cell) : Run Unit := do
  match location with
  | .place place => assign place cell
  | .element index key => do
      let table ← table index
      let table := if table.cells.contains key.toText then table
        else (table.find? key true).getD table
      putTable index (table.put key cell)
  | .field index => putField index cell

def elementAt (index : Nat) (key : Key) : Run Location := do
  match (← table index).find? key true with
  | some table => putTable index table
  | none => pure ()
  return .element index key

/-- The whole number in thirty-two bits that a number is cut down to. -/
def wordOf (x : Float) : Int :=
  let bound : Int := 9223372036854775807
  let n := wholeWithin (-bound - 1) (bound + 1) x
  if -bound ≤ n && n ≤ bound then n.bmod 4294967296 else 0

/-- The part of a text from a place on, of which the first one is the first character. -/
def part (text : Octets) (start : Int) (size : Option Int) : Octets :=
  let behind := text.drop (start.toNat - 1)
  match size with
  | none => behind
  | some size =>
      let size := if start < 0 then (size - start).bmod 4294967296 else size
      behind.take size.toNat

/-- The first place of a text in another one, counted from one on; zero if there is none. -/
def placeOf (sought : Octets) : (place : Nat) → Octets → Nat
  | place, [] => if sought.isEmpty then place else 0
  | place, c :: rest =>
      if sought.isPrefixOf (c :: rest) then place else placeOf sought (place + 1) rest

def secondsAt (year month day : Int) : Int :=
  let year := year + (month - 1) / 12
  let month := (month - 1) % 12 + 1
  let shifted := if month ≤ 2 then year - 1 else year
  let era := shifted / 400
  let yearOfEra := shifted - era * 400
  let dayOfYear := (153 * (if 2 < month then month - 3 else month + 9) + 2) / 5 + day - 1
  let dayOfEra := yearOfEra * 365 + yearOfEra / 4 - yearOfEra / 100 + dayOfYear
  (era * 146097 + dayOfEra - 719468) * 86400

def secondsOf (text : Octets) : Int :=
  let number (word : Octets) := wholeWithin (-99999) 99999 (valueOf word)
  match (words (text.length + 1) text).map number with
  | year :: month :: day :: hour :: minute :: second :: _ =>
      secondsAt year month day + hour * 3600 + minute * 60 + second
  | _ => -1

/-- Replaces what matches in what an argument names, or in the record. -/
def substitute (all : Bool) (regex : Regex) (new : Octets) (target : Option Argument) :
    Run Cell := do
  let location ← match target.bind (·.location) with
    | some location => location
    | none => pure (.field 0)
  let before ← match target with
    | some argument => if argument.location.isSome then read location else argument.value
    | none => read location
  let text ← textOf before
  let parts := newParts (new.length + 1) new
  let (changed, count) := if all then replaceAll regex parts text
    else match replaceFirst? regex parts text with
      | some changed => (changed, 1)
      | none => (text, 0)
  let isKept := target.any (·.location.isNone)
  if 0 < count && !isKept then store location (.text changed)
  return .ofNat count

/-- Cuts a text into the elements of a table. -/
def split (text : Octets) (place : Place) (separator : Separator) : Run Cell := do
  let pieces := separator.cut text
  let index ← tableAt place
  putTable index (.ofRow (pieces.map Cell.input))
  return .ofNat pieces.length

def separatorArgument (argument : Argument) : Run Separator := do
  if argument.isPattern then return .regex (← argument.regex)
  separatorOf (← textOf (← argument.value))

/-- Writes a number of a function of one number. -/
def mapped (change : Float → Float) (argument : Argument) : Run Cell :=
  return .number (change (← argument.value).toNumber)

/-- The result of a function that every program has. -/
def builtin (launch : Launch) (name : String) (arguments : List Argument) : Run Cell := do
  let textAt (argument : Argument) : Run Octets := do textOf (← argument.value)
  match name, arguments with
  | "length", [] => return .ofNat (← textOf (← field 0)).length
  | "length", argument :: _ =>
      match argument.place with
      | some place => do
          match ← slot place with
          | .table index => return .ofNat (← table index).size
          | _ => return .ofNat (← textAt argument).length
      | none => return .ofNat (← textAt argument).length
  | "index", [text, sought] =>
      let text ← textAt text
      return .ofNat (placeOf (← textAt sought) 1 text)
  | "substr", text :: start :: size =>
      let text ← textAt text
      let start := wordOf (← start.value).toNumber
      let size ← match size with
        | size :: _ => do pure (some (wordOf (← size.value).toNumber))
        | [] => pure none
      return .text (part text start size)
  | "split", text :: target :: separator =>
      let text ← textAt text
      let separator ← match separator with
        | separator :: _ => separatorArgument separator
        | [] => separatorOf (← keptText "FS")
      match target.place with
      | some place => split text place separator
      | none => return .unset
  | "match", [text, pattern] =>
      let text ← textAt text
      let regex ← pattern.regex
      let (start, size) : Float × Float := match regex.find? (subjectOf text) 0 with
        | some found => (Float.ofNat (found.first + 1), Float.ofNat (found.last - found.first))
        | none => (0.0, -1.0)
      keep "RSTART" (.number start)
      keep "RLENGTH" (.number size)
      return .number start
  | "sub", pattern :: new :: target => do
      let regex ← pattern.regex
      substitute false regex (← textAt new) target.head?
  | "gsub", pattern :: new :: target => do
      let regex ← pattern.regex
      substitute true regex (← textAt new) target.head?
  | "sprintf", format :: values =>
      let format ← textAt format
      let values ← values.mapM (·.value)
      match Directives.write "sprintf" (← textFormat) format values with
      | (text, none) => return .text text
      | (_, some problem) => failAt problem
  | "sin", [x] => mapped Float.sin x
  | "cos", [x] => mapped Float.cos x
  | "exp", [x] => mapped Float.exp x
  | "log", [x] => mapped Float.log x
  | "sqrt", [x] => mapped Float.sqrt x
  | "int", [x] => mapped towardsZero x
  | "atan2", [y, x] =>
      let y ← y.value
      return .number (y.toNumber.atan2 (← x.value).toNumber)
  | "rand", _ => return .number 0.5
  | "srand", seed => do
      let before := (← get).seed
      let seed ← match seed with
        | seed :: _ => seed.value
        | [] => pure (.ofNat Machine.startingTime)
      modify fun scanner => { scanner with seed }
      return before
  | "tolower", [text] => return .text ((← textAt text).map Char.toLower)
  | "toupper", [text] => return .text ((← textAt text).map Char.toUpper)
  | "system", [command] => return .ofNat (← system launch (← textAt command))
  | "close", [name] =>
      match ← close launch (← textAt name) with
      | some status => return .ofNat status
      | none => return .number (-1.0)
  | "fflush", names =>
      match names with
      | [] => do
          flush
          return .ofNat 0
      | name :: _ => do
          let name ← textAt name
          let isKnown := name.isEmpty || name = "/dev/stdout".toList ||
            (← get).writers.any (·.name = name)
          flush
          return .number (if isKnown then 0.0 else -1.0)
  | "systime", _ => return .ofNat Machine.startingTime
  | "mktime", time :: _ =>
      return .number (Float.ofInt (secondsOf (← textAt time)))
  | "strftime", arguments =>
      let (format, rest) ← match arguments with
        | format :: rest => do pure (← textAt format, rest)
        | [] => pure ("%c".toList, [])
      let seconds ← match rest with
        | seconds :: _ => do
            pure (wholeWithin (-99999999999) 253402300799 (← seconds.value).toNumber)
        | [] => pure (Machine.startingTime : Int)
      return .text ((⟨seconds, 0⟩ : Calendar.Moment).written false format)
  | _, _ => return .unset

end Run

end BlockExtension.Shell.Utility.Scanning
