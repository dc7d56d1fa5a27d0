import BlockExtension.Shell.Regex
import BlockExtension.Shell.Utility.Entries
import BlockExtension.Shell.Utility.Listing
import BlockExtension.Shell.Utility.Print

/-!
# Queries about files

What is asked of files that are found, and what is written of them.
-/

/-!
## Queries about files

What can be asked of a file, and what can be done with it: tests and actions, and
the connectives between them. Tests compare numbers, times and permission bits
with what is asked for.
-/

namespace BlockExtension.Shell.Utility.Finding

open Print (Directive)

/-! ### Comparisons -/

/-- How a number is compared with one that is asked for. -/
inductive Bound where
  | exactly (n : Nat)
  | above (n : Nat)
  | below (n : Nat)
  deriving DecidableEq, Repr

/-- A number is as asked for. -/
def Bound.allows : Bound → Nat → Bool
  | .exactly wanted, n => n = wanted
  | .above wanted, n => wanted < n
  | .below wanted, n => n < wanted

/-- How a time is compared with those that are asked for, in units of a nanosecond. -/
inductive Period where
  | after (time : Int)
  | before (time : Int)
  /-- Behind a start, and no more than a length behind it. -/
  | within (start length : Int)
  deriving DecidableEq, Repr

/-- A time is as asked for. -/
def Period.allows : Period → Int → Bool
  | .after wanted, time => wanted < time
  | .before wanted, time => time < wanted
  | .within start length, time => start < time && time ≤ start + length

/-- How permission bits are compared with some that are asked for. -/
inductive Sharing where
  | exactly
  | all
  | any
  deriving DecidableEq, Repr

/-- Permission bits are as asked for. -/
def Sharing.allows (sharing : Sharing) (wanted bits : Nat) : Bool :=
  match sharing with
  | .exactly => bits = wanted
  | .all => bits &&& wanted = wanted
  | .any => wanted = 0 || bits &&& wanted ≠ 0

/-! ### Formats -/

/-- A piece of a format by which something is written of a file. -/
inductive Piece where
  | plain (text : Octets)
  /-- What a letter stands for. -/
  | fact (directive : Directive)
  /-- The time of the file in full, or the part of it that a letter stands for. -/
  | time (directive : Directive) (part : Option Char)
  /-- Nothing more is written. -/
  | stop

/-! ### Queries -/

/-- Where an action writes. -/
inductive Outlet where
  | standard
  | channel (place : Nat)
  deriving DecidableEq, Repr

/-- What is asked of a file, or done with it. -/
inductive Query where
  | answer (holds : Bool)
  | name (pattern : Octets) (foldsCase : Bool)
  | path (pattern : Octets) (foldsCase : Bool)
  /-- The path that a link stands for. -/
  | goal (pattern : Octets) (foldsCase : Bool)
  | shape (regex : Regex) (foldsCase : Bool)
  | kind (letters : List Char)
  | otherKind (letters : List Char)
  | empty
  | size (unit : Nat) (bound : Bound)
  | names (bound : Bound)
  | serial (bound : Bound)
  | owner (isGroup : Bool) (bound : Bound)
  /-- The file itself that is at a location. -/
  | one (location : Files.Location)
  | written (period : Period)
  | permission (sharing : Sharing) (bits directoryBits : Nat)
  | access (operator : String)
  | write (outlet : Outlet) (lineEnd : Octets)
  | writeFormat (outlet : Outlet) (pieces : List Piece)
  | list (outlet : Outlet)
  | delete
  | prune
  | quit
  /-- Runs a command, perhaps in the directory of the file, perhaps only after a yes. -/
  | run (words : List Octets) (isInside asks : Bool)
  /-- Runs a command later, on all files for which it is asked for. -/
  | runOnAll (number : Nat) (words : List Octets) (isInside : Bool)
  | negation (query : Query)
  | both (first second : Query)
  | either (first second : Query)
  | sequence (first second : Query)

namespace Query

def hasPart (holds : Query → Bool) : Query → Bool
  | .negation query => query.hasPart holds
  | .both first second => first.hasPart holds || second.hasPart holds
  | .either first second => first.hasPart holds || second.hasPart holds
  | .sequence first second => first.hasPart holds || second.hasPart holds
  | query => holds query

/-- The query carries out an action that makes writing the path unnecessary. -/
def acts : Query → Bool
  | .write .. => true
  | .writeFormat .. => true
  | .list _ => true
  | .delete => true
  | .quit => true
  | .run .. => true
  | .runOnAll .. => true
  | _ => false

/-- The query takes files away. -/
def deletes : Query → Bool
  | .delete => true
  | _ => false

/-- The query keeps the search out of directories. -/
def prunes : Query → Bool
  | .prune => true
  | _ => false

end Query

/-! ### The whole search -/

/-- Which links are looked at as what they lead to. -/
inductive Deref where
  | never
  /-- Those that the search starts at. -/
  | first
  | always
  deriving DecidableEq, Repr

/-- What holds of the whole search. -/
structure Extent where
  most : Option Nat
  least : Nat
  /-- What is in a directory comes before it; `asked` says that this was asked for itself. -/
  inward : Bool
  asked : Bool
  deref : Deref
  /-- The notation of regular expressions. -/
  regexKind : String
  /-- Times are counted from the end of the day. -/
  wholeDays : Bool

namespace Extent

def unasked (deref : Deref) : Extent :=
  ⟨none, 0, false, false, deref, "findutils-default", false⟩

/-- The file is at a depth that is asked about. -/
def allows (extent : Extent) (depth : Nat) : Bool :=
  extent.least ≤ depth && extent.most.all (depth ≤ ·)

/-- Links at a depth are looked at as what they lead to. -/
def follows (extent : Extent) (depth : Nat) : Bool :=
  match extent.deref with
  | .never => false
  | .first => depth = 0
  | .always => true

end Extent

/-!
## What is written of files

How a file that has been found is written: as a format says, or as a line with all
that is known of it. A directive of a format is a letter behind a percent sign,
with flags, a width and a precision between them; those for times have one more
letter for the part of the time.
-/

open Calendar (Moment)

/-- A file that is asked about. -/
structure Found where
  path : Octets
  start : Octets
  depth : Nat
  location : Files.Location
  entry : Files.Entry

/-- What is known of a file besides. -/
structure Facts where
  names : Nat
  serial : Nat
  time : Moment
  /-- What the file leads to if it is a link, or why it leads nowhere. -/
  target : Except Files.OsError Files.Entry

/-! ### Reading formats -/

/-- A format in pieces, and what is odd about it. -/
structure Pieces where
  found : List Piece
  warnings : List Octets

namespace Pieces

def none : Pieces := ⟨[], []⟩

def before (piece : Piece) (rest : Pieces) : Pieces :=
  { rest with found := piece :: rest.found }

/-- A text more in front, of which something is odd. -/
def beforeOdd (text warning : Octets) (rest : Pieces) : Pieces :=
  ⟨.plain text :: rest.found, warning :: rest.warnings⟩

end Pieces

def factLetters : List Char := "bdDfFgGhHiklmMnpPsSuUyYZ".toList

/-- A letter that may stand for something one day. -/
def isReserved (c : Char) : Bool := c = '\x7b' || c = '[' || c = '(' || c = '\x00'

/-- A directive with its parts as texts; a precision without digits is none at all. -/
def directiveOf (flags width places : Octets) (letter : Char) : Directive where
  flags
  width := (Octets.number? width).getD 0
  places := if places.isEmpty then none else some ((Octets.number? (places.drop 1)).getD 0)
  letter
  moment := none
  text := []

/-- The pieces of a format; none if a directive in it is none. -/
def pieces : (fuel : Nat) → Octets → Except Octets Pieces
  | 0, _ => .ok Pieces.none
  | _, [] => .ok Pieces.none
  | _, ['\\'] => .ok
      (Pieces.none.beforeOdd ['\\'] "escape \x60\\' followed by nothing at all".toList)
  | fuel + 1, '\\' :: c :: rest => do
      let (n, behind) := Reader.digits 8 3 0 (c :: rest)
      if behind.length ≤ rest.length then
        return (← pieces fuel behind).before (.plain [Char.ofNat (n % 256)])
      if c = 'c' then return Pieces.none.before .stop
      match (Reader.letterEscape? c).filter fun _ => c ≠ 'e' && c ≠ 'E' with
      | some meant => return (← pieces fuel rest).before (.plain [meant])
      | none =>
          return (← pieces fuel rest).beforeOdd ['\\', c]
            ("unrecognized escape \x60\\".toList ++ [c, '\''])
  | _, ['%'] => .error "error: % at end of format string".toList
  | fuel + 1, '%' :: '%' :: rest => do
      return (← pieces fuel rest).before (.plain ['%'])
  | fuel + 1, '%' :: text => do
      let flags := text.takeWhile "-+ #".toList.contains
      let behind := text.drop flags.length
      let width := behind.takeWhile Char.isDigit
      let behind := behind.drop width.length
      let places := match behind with
        | '.' :: more => '.' :: more.takeWhile Char.isDigit
        | _ => []
      let behind := behind.drop places.length
      let written := '%' :: text.take (text.length - behind.length)
      match behind with
      | [] => reserved ['\x00']
      | letter :: rest =>
          if isReserved letter then return ← reserved [letter]
          let flags := flags ++ width.takeWhile (· = '0')
          let directive := directiveOf flags width places letter
          if factLetters.contains letter then
            return (← pieces fuel rest).before (.fact directive)
          if "act".toList.contains letter then
            return (← pieces fuel rest).before (.time directive .none)
          if "ABCT".toList.contains letter then
            match rest with
            | [] =>
                return Pieces.none.beforeOdd (written ++ [letter])
                  ("format directive \x60".toList ++ written ++
                    letter :: "' should be followed by another character".toList)
            | part :: rest => return (← pieces fuel rest).before (.time directive (some part))
          return (← pieces fuel rest).beforeOdd (written ++ [letter])
            ("unrecognized format directive \x60%".toList ++ [letter, '\''])
  | fuel + 1, c :: rest => do
      return (← pieces fuel rest).before (.plain [c])
where
  /-- What is said of a directive that may be one some day. -/
  reserved (letter : Octets) : Except Octets Pieces :=
    .error ("error: the format directive \x60%".toList ++ letter ++
      "' is reserved for future use".toList)

/-! ### Formats of files -/

def kindLetter : Files.Entry → Char
  | .file .. => 'f'
  | entry => Entries.kindLetter entry

/-- The letter of the kind that a link leads to, or one for why it leads nowhere. -/
def targetLetter : Except Files.OsError Files.Entry → Char
  | .ok entry => kindLetter entry
  | .error .tooManyLinks => 'L'
  | .error error => if error = .notFound || error = .notDirectory then 'N' else '?'

/-- A path up to the last slash before its last name. -/
def directoryPart (path : Octets) : Octets :=
  let trimmed := (path.reverse.dropWhile (· = '/')).reverse
  let kept := if 1 < trimmed.length then trimmed else path
  if kept.contains '/' then ((kept.reverse.dropWhile (· ≠ '/')).drop 1).reverse else ['.']

def lastPart (path : Octets) : Octets :=
  let name := Entries.lastName path
  if path.getLast? = some '/' && name ≠ ['/'] then name ++ ['/'] else name

def pathBehind (found : Found) : Octets :=
  let rest := found.path.drop found.start.length
  if rest.head? = some '/' then rest.drop 1 else rest

/-- The parts of a second as they are shown, so that nobody relies on their number. -/
def fraction (moment : Moment) : Octets :=
  '.' :: Decimal.padded 9 moment.nanos ++ ['0']

/-- A moment as a letter shows it. -/
def timePart (moment : Moment) (part : Char) : Octets :=
  let written (format : Octets) : Octets := moment.written false format
  match part with
  | '@' => Octets.ofInt moment.seconds ++ fraction moment
  | '+' => written "%F+%T".toList ++ fraction moment
  | 'S' => written "%S".toList ++ fraction moment
  | 'T' => written "%T".toList ++ fraction moment
  | 'X' => written "%X".toList ++ fraction moment
  | part => written ['%', part]

def fullTime (moment : Moment) : Octets :=
  moment.written false "%a %b %e %H:%M:%S".toList ++ fraction moment ++
    moment.written false " %Y".toList

/-- What a directive says of a file. -/
def factText (directive : Directive) (found : Found) (facts : Facts) : Octets :=
  let (owner, group) := Entries.ownersOf found.location
  let text (text : Octets) : Octets := { directive with letter := 's' }.texts text
  let count (n : Nat) : Octets := text (Octets.ofNat n)
  let blocks := Entries.blocksOf found.entry
  let size := Entries.lengthOf found.entry
  match directive.letter with
  | 'b' => count (blocks * 2)
  | 'd' => { directive with letter := 'd' }.signed found.depth
  | 'D' => count 65024
  | 'f' => text (lastPart found.path)
  | 'F' => text "ext4".toList
  | 'g' => text group
  | 'G' => count (Entries.numberOf group)
  | 'h' => text (directoryPart found.path)
  | 'H' => text found.start
  | 'i' => count facts.serial
  | 'k' => count blocks
  | 'l' => text (match found.entry with
      | .link path => Octets.ofText path
      | _ => [])
  | 'm' => { directive with letter := 'o' }.unsigned found.entry.mode
  | 'M' => text (Entries.kindLetter found.entry :: Permission.letters found.entry.mode)
  | 'n' => count facts.names
  | 'P' => text (pathBehind found)
  | 's' => count size
  | 'S' =>
      let share? : Option Decimal.Double := do
        let used ← Decimal.Double.ofNat? false (if size = 0 then 1 else blocks * 1024)
        used.div? (← Decimal.Double.ofNat? false (max size 1))
      (share?.map { directive with letter := 'g' }.real).getD []
  | 'u' => text owner
  | 'U' => count (Entries.numberOf owner)
  | 'y' => text [kindLetter found.entry]
  | 'Y' => text [targetLetter facts.target]
  | 'Z' => text []
  | _ => text found.path

/-- What pieces of a format say of a file. -/
def described (found : Found) (facts : Facts) : List Piece → Octets
  | [] => []
  | .plain text :: rest => text ++ described found facts rest
  | .fact directive :: rest => factText directive found facts ++ described found facts rest
  | .time directive none :: rest =>
      { directive with letter := 's' }.texts (fullTime facts.time) ++ described found facts rest
  | .time directive (some part) :: rest =>
      { directive with letter := 's' }.texts (timePart facts.time part) ++
        described found facts rest
  | .stop :: _ => []

/-! ### Lines -/

def shownCharacter (c : Char) : Octets :=
  match c with
  | '\\' => ['\\', '\\']
  | '"' => ['\\', '"']
  | ' ' => ['\\', ' ']
  | '\n' => ['\\', 'n']
  | '\t' => ['\\', 't']
  | '\r' => ['\\', 'r']
  | '\x08' => ['\\', 'b']
  | '\x0c' => ['\\', 'f']
  | c =>
      if c < ' ' || '\x7f' ≤ c then
        '\\' :: [c.toNat / 64, c.toNat / 8 % 8, c.toNat % 8].flatMap Octets.ofNat
      else [c]

def line (now : Int) (found : Found) (facts : Facts) : Octets :=
  let (owner, group) := Entries.ownersOf found.location
  let right (width : Nat) (n : Nat) : Octets := Octets.padLeft width (Octets.ofNat n)
  let time := facts.time.toNanos
  let isRecent := now - Listing.halfYear < time && time ≤ now
  let format := if isRecent then "%b %e %H:%M" else "%b %e  %Y"
  let size := match found.entry with
    | .device device =>
        right 3 device.numbers.1 ++ ", ".toList ++ right 3 device.numbers.2
    | entry => right 8 (Entries.lengthOf entry)
  let goal := match found.entry with
    | .link path => " -> ".toList ++ (Octets.ofText path).flatMap shownCharacter
    | _ => []
  Octets.joined [' ']
      [right 9 facts.serial, right 6 (Entries.blocksOf found.entry),
        Entries.kindLetter found.entry :: Permission.letters found.entry.mode,
        right 3 facts.names, Listing.padRight 8 owner, Listing.padRight 8 group, size,
        facts.time.written false format.toList,
        found.path.flatMap shownCharacter] ++ goal ++ ['\n']

end BlockExtension.Shell.Utility.Finding
