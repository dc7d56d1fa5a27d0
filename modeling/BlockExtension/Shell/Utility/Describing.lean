import BlockExtension.Shell.Utility.Listing
import BlockExtension.Shell.Utility.Print

/-!
# What is known of a file

The program that says of a file, or of the system of files that it is in, what a
format asks for. A directive of a format is a letter behind a percent sign, with
flags, a width and a precision between them as in formats of numbers.
-/

namespace BlockExtension.Shell.Utility.Describing

open Act
open Calendar (Moment)
open Print (Directive)

/-! ## Facts -/

/-- What is known of a file. -/
structure Facts where
  path : Octets
  location : Files.Location
  entry : Files.Entry
  names : Nat
  serial : Nat
  time : Moment

def device : Nat := 65024

/-- The permission bits of a file, with those for what kind of file it is. -/
def rawMode (entry : Files.Entry) : Nat :=
  entry.mode + match entry with
    | .directory _ => 0x4000
    | .file .. => 0x8000
    | .link _ => 0xa000
    | .device _ => 0x2000

def deviceOf : Files.Entry → Nat × Nat
  | .device device => device.numbers
  | _ => (0, 0)

/-! ## Directives -/

/-- What a directive shows. -/
inductive Fact where
  | text (shown : Octets)
  | number (n : Nat)
  | octal (n : Nat)
  | hexadecimal (n : Nat)
  | seconds (moment : Moment)

def withFlags (directive : Directive) (known : List Char) (letter : Char) : Directive :=
  { directive with flags := directive.flags.filter known.contains, letter }

def secondsShown (places : Option Nat) (moment : Moment) : Octets :=
  match places.getD 0 with
  | 0 => Octets.ofInt moment.seconds
  | places + 1 =>
      let isBelow := moment.seconds < 0
      let nanos := moment.toNanos.natAbs
      let digits := Decimal.padded 9 (nanos % 1000000000)
      (if isBelow then ['-'] else []) ++ Octets.ofNat (nanos / 1000000000) ++
        '.' :: digits.take (places + 1) ++ List.replicate (places + 1 - 9) '0'

def Fact.shown (directive : Directive) : Fact → Octets
  | .text shown => (withFlags directive ['-'] 's').texts shown
  | .number n => (withFlags directive ['-', '0'] 'u').unsigned n
  | .octal n => (withFlags directive ['-', '#', '0'] 'o').unsigned n
  | .hexadecimal n => (withFlags directive ['-', '#', '0'] 'x').unsigned n
  | .seconds moment =>
      (withFlags directive ['-', '0', '+', ' '] 'd').fill true []
        (secondsShown directive.places moment)

def fullTime (moment : Moment) : Octets :=
  moment.written true "%Y-%m-%d %H:%M:%S.%N %z".toList

/-- A name as it is shown, with what it leads to if it is that of a link. -/
def fullName (spell : Octets → Octets) (facts : Facts) : Octets :=
  spell facts.path ++ match facts.entry with
    | .link path => " -> ".toList ++ spell (Octets.ofText path)
    | _ => []

/-- What a letter asks for of a file; `part` stands before it for the parts of a device number. -/
def factOf? (spell : Octets → Octets) (facts : Facts) (part : Option Char) (letter : Char) :
    Option Fact :=
  let (owner, group) := Entries.ownersOf facts.location
  let (major, minor) := deviceOf facts.entry
  match part, letter with
  | some 'H', 'd' => some (.number (device / 256))
  | some 'L', 'd' => some (.number (device % 256))
  | some 'H', 'r' => some (.number major)
  | some 'L', 'r' => some (.number minor)
  | _, 'a' => some (.octal facts.entry.mode)
  | _, 'A' => some (.text (Entries.kindLetter facts.entry ::
      Permission.letters facts.entry.mode))
  | _, 'b' => some (.number (Entries.blocksOf facts.entry * 2))
  | _, 'B' => some (.number 512)
  | _, 'd' => some (.number device)
  | _, 'D' => some (.hexadecimal device)
  | _, 'f' => some (.hexadecimal (rawMode facts.entry))
  | _, 'F' => some (.text (Entries.kindName facts.entry).toList)
  | _, 'g' => some (.number (Entries.numberOf group))
  | _, 'G' => some (.text group)
  | _, 'h' => some (.number facts.names)
  | _, 'i' => some (.number facts.serial)
  | _, 'm' => some (.text ['/'])
  | _, 'n' => some (.text facts.path)
  | _, 'N' => some (.text (fullName spell facts))
  | _, 'o' => some (.number 4096)
  | _, 'r' => some (.number (major * 256 + minor))
  | _, 'R' => some (.hexadecimal (major * 256 + minor))
  | _, 's' => some (.number (Entries.lengthOf facts.entry))
  | _, 't' => some (.hexadecimal major)
  | _, 'T' => some (.hexadecimal minor)
  | _, 'u' => some (.number (Entries.numberOf owner))
  | _, 'U' => some (.text owner)
  | _, letter =>
      if "wxyz".toList.contains letter then some (.text (fullTime facts.time))
      else if "WXYZ".toList.contains letter then some (.seconds facts.time)
      else none

def systemFactOf? (path : Octets) (letter : Char) : Option Fact :=
  match letter with
  | 'a' => some (.number 20687804)
  | 'b' => some (.number 66053021)
  | 'c' => some (.number 16777216)
  | 'd' => some (.number 16547223)
  | 'f' => some (.number 61089275)
  | 'i' => some (.hexadecimal 0xfe00)
  | 'l' => some (.number 255)
  | 'n' => some (.text path)
  | 's' => some (.number 4096)
  | 'S' => some (.number 4096)
  | 't' => some (.hexadecimal 0xef53)
  | 'T' => some (.text "ext2/ext3".toList)
  | _ => none

/-! ## Formats -/

/-- What a format makes of a file. -/
structure Description where
  written : Octets
  complaints : List Octets
  /-- Nothing more is to be done, since the format is none. -/
  isInvalid : Bool

def Description.before (text : Octets) (rest : Description) : Description :=
  { rest with written := text ++ rest.written }

/-- How a format is read. -/
structure Manner where
  fact : Option Char → Char → Option Fact
  /-- The letters that may have a letter for a part of a number before them. -/
  divided : List Char
  escapes : Bool
  path : Octets

def numberedOctet? (text : Octets) : Option (Char × Octets) :=
  let (base, count, start) := match text with
    | 'x' :: rest => (16, 2, rest)
    | text => (8, 3, text)
  let (n, behind) := Reader.digits base count 0 start
  if behind.length = start.length then none else some (Char.ofNat (n % 256), behind)

/-- What a format makes of a file, from some place in it on. -/
def described (manner : Manner) : (fuel : Nat) → Octets → Description
  | 0, _ => ⟨[], [], false⟩
  | _, [] => ⟨[], [], false⟩
  | fuel + 1, '%' :: rest =>
      let flags := rest.takeWhile "'-+ #0I".toList.contains
      let behind := rest.drop flags.length
      let width := behind.takeWhile Char.isDigit
      let behind := behind.drop width.length
      let (places, behind) := match behind with
        | '.' :: more =>
            let digits := more.takeWhile Char.isDigit
            (some digits, more.drop digits.length)
        | _ => (none, behind)
      let start := rest.take (rest.length - behind.length)
      let directive (letter : Char) : Directive :=
        { flags
          width := (Octets.number? width).getD 0
          places := places.map fun digits =>
            (Octets.number? digits).getD (if "WXYZ".toList.contains letter then 9 else 0)
          letter
          moment := none
          text := [] }
      let answer (part : Option Char) (letter : Char) (more : Octets) : Description :=
        let rest := described manner fuel more
        if letter = 'C' then
          let complaint := "failed to get security context of ".toList ++ quoted manner.path ++
            ": No data available".toList
          { rest.before ['?'] with complaints := complaint :: rest.complaints }
        else
          match manner.fact part letter with
          | some fact => rest.before (fact.shown (directive letter))
          | none => rest.before ['?']
      let percent (letter : Octets) (more : Octets) : Description :=
        if start.isEmpty then (described manner fuel more).before ['%']
        else
          ⟨[], [quoted ('%' :: start ++ letter) ++ ": invalid directive".toList], true⟩
      match behind with
      | [] => percent [] []
      | '%' :: more => percent ['%'] more
      | part :: letter :: more =>
          if (part = 'H' || part = 'L') && manner.divided.contains letter then
            answer (some part) letter more
          else answer none part (letter :: more)
      | [letter] => answer none letter []
  | fuel + 1, '\\' :: rest =>
      if !manner.escapes then (described manner fuel rest).before ['\\']
      else
        match numberedOctet? rest, rest with
        | some (c, more), _ => (described manner fuel more).before [c]
        | none, [] => ⟨['\\'], ["warning: backslash at end of format".toList], false⟩
        | none, c :: more =>
            let rest := described manner fuel more
            let meant? := if c = '"' then some c
              else (Reader.letterEscape? c).filter fun _ => c ≠ 'E'
            match meant? with
            | some meant => rest.before [meant]
            | none =>
                let complaint := "warning: unrecognized escape '\\".toList ++ [c, '\'']
                { rest.before [c] with complaints := complaint :: rest.complaints }
  | fuel + 1, c :: rest => (described manner fuel rest).before [c]

def usualFormat (entry : Files.Entry) : Octets :=
  let links := match entry with
    | .device _ => "%-5h Device type: %Hr,%Lr"
    | _ => "%h"
  ("  File: %N\n  Size: %-10s\tBlocks: %-10b IO Block: %-6o %F\n" ++
    "Device: %Hd,%Ld\tInode: %-10i  Links: " ++ links ++ "\n" ++
    "Access: (%04a/%10.10A)  Uid: (%5u/%8U)   Gid: (%5g/%8G)\n" ++
    "Access: %x\nModify: %y\nChange: %z\n Birth: %w\n").toList

def terseFormat : Octets := "%n %s %b %f %u %g %D %i %h %t %T %X %Y %Z %W %o\n".toList

def systemFormat (isTerse : Bool) : Octets :=
  if isTerse then "%n %i %l %t %s %S %b %f %a %c %d\n".toList
  else
    ("  File: \"%n\"\n    ID: %-8i Namelen: %-7l Type: %T\n" ++
      "Block size: %-10s Fundamental block size: %S\n" ++
      "Blocks: Total: %-10b Free: %-10f Available: %a\n" ++
      "Inodes: Total: %-10c Free: %d\n").toList

/--
Describes a file as a format says; tells whether all went well, or nothing if the
format is none.
-/
def describe (self : Octets) (manner : Manner) (format : Octets) : Act (Option Bool) := do
  let description := described manner (format.length + 1) format
  put description.written
  for complaint in description.complaints do complainAs self complaint
  if description.isInvalid then return none
  return some (!description.complaints.any fun text =>
    (Octets.behind? "failed".toList text).isSome)

/-- Does something with each path until there is nothing more to be done; gives the status. -/
def untilInvalid (act : Octets → Act (Option Bool)) : List Octets → Act Nat
  | [] => return 0
  | path :: rest => do
      match ← act path with
      | none => return 1
      | some fine => return max (Entries.statusOf fine) (← untilInvalid act rest)

def spelling : Act (Octets → Octets) := do
  match ← textOf? "QUOTING_STYLE".toList with
  | some ['l', 'i', 't', 'e', 'r', 'a', 'l'] => return id
  | _ => return Listing.spelled (.shell true true)

/-- Says what is known of files. -/
def stat : Program := fun self arguments =>
  withOptions self
      [setting "format" 'c', ⟨"printf", none, .value⟩, switch "dereference" 'L',
        switch "file-system" 'f', switch "terse" 't', ⟨"cached", none, .value⟩] true 1 arguments
      fun given => do
    if given.operands.isEmpty then return ← lackOperand self "operand" none
    let chosen := (given.options.filter fun option =>
      option.word = "format" || option.word = "printf").getLast?
    let escapes := chosen.any (·.word = "printf")
    let format? := chosen.map fun option =>
      (option.value.getD []) ++ (if escapes then [] else ['\n'])
    let spell ← if chosen.isSome then spelling else pure id
    untilInvalid (fun path => do
      match ← Entries.lookedUp (given.has "dereference" || given.has "file-system") path with
      | .error error =>
          let what := if given.has "file-system" then "cannot read file system information for "
            else "cannot statx "
          return some (← Entries.refuse self what path error)
      | .ok (location, entry) =>
          if given.has "file-system" then
            let manner : Manner := ⟨fun _ letter => systemFactOf? path letter, [], escapes, path⟩
            describe self manner (format?.getD (systemFormat (given.has "terse")))
          else
            let machine ← get
            let names ← Entries.nameCount location entry
            let facts : Facts :=
              { path
                location
                entry
                names
                serial := Entries.serialOf machine.tree location
                time := Moment.ofNanos (machine.timeOf location) }
            let manner : Manner := ⟨factOf? spell facts, ['d', 'r'], escapes, path⟩
            let usual := if given.has "terse" then terseFormat else usualFormat entry
            describe self manner (format?.getD usual)) given.operands

end BlockExtension.Shell.Utility.Describing
