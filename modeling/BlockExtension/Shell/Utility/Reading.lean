import BlockExtension.Shell.Utility.Declaring

/-!
# Filling variables from the input

The utilities that read a line, or all lines, and put them into variables. What
is read is not more than is needed, so that what comes next in the script finds
the rest.
-/

namespace BlockExtension.Shell.Utility

open Act

/-! ## Characters -/

/-- A character that has been read; one behind a backslash separates nothing. -/
structure ReadMark where
  char : Char
  kept : Bool
  deriving DecidableEq

/-- How far is read. -/
structure LineExtent where
  /-- Backslashes stand for themselves. -/
  raw : Bool
  /-- The character that ends what is read, if one does. -/
  delimiter : Option Char
  most : Option Nat

/-- What has been read. -/
structure Scanned where
  marks : List ReadMark
  /-- How many characters have been taken for that. -/
  used : Nat
  /-- It has come to an end before the input has. -/
  ended : Bool

/-- What has been read behind some characters, of which one may count. -/
def Scanned.after (used : Nat) (mark : Option ReadMark) (scanned : Scanned) : Scanned :=
  { scanned with marks := mark.toList ++ scanned.marks, used := scanned.used + used }

/-- Reads from a text as far as it is to be read; so many characters may still come. -/
def scanned (extent : LineExtent) : (left : Option Nat) → Octets → Scanned
  | some 0, _ => ⟨[], 0, true⟩
  | _, [] => ⟨[], 0, false⟩
  | left, c :: rest =>
      if extent.delimiter = some c then ⟨[], 1, true⟩
      else if c = '\\' && !extent.raw then
        match rest with
        | [] => ⟨[], 1, false⟩
        | '\n' :: rest => (scanned extent left rest).after 2 none
        | d :: rest => (scanned extent (left.map (· - 1)) rest).after 2 (some ⟨d, true⟩)
      else if c = '\x00' then (scanned extent left rest).after 1 none
      else (scanned extent (left.map (· - 1)) rest).after 1 (some ⟨c, false⟩)

/-- Reads from a descriptor as far as it is to be read. -/
def takeInput (descriptor : Nat) (extent : LineExtent) : Act Scanned := do
  let some (_, channel) ← channelOf? descriptor | return ⟨[], 0, false⟩
  let pending := channel.pending (← tree)
  let whole : Scanned := scanned extent extent.most (Octets.ofBytes pending)
  let found := match extent.delimiter.bind fun c => pending.data.idxOf? (UInt8.ofNat c.toNat) with
    | some place =>
        let line := scanned extent extent.most (Octets.ofBytes (pending.extract 0 (place + 1)))
        if line.ended then line else whole
    | none => whole
  match ← readBy descriptor fun _ => found.used with
  | .ok _ => return found
  | .error _ => return ⟨[], 0, false⟩

/-! ## Fields -/

/-- The value for each name, as separators cut a line; the last one takes what is left. -/
def cutForNames (separators : Octets) : List Octets → List ReadMark → List (Octets × Octets)
  | [], _ => []
  | names, marks =>
      let blank (mark : ReadMark) : Bool :=
        !mark.kept && separators.contains mark.char && Octets.isSpace mark.char
      let separates (mark : ReadMark) : Bool := !mark.kept && separators.contains mark.char
      let marks := marks.dropWhile blank
      match names with
      | [] => []
      | [last] =>
          let trimmed := (marks.reverse.dropWhile blank).reverse
          let inner := trimmed.takeWhile (!separates ·)
          let behind := (trimmed.drop inner.length).dropWhile blank
          let value :=
            match behind with
            | [mark] => if separates mark then inner else trimmed
            | _ => trimmed
          [(last, value.map (·.char))]
      | name :: more =>
          let value := marks.takeWhile (!separates ·)
          let rest := (marks.drop value.length).dropWhile blank
          let rest :=
            match rest with
            | mark :: behind => if separates mark then behind else rest
            | [] => []
          (name, value.map (·.char)) :: cutForNames separators more rest

def allFields (separators : Octets) (marks : List ReadMark) : List Octets :=
  let names := List.replicate (marks.length + 1) []
  let values := (cutForNames separators names marks).map Prod.snd
  (values.reverse.dropWhile List.isEmpty).reverse

/-! ## A line -/

/-- How a line is to be read. -/
structure ReadCall where
  extent : LineExtent
  /-- Nothing but the number of characters ends what is read. -/
  isExact : Bool
  /-- The variable that gets all fields. -/
  list : Option Octets
  descriptor : Nat
  /-- Nothing is read; it is only asked whether there is something. -/
  asks : Bool
  names : List Octets

/-- How a line is read if nothing is said about it. -/
def ReadCall.plain (names : List Octets) : ReadCall :=
  ⟨⟨false, some '\n', none⟩, false, none, 0, false, names⟩

/-- How the utility is to be used. -/
def readUsage : String :=
  "read: usage: read [-ers] [-a array] [-d delim] [-i text] [-n nchars] [-N nchars] " ++
    "[-p prompt] [-t timeout] [-u fd] [name ...]"

def ReadCall.withOption (letter : Char) (value : Octets) (call : ReadCall) : Act ReadCall := do
  let count : Act Nat := do
    match Octets.number? value with
    | some n => return n
    | none => failWith (value ++ ": invalid number".toList) 1
  match letter with
  | 'a' => return { call with list := some value }
  | 'd' => return { call with
      extent := { call.extent with delimiter := some (value.headD '\x00') } }
  | 'n' => return { call with extent := { call.extent with most := some (← count) } }
  | 'N' => return { call with
      isExact := true, extent := { call.extent with most := some (← count), delimiter := none } }
  | 'u' =>
      match Octets.number? value with
      | some descriptor =>
          if (← channelOf? descriptor).isNone then
            failWith (value ++ ": invalid file descriptor: Bad file descriptor".toList) 1
          return { call with descriptor }
      | none => failWith (value ++ ": invalid file descriptor specification".toList) 1
  | 't' => return { call with asks := value = ['0'] }
  | _ => return call

def readOptions : (fuel : Nat) → ReadCall → Act ReadCall
  | 0, call => return call
  | fuel + 1, call => do
      match call.names with
      | ['-', '-'] :: names => return { call with names }
      | ['-', 'r'] :: names =>
          readOptions fuel { call with extent := { call.extent with raw := true }, names }
      | ['-', 'p'] :: _ :: names => readOptions fuel { call with names }
      | ('-' :: c :: letters) :: names =>
          unless ← isExtended do failWith ("Illegal option -".toList ++ [c]) 2
          if "adinNptu".toList.contains c then
            let value := if letters.isEmpty then names.headD [] else letters
            let call := { call with names := if letters.isEmpty then names.drop 1 else names }
            readOptions fuel (← call.withOption c value)
          else if ['e', 'r', 's'].contains c then
            let raw := call.extent.raw || c = 'r'
            let names := if letters.isEmpty then names else ('-' :: letters) :: names
            readOptions fuel { call with extent := { call.extent with raw }, names }
          else
            complain (['-', c] ++ ": invalid option".toList)
            report (readUsage.toList ++ ['\n'])
            setStatus 2
            throw .fail
      | _ => return call

def read (arguments : List Octets) : Act Nat := do
  let call ← readOptions (2 * arguments.flatten.length + 1) (.plain arguments)
  let extended ← isExtended
  if call.names.isEmpty && !extended then failWith "arg count".toList 2
  if extended then
    if let some name := call.names.find? fun name => !Octets.isName (elementOf name).1 then
      refuseName name
  if call.asks then
    let some (_, channel) ← channelOf? call.descriptor | return 1
    return if (channel.pending (← tree)).isEmpty then 1 else 0
  let found ← takeInput call.descriptor call.extent
  let text := found.marks.map (·.char)
  match call.list, call.names with
  | some name, _ =>
      Assigning.giveList false name ((allFields (← separators) found.marks).map .plain)
  | none, [] => Assigning.give false "REPLY".toList text
  | none, first :: names =>
      if call.isExact then
        Assigning.giveWord first text
        names.forM fun name => Assigning.giveWord name []
      else
        (cutForNames (← separators) (first :: names) found.marks).forM fun (name, value) => do
          unless extended || Octets.isName name do refuseName name
          Assigning.giveWord name value
  return if found.ended then 0 else 1

/-! ## All lines -/

/-- How lines are to be read. -/
structure LinesCall where
  delimiter : Char
  /-- How many lines there are at most; none for all. -/
  most : Option Nat
  first : Option Nat
  passed : Nat
  /-- The delimiters are not kept. -/
  trims : Bool
  descriptor : Nat
  operands : List Octets

/-- How the utility is to be used. -/
def linesUsage : String :=
  ": usage: mapfile [-d delim] [-n count] [-O origin] [-s count] [-t] [-u fd] [-C callback] " ++
    "[-c quantum] [array]"

def linesOptions : (fuel : Nat) → LinesCall → Act LinesCall
  | 0, call => return call
  | fuel + 1, call => do
      match call.operands with
      | ['-', '-'] :: operands => return { call with operands }
      | ('-' :: 't' :: letters) :: rest =>
          let operands := if letters.isEmpty then rest else ('-' :: letters) :: rest
          linesOptions fuel { call with trims := true, operands }
      | ('-' :: c :: letters) :: rest =>
          unless "dnOsuCc".toList.contains c do
            complain (['-', c] ++ ": invalid option".toList)
            let utility := (← process).utility.getD []
            report (utility ++ linesUsage.toList ++ ['\n'])
            setStatus 2
            throw .fail
          let value := if letters.isEmpty then rest.headD [] else letters
          let call := { call with operands := if letters.isEmpty then rest.drop 1 else rest }
          let count (what : String) : Act Nat := do
            match Octets.number? value with
            | some n => return n
            | none => failWith (value ++ (": invalid " ++ what).toList) 1
          let call ← match c with
            | 'd' => pure { call with delimiter := value.headD '\x00' }
            | 'n' => do
                let n ← count "line count"
                pure { call with most := if n = 0 then none else some n }
            | 'O' => do pure { call with first := some (← count "array origin") }
            | 's' => do pure { call with passed := ← count "line count" }
            | 'u' => do pure { call with descriptor := ← count "file descriptor specification" }
            | _ => pure call
          linesOptions fuel call
      | _ => return call

def linesOf (delimiter : Char) : (most : Nat) → Octets → List Octets
  | 0, _ => []
  | _, [] => []
  | most + 1, c :: rest =>
      let (line, behind) := (c :: rest).span (· ≠ delimiter)
      match behind with
      | [] => [line]
      | mark :: behind => (line ++ [mark]) :: linesOf delimiter most behind

def readLines (arguments : List Octets) : Act Nat := do
  let call ← linesOptions (2 * arguments.flatten.length + 1)
    ⟨'\n', none, none, 0, false, 0, arguments⟩
  let name := call.operands.headD "MAPFILE".toList
  unless Octets.isName name do refuseName name
  let some (_, channel) ← channelOf? call.descriptor |
    failWith (Octets.ofNat call.descriptor ++
      ": invalid file descriptor: Bad file descriptor".toList) 1
  let input := Octets.ofBytes (channel.pending (← tree))
  let most := (call.most.map (call.passed + ·)).getD input.length
  let lines := linesOf call.delimiter most input
  let used := (lines.map List.length).foldl (· + ·) 0
  let _ ← readBy call.descriptor fun _ => used
  let texts := (lines.drop call.passed).map fun line =>
    let line := if call.trims && line.getLast? = some call.delimiter then line.dropLast else line
    line.filter (· ≠ '\x00')
  let known ← value? name
  let old := if call.first.isSome then (known.map Value.toRow).getD [] else []
  let fresh := Row.ofTexts (call.first.getD 0) texts
  let row := if old.isEmpty then fresh
    else fresh.foldl (fun row (n, text) => Row.numbered n text row) old
  assign name (.row row)
  return 0

end BlockExtension.Shell.Utility
