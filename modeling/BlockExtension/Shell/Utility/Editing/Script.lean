import BlockExtension.Shell.Reader.Words
import BlockExtension.Shell.Regex

/-!
# Scripts for editing lines

What a script for the stream editor is made of and how it is written: commands
of one letter, each for the lines that addresses in front of it choose. Blocks
are kept flat, with the place of the end in the opening brace.
-/

namespace BlockExtension.Shell.Utility.Editing

/-! ## Scripts -/

/-- An expression that is sought; without one of its own the one that was sought last. -/
structure Sought where
  regex : Option Regex
  foldsCase : Bool
  perLine : Bool

/-- What chooses a line. -/
inductive Address where
  | line (number : Nat)
  | last
  | step (first step : Nat)
  | sought (sought : Sought)

/-- Where a range of lines ends. -/
inductive Limit where
  | address (address : Address)
  | more (count : Nat)
  | multiple (factor : Nat)

/-- The lines that a command is for. -/
structure Selection where
  start : Option Address
  limit : Option Limit
  negated : Bool

/-- A case that letters are put into. -/
inductive Case where
  | upper
  | lower
  deriving DecidableEq, Repr

/-- A piece of what is put in the place of a match: a text and, behind it, a group. -/
structure Piece where
  text : Octets
  group : Option Nat
  case : Option Case
  firstCase : Option Case
  deriving DecidableEq, Repr

/-- A substitution. -/
structure Substitution where
  sought : Sought
  pieces : List Piece
  /-- Matches before this one stay. -/
  first : Nat
  all : Bool
  prints : Bool
  /-- The new text is run as a command, and what that writes is put in its place. -/
  runs : Bool
  /-- It is written before it is run, rather than behind that. -/
  printsFirst : Bool
  path : Option Octets

/-- When a jump is made. -/
inductive Condition where
  | always
  | substituted
  | unsubstituted
  deriving DecidableEq, Repr

/-- What a command does. -/
inductive Action where
  /-- The commands up to a place are for the lines of this one. -/
  | block (stop : Nat)
  | close
  | label (name : Octets)
  | jump (condition : Condition) (label : Octets)
  | number
  | append (text : Octets)
  | insert (text : Octets)
  | change (text : Octets)
  | delete
  | deleteFirst
  /-- Runs a command, or else the space as one. -/
  | execute (command : Option Octets)
  | get
  | getMore
  | hold
  | holdMore
  /-- Shows the space, in lines of a width if one is given. -/
  | list (width : Option Nat)
  | fileName
  | next
  | nextMore
  | print
  | printFirst
  | quit (status : Nat) (silently : Bool)
  | readFile (path : Octets)
  | readLine (path : Octets)
  | substitute (substitution : Substitution)
  | writeFile (path : Octets) (onlyFirst : Bool)
  | exchange
  | transliterate (source target : Octets)
  | clear

/-- A command. -/
structure Command where
  selection : Selection
  action : Action

/-! ## Reading scripts -/

/-- Where a part of a script comes from: an argument, counted from one on, or a file. -/
inductive Origin where
  | argument (index : Nat)
  | file (name : Octets)
  deriving DecidableEq, Repr

/-- A part of a script. -/
structure Part where
  origin : Origin
  text : Octets
  extended : Bool

/-- What is wrong with a script. -/
inductive Problem where
  /-- Something at a place: after so many characters, and in the line with a number. -/
  | at (origin : Origin) (characters line : Nat) (text : String)
  | of (text : Octets)

/-- The problem in words. -/
def Problem.message : Problem → Octets
  | .at (.argument index) characters _ text =>
      s!"-e expression #{index}, char {characters}: {text}".toList
  | .at (.file name) _ line text => "file ".toList ++ name ++ s!" line {line}: {text}".toList
  | .of text => text

/-- What is left of a part of a script, and how it is read. -/
structure Source where
  rest : Octets
  part : Part
  /-- Commands that use other files or programs are refused. -/
  isShielded : Bool
  /-- The blocks that have no end yet: what is said of them if they get none. -/
  opened : List Problem
  /-- The last command has a text that goes on in the next part. -/
  isPending : Bool

abbrev Read := StateT Source (Except Problem)

namespace Read

/-- What there is to say at the current place. -/
def problem (text : String) : Read Problem := do
  let source ← get
  let whole := source.part.text
  let taken := whole.take (whole.length - source.rest.length)
  return .at source.part.origin taken.length (taken.count '\n' + 1) text

def stop {α : Type} (text : String) : Read α := do
  throw (← problem text)

/-- The next character, which is read. -/
def take : Read (Option Char) := do
  let source ← get
  match source.rest with
  | [] => return none
  | c :: rest =>
      set { source with rest }
      return some c

def peek : Read (Option Char) := return (← get).rest.head?

/-- Reads the characters of a kind. -/
def takeWhile (kind : Char → Bool) : Read Octets := do
  let source ← get
  let (taken, rest) := source.rest.span kind
  set { source with rest }
  return taken

def skipBlanks : Read Unit := do
  let _ ← takeWhile Octets.isBlank

def number : Read Nat := do
  skipBlanks
  return Octets.valueOf (← takeWhile Char.isDigit)

/-- Refuses a command that uses other files or programs, where that is not allowed. -/
def checkShield : Read Unit := do
  if (← get).isShielded then stop "e/r/w commands disabled in sandbox mode"

/-! ### Texts between delimiters -/

/-- A place inside the brackets of a set: behind so many characters, or in a name. -/
inductive Inside where
  | start
  | behindNegation
  | members
  | name (mark : Char)
  deriving DecidableEq, Repr

/-- Where the next place in a set is, behind a character and before another; none outside. -/
def Inside.next? (inside : Inside) (before : Option Char) (c : Char) (next : Option Char) :
    Option Inside :=
  match inside with
  | .start => if c = '^' then some .behindNegation else inMembers
  | .behindNegation => inMembers
  | .members => if c = ']' then none else inMembers
  | .name mark => if c = ']' && before = some mark then some .members else some (.name mark)
where
  /-- The next place, where a bracket does not end the set. -/
  inMembers : Option Inside :=
    match c, next with
    | '[', some ':' => some (.name ':')
    | '[', some '.' => some (.name '.')
    | '[', some '=' => some (.name '=')
    | _, _ => some .members

/--
A stretch up to a delimiter, with what is behind it; a delimiter in a set of an
expression is none. A backslash takes the meaning of a delimiter and of a line end
away, and stands for one with an n in an expression. Without an end there is only
what is left where that was noticed.
-/
def delimitedFrom (delimiter : Char) (isRegex : Bool) :
    (inside : Option Inside) → (before : Octets) → Octets → Except Octets (Octets × Octets)
  | _, _, [] => .error []
  | some inside, before, '\\' :: 'n' :: rest =>
      let inside := if inside = .start || inside = .behindNegation then .members else inside
      delimitedFrom delimiter isRegex (some inside) ('\n' :: before) rest
  | some inside, before, c :: rest =>
      if c = '\n' then .error (c :: rest)
      else
        delimitedFrom delimiter isRegex (inside.next? before.head? c rest.head?) (c :: before) rest
  | none, before, '\\' :: rest =>
      match rest with
      | [] => .error []
      | c :: rest =>
          if c = '\n' || (c = delimiter && (isRegex || c ≠ '&')) then
            delimitedFrom delimiter isRegex none (c :: before) rest
          else if c = 'n' && isRegex then delimitedFrom delimiter isRegex none ('\n' :: before) rest
          else delimitedFrom delimiter isRegex none (c :: '\\' :: before) rest
  | none, before, c :: rest =>
      if c = delimiter then .ok (before.reverse, rest)
      else if c = '\n' then .error (c :: rest)
      else
        let inside := if isRegex && c = '[' then some Inside.start else none
        delimitedFrom delimiter isRegex inside (c :: before) rest

def delimited (delimiter : Char) (isRegex : Bool) (missing : String) : Read Octets := do
  let source ← get
  match delimitedFrom delimiter isRegex none [] source.rest with
  | .ok (text, rest) =>
      set { source with rest }
      return text
  | .error rest =>
      set { source with rest }
      stop missing

/-! ### Escapes -/

/-- The character that a letter, or a letter and a code, stands for behind a backslash. -/
def escaped? : Octets → Option (Char × Octets)
  | [] => none
  | c :: rest =>
      let coded (base count : Nat) : Option (Char × Octets) :=
        match Reader.digits base count 0 rest with
        | (code, behind) =>
            if behind.length = rest.length then none
            else some (Char.ofNat (code % 256), behind)
      match c with
      | 'a' => some ('\x07', rest)
      | 'f' => some ('\x0c', rest)
      | 'r' => some ('\r', rest)
      | 't' => some ('\t', rest)
      | 'v' => some ('\x0b', rest)
      | 'd' => coded 10 3
      | 'o' => coded 8 3
      | 'x' => coded 16 2
      | 'c' =>
          match rest with
          | [] => none
          | d :: rest => some (Char.ofNat (d.toUpper.toNat ^^^ 64), rest)
      | _ => none

def resolved : (fuel : Nat) → Octets → Octets
  | fuel + 1, '\\' :: rest =>
      match escaped? rest, rest with
      | some (c, behind), _ => c :: resolved fuel behind
      | none, c :: behind => '\\' :: c :: resolved fuel behind
      | none, [] => ['\\']
  | fuel + 1, c :: rest => c :: resolved fuel rest
  | _, rest => rest

/-- A text with all escapes resolved; a backslash before another character is dropped. -/
def unescaped : (fuel : Nat) → Octets → Octets
  | fuel + 1, '\\' :: rest =>
      match escaped? rest, rest with
      | some (c, behind), _ => c :: unescaped fuel behind
      | none, c :: behind => (if c = 'n' then '\n' else c) :: unescaped fuel behind
      | none, [] => []
  | fuel + 1, c :: rest => c :: unescaped fuel rest
  | _, rest => rest

/-! ### Addresses -/

/-- The expression that a stretch writes; an empty one stands for the one used last. -/
def sought (text : Octets) (foldsCase perLine : Bool) : Read Sought := do
  if text.isEmpty then
    if foldsCase || perLine then stop "cannot specify modifiers on empty regexp"
    return ⟨none, foldsCase, perLine⟩
  match Regex.ofText (← get).part.extended false (resolved text.length text) with
  | .ok regex => return ⟨some regex, foldsCase, perLine⟩
  | .error .bareClass => throw (.of (Regex.Problem.message .bareClass).toList)
  | .error problem => stop problem.message

def delimitedAddress (delimiter : Char) : Read Address := do
  let text ← delimited delimiter true "unterminated address regex"
  let letters ← takeWhile fun c => c = 'I' || c = 'M'
  return .sought (← sought text (letters.contains 'I') (letters.contains 'M'))

def address? : Read (Option Address) := do
  match ← peek with
  | some '$' =>
      let _ ← take
      return some .last
  | some '/' =>
      let _ ← take
      return some (← delimitedAddress '/')
  | some '\\' =>
      let _ ← take
      match ← take with
      | some delimiter => return some (← delimitedAddress delimiter)
      | none => stop "unterminated address regex"
  | some c =>
      if !c.isDigit then return none
      let first ← number
      skipBlanks
      if (← peek) ≠ some '~' then return some (.line first)
      let _ ← take
      let step ← number
      return some (if step = 0 then .line first else .step first step)
  | none => return none

/-- The end of a range. -/
def limit : Read Limit := do
  skipBlanks
  match ← peek with
  | some '+' =>
      let _ ← take
      return .more (← number)
  | some '~' =>
      let _ ← take
      return .multiple (← number)
  | _ =>
      match ← address? with
      | some address => return .address address
      | none => do
          let _ ← take
          stop "unexpected \x60,'"

/-- The lines that the next command is for. -/
def selection : Read Selection := do
  let next ← peek
  if next = some '+' || next = some '~' then
    let _ ← take
    let _ ← number
    stop "invalid usage of +N or ~N as first address"
  let start ← address?
  skipBlanks
  let hasLimit := start.isSome && (← peek) = some ','
  let limit ← if hasLimit then do
      let _ ← take
      pure (some (← limit))
    else pure none
  skipBlanks
  if let some (.line 0) := start then
    let isFine := match limit with
      | some (.address (.sought _)) => true
      | _ => false
    unless isFine do
      let _ ← take
      stop "invalid usage of line address 0"
  if (← peek) = some '!' then
    let _ ← take
    skipBlanks
    if (← peek) = some '!' then
      let _ ← take
      stop "multiple \x60!'s"
    return ⟨start, limit, true⟩
  return ⟨start, limit, false⟩

/-! ### Arguments of commands -/

def endOfCommand : Read Unit := do
  skipBlanks
  match ← peek with
  | none => return ()
  | some '\x7d' => return ()
  | some '#' => return ()
  | some c =>
      let _ ← take
      unless c = '\n' || c = ';' do stop "extra characters after command"

/--
A text up to a line end that has no backslash before it, what is behind, and whether
the text goes on in another part.
-/
def linesFrom : (before : Octets) → Octets → Octets × Octets × Bool
  | before, [] => (before.reverse, [], false)
  | before, ['\\'] => (before.reverse, [], true)
  | before, '\\' :: c :: rest => linesFrom (c :: '\\' :: before) rest
  | before, '\n' :: rest => (before.reverse, rest, false)
  | before, c :: rest => linesFrom (c :: before) rest

def remainingLines : Read Octets := do
  let source ← get
  let (text, rest, isPending) := linesFrom [] source.rest
  set { source with rest, isPending }
  return unescaped text.length text ++ ['\n']

/--
The text that a command puts between lines. Blanks before it are dropped unless a
backslash protects them; it may also start in the next line.
-/
def lines : Read Octets := do
  skipBlanks
  match ← peek with
  | none => stop "expected \\ after \x60a', \x60c' or \x60i'"
  | some '\\' =>
      let source ← get
      let behind := source.rest.drop 1
      match behind.dropWhile Octets.isBlank with
      | '\n' :: rest => do
          set { source with rest }
          remainingLines
      | [] => do
          set { source with rest := [], isPending := true }
          return []
      | _ => do
          set { source with rest := behind }
          remainingLines
  | some _ => remainingLines

def labelName : Read Octets := do
  skipBlanks
  takeWhile fun c => !Octets.isSpace c && !";#\x7d".toList.contains c

def path : Read Octets := do
  checkShield
  skipBlanks
  let path ← takeWhile (· ≠ '\n')
  if path.isEmpty then stop "missing filename in r/R/w/W commands"
  return path

/--
The pieces of a replacement. A piece ends where a group is put in, where the case of
letters changes, and behind a character that a backslash protects.
-/
def pieces : (fuel : Nat) → (piece : Piece) → Octets → List Piece
  | fuel + 1, piece, '&' :: rest =>
      { piece with group := some 0 } :: pieces fuel (next piece) rest
  | fuel + 1, piece, '\\' :: rest =>
      match escaped? rest, rest with
      | some (c, behind), _ => pieces fuel { piece with text := piece.text ++ [c] } behind
      | none, [] => [{ piece with text := piece.text ++ ['\\'] }]
      | none, c :: rest =>
          if c.isDigit then
            { piece with group := some (c.toNat - '0'.toNat) } :: pieces fuel (next piece) rest
          else
            match c with
            | 'U' => piece :: pieces fuel { next piece with case := some .upper } rest
            | 'L' => piece :: pieces fuel { next piece with case := some .lower } rest
            | 'E' => piece :: pieces fuel { next piece with case := none } rest
            | 'u' => piece :: pieces fuel { next piece with firstCase := some .upper } rest
            | 'l' => piece :: pieces fuel { next piece with firstCase := some .lower } rest
            | c =>
                let c := if c = 'n' then '\n' else c
                { piece with text := piece.text ++ [c] } :: pieces fuel (next piece) rest
  | fuel + 1, piece, c :: rest => pieces fuel { piece with text := piece.text ++ [c] } rest
  | _, piece, _ => [piece]
where
  /-- The empty piece behind another one. -/
  next (piece : Piece) : Piece := ⟨[], none, piece.case, none⟩

/-- The flags behind a substitution. -/
structure Flags where
  all : Bool
  prints : Bool
  runs : Bool
  printsFirst : Bool
  folds : Bool
  perLine : Bool
  first : Option Nat
  path : Option Octets

def flags : (fuel : Nat) → Flags → Read Flags
  | 0, found => return found
  | fuel + 1, found => do
      match ← take with
      | none => return found
      | some 'g' =>
          if found.all then stop "multiple \x60g' options to \x60s' command"
          flags fuel { found with all := true }
      | some 'p' =>
          if found.prints then stop "multiple \x60p' options to \x60s' command"
          flags fuel { found with prints := true, printsFirst := !found.runs }
      | some 'w' => return { found with path := some (← path) }
      | some 'i' => flags fuel { found with folds := true }
      | some 'I' => flags fuel { found with folds := true }
      | some 'm' => flags fuel { found with perLine := true }
      | some 'M' => flags fuel { found with perLine := true }
      | some 'e' =>
          checkShield
          flags fuel { found with runs := true }
      | some '\n' => return found
      | some ';' => return found
      | some c =>
          if c = '\x7d' || c = '#' then
            modify fun source => { source with rest := c :: source.rest }
            return found
          else if c.isDigit then
            modify fun source => { source with rest := c :: source.rest }
            let first ← number
            if found.first.isSome then stop "multiple number options to \x60s' command"
            if first = 0 then stop "number option to \x60s' command may not be zero"
            flags fuel { found with first := some first }
          else if Octets.isBlank c then flags fuel found
          else stop "unknown option to \x60s'"

def groupCount : Regex → Nat
  | .group index body => max index (groupCount body)
  | .sequence first second => max (groupCount first) (groupCount second)
  | .alternative first second => max (groupCount first) (groupCount second)
  | .repeated body .. => groupCount body
  | _ => 0

def substitution : Read Action := do
  let missing := "unterminated \x60s' command"
  match ← take with
  | none => stop missing
  | some delimiter =>
      if delimiter = '\n' || delimiter = '\\' then stop missing
      let pattern ← delimited delimiter true missing
      let replacement ← delimited delimiter false missing
      let flags ← flags ((← get).rest.length + 1)
        ⟨false, false, false, false, false, false, none, none⟩
      let sought ← sought pattern flags.folds flags.perLine
      let pieces := pieces replacement.length ⟨[], none, none, none⟩ replacement
      let greatest := pieces.foldl (fun greatest piece => max greatest (piece.group.getD 0)) 0
      if let some regex := sought.regex then
        if groupCount regex < greatest then
          stop s!"invalid reference \\{greatest} on \x60s' command's RHS"
      return .substitute
        ⟨sought, pieces, flags.first.getD 1, flags.all, flags.prints, flags.runs,
          flags.printsFirst, flags.path⟩

/-- The characters of a table; a backslash that stands for nothing else is a character too. -/
def tableCharacters : Octets → Octets
  | '\\' :: '\\' :: rest => '\\' :: tableCharacters rest
  | '\\' :: 'n' :: rest => '\n' :: tableCharacters rest
  | c :: rest => c :: tableCharacters rest
  | [] => []

def table : Read Action := do
  let missing := "unterminated \x60y' command"
  match ← take with
  | none => stop missing
  | some delimiter =>
      let side : Read Octets := do
        let text ← delimited delimiter false missing
        return tableCharacters (resolved text.length text)
      let source ← side
      let target ← side
      if source.length ≠ target.length then
        stop "strings for \x60y' command are different lengths"
      endOfCommand
      return .transliterate source target

/-- A command with nothing behind its letter. -/
def alone (action : Action) : Read Action := do
  endOfCommand
  return action

/-- A number that may stand behind the letter of a command, up to the end of that. -/
def numberArgument : Read (Option Nat) := do
  skipBlanks
  let digits ← takeWhile Char.isDigit
  endOfCommand
  return Octets.number? digits

/-- A command with a status behind its letter; it takes one address at most. -/
def ending (selection : Selection) (silently : Bool) : Read Action := do
  if selection.limit.isSome then stop "command only uses one address"
  return .quit ((← numberArgument).getD 0) silently

def versionOf (text : Octets) : List Nat := (Octets.cutAt '.' text).map Octets.valueOf

def isKnownVersion (text : Octets) : Bool :=
  match versionOf text with
  | [] => true
  | major :: rest => major < 4 || (major = 4 && rest.headD 0 ≤ 9)

/-- The command that runs another one, behind its letter. -/
def execution : Read Action := do
  checkShield
  skipBlanks
  match ← peek with
  | none => return .execute none
  | some '\n' => return .execute none
  | some _ => return .execute (some (← lines))

/-- What the command with a letter does. -/
def action (selection : Selection) (letter : Char) : Read Action := do
  match letter with
  | '\x7b' =>
      let problem ← problem "unmatched \x60\x7b'"
      let problem := match problem with
        | .at origin _ line text => .at origin 0 line text
        | problem => problem
      modify fun source => { source with opened := problem :: source.opened }
      return .block 0
  | '\x7d' =>
      if (← get).opened.isEmpty then stop "unexpected \x60\x7d'"
      if selection.start.isSome then stop "\x60\x7d' doesn't want any addresses"
      modify fun source => { source with opened := source.opened.drop 1 }
      alone .close
  | ':' =>
      if selection.start.isSome then stop ": doesn't want any addresses"
      let name ← labelName
      if name.isEmpty then stop "\":\" lacks a label"
      return .label name
  | 'b' => return .jump .always (← labelName)
  | 't' => return .jump .substituted (← labelName)
  | 'T' => return .jump .unsubstituted (← labelName)
  | '=' => alone .number
  | 'a' => return .append (← lines)
  | 'i' => return .insert (← lines)
  | 'c' => return .change (← lines)
  | 'd' => alone .delete
  | 'D' => alone .deleteFirst
  | 'e' => execution
  | 'g' => alone .get
  | 'G' => alone .getMore
  | 'h' => alone .hold
  | 'H' => alone .holdMore
  | 'l' => return .list (← numberArgument)
  | 'F' => alone .fileName
  | 'n' => alone .next
  | 'N' => alone .nextMore
  | 'p' => alone .print
  | 'P' => alone .printFirst
  | 'q' => ending selection false
  | 'Q' => ending selection true
  | 'r' => return .readFile (← path)
  | 'R' => return .readLine (← path)
  | 's' => substitution
  | 'w' => return .writeFile (← path) false
  | 'W' => return .writeFile (← path) true
  | 'x' => alone .exchange
  | 'y' => table
  | 'z' => alone .clear
  | letter => stop s!"unknown command: \x60{letter}'"

/-- Commands up to the end of a part, backwards; `found` are those before. -/
def commands : (fuel : Nat) → (found : List Command) → Read (List Command)
  | 0, found => return found
  | fuel + 1, found => do
      let _ ← takeWhile fun c => Octets.isSpace c || c = ';'
      if (← peek).isNone then return found
      let selection ← selection
      match ← take with
      | none => stop "missing command"
      | some '#' =>
          if selection.start.isSome then stop "comments don't accept any addresses"
          let _ ← takeWhile (· ≠ '\n')
          commands fuel found
      | some 'v' =>
          let version ← labelName
          unless isKnownVersion version do stop "expected newer version of sed"
          commands fuel found
      | some letter =>
          let action ← action selection letter
          commands fuel (⟨selection, action⟩ :: found)

def withMoreText (command : Command) (text : Octets) : Command :=
  match command.action with
  | .append before => { command with action := .append (before ++ text) }
  | .insert before => { command with action := .insert (before ++ text) }
  | .change before => { command with action := .change (before ++ text) }
  | .execute (some before) => { command with action := .execute (some (before ++ text)) }
  | _ => command

/-- Commands up to the end of a part, which may start with more text for the last one. -/
def partCommands (found : List Command) : Read (List Command) := do
  let source ← get
  let found ← match found with
    | last :: before =>
        if source.isPending then do
          let text ← remainingLines
          pure (withMoreText last text :: before)
        else pure (last :: before)
    | [] => pure []
  commands (source.rest.length + 1) found

def ofParts (isShielded : Bool) (opened : List Problem) (isPending : Bool)
    (found : List Command) : List Part → Except Problem (List Command)
  | [] =>
      match opened with
      | problem :: _ => .error problem
      | [] => .ok found
  | part :: rest => do
      let (found, source) ←
        (partCommands found).run ⟨part.text, part, isShielded, opened, isPending⟩
      ofParts isShielded source.opened source.isPending found rest

/-- Puts the places of their ends into blocks; `opened` are those that have no end yet. -/
def closeBlocks : (opened : List Nat) → (place : Nat) → Array Command →
    List Command → Array Command
  | _, _, all, [] => all
  | opened, place, all, ⟨_, .block _⟩ :: rest => closeBlocks (place :: opened) (place + 1) all rest
  | start :: opened, place, all, ⟨_, .close⟩ :: rest =>
      let all := all.modify start fun command => { command with action := .block place }
      closeBlocks opened (place + 1) all rest
  | opened, place, all, _ :: rest => closeBlocks opened (place + 1) all rest

end Read

def missingLabel? (commands : Array Command) : Option Octets :=
  let labels := commands.toList.filterMap fun command =>
    match command.action with
    | .label name => some name
    | _ => none
  commands.toList.findSome? fun command =>
    match command.action with
    | .jump _ name => if name.isEmpty || labels.contains name then none else some name
    | _ => none

def ofParts (isShielded : Bool) (parts : List Part) : Except Problem (Array Command) := do
  let backwards ← Read.ofParts isShielded [] false [] parts
  let commands := Read.closeBlocks [] 0 backwards.reverse.toArray backwards.reverse
  if let some name := missingLabel? commands then
    throw (.of ("can't find label for jump to \x60".toList ++ name ++ ['\'']))
  return commands

/-- The files that commands write to. -/
def outputPaths (commands : Array Command) : List Octets :=
  commands.toList.filterMap fun command =>
    match command.action with
    | .writeFile path _ => some path
    | .substitute substitution => substitution.path
    | _ => none

end BlockExtension.Shell.Utility.Editing
