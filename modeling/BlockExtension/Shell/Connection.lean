import BlockExtension.Shell.Expansion
import BlockExtension.Shell.Jobs

/-!
# Redirections

What is done to the descriptors of a process before a command runs, and how it
is taken back behind the command. The words of all redirections are expanded
before the first of them is done.
-/

namespace BlockExtension.Shell

/-- Where a descriptor is to lead that is named for another one. -/
inductive Lead where
  /-- Nowhere. -/
  | away
  /-- Where another one leads, which may lead nowhere from then on. -/
  | along (source : Nat) (moves : Bool)
  deriving DecidableEq, Repr

namespace Redirection

/-- A redirection whose words have been expanded. -/
inductive Ready where
  | file (descriptor : Nat) (access : Access) (name : Octets)
  | duplicate (descriptor : Nat) (lead : Lead)
  | text (descriptor : Nat) (text : Octets)
  | document (descriptor : Nat) (index : Nat)
  /-- What should be one word is none or several. -/
  | ambiguous (word : Octets)
  /-- A file for all that is written. -/
  | everything (name : Octets)
  /-- The descriptor is a new one, or the one that a variable holds. -/
  | held (name : Octets) (inner : Ready)

def descriptors : Redirection → List Nat
  | .file descriptor .. => [descriptor]
  | .duplicate descriptor source =>
      if descriptor = 1 && (Word.bare? source).isNone then [1, 2] else [descriptor]
  | .document descriptor _ => [descriptor]
  | .word descriptor _ => [descriptor]
  | .held .. => []

/-- The same redirection for another descriptor. -/
def Ready.moved (descriptor : Nat) : Ready → Ready
  | .file _ access name => .file descriptor access name
  | .duplicate _ lead => .duplicate descriptor lead
  | .text _ body => .text descriptor body
  | .document _ index => .document descriptor index
  | ready => ready

end Redirection

namespace Connection

open Act

/-- Gives up, since a word names no descriptor. -/
def refuseNumber {α : Type} : Act α := do
  modifyProcess fun process => { process with line := process.readerLine }
  failWith "Syntax error: Bad fd number".toList 2

/-- The descriptor that a word names; a hyphen names none, or makes it a move. -/
def leadOf? (word : Octets) : Act (Option Lead) := do
  if word = ['-'] then return some .away
  let extended ← isExtended
  match Octets.number? word with
  | some n => if n < 10 || extended then return some (.along n false) else refuseNumber
  | none =>
      if !extended then refuseNumber
      if word.getLast? = some '-' then
        return (Octets.number? word.dropLast).map (.along · true)
      return none

/-- A word as it is written, as far as it is made of plain characters and parameters. -/
def written (word : Word) : Octets :=
  word.flatMap fun
    | .literal text => text
    | .quoted text => text
    | .parameter name none .plain _ => '$' :: name
    | _ => []

/-- The one text that a word stands for; with extensions a word may be cut into fields. -/
def single? (output : Expansion.Output) (word : Word) : Act (Option Octets) := do
  if ← isExtended then
    match ← Expansion.arguments output word with
    | [text] => return some text
    | _ => return none
  return some (← Expansion.text output word)

/-- Expands the words of a redirection. -/
def ready (output : Expansion.Output) : Redirection → Act Redirection.Ready
  | .file descriptor access name => do
      match ← single? output name with
      | some text => return .file descriptor access text
      | none => return .ambiguous (written name)
  | .duplicate descriptor source => do
      let text ← Expansion.text output source
      match ← leadOf? text with
      | some lead => return .duplicate descriptor lead
      | none =>
          if descriptor = 1 && !text.isEmpty then return .everything text
          return .ambiguous (written source)
  | .word descriptor text => do
      return .text descriptor ((← Expansion.text output text) ++ ['\n'])
  | .document descriptor index => return .document descriptor index
  | .held name inner => return .held name (← ready output inner)

def openingMessage (extended : Bool) (access : Access) (name : Octets)
    (error : Files.OsError) : Octets :=
  let isMissing := error = .notFound || error = .notDirectory
  if extended then name ++ (": " ++ error.wording).toList
  else
    match access with
    | .read =>
        let cause := if isMissing then "No such file" else error.wording
        "cannot open ".toList ++ name ++ (": " ++ cause).toList
    | _ =>
        let cause := if isMissing then "Directory nonexistent" else error.wording
        "cannot create ".toList ++ name ++ (": " ++ cause).toList

def giveUp {α : Type} (text : Octets) : Act α := do
  failWith text (if ← isExtended then 1 else 2)

/-- Makes a descriptor lead to a new channel. -/
def connectNew (descriptor : Nat) (channel : Channel) : Act Unit := do
  connect descriptor (some (← newChannel channel))

def firstFree : Nat := 10

/-- The least descriptor that leads nowhere, from a number on. -/
def freeFrom (first : Nat) : Act Nat := do
  let used := (← process).descriptors.map (·.1)
  let free := (List.range (used.length + 1)).find? fun n => !used.contains (first + n)
  return first + free.getD used.length

def connectFile (descriptor : Nat) (access : Access) (name : Octets) : Act Unit := do
  if access = .write && (← isSet 'C') then
    let tree ← tree
    let isTaken := match tree.find (pathOf name), tree.findNamed (pathOf name) with
      | .ok (_, .file ..), _ => true
      | .error _, .ok (_, .link _) => true
      | _, _ => false
    if isTaken then
      if ← isExtended then giveUp (name ++ ": cannot overwrite existing file".toList)
      giveUp (openingMessage false access name .alreadyExists)
  match ← openPath name access with
  | .ok place => connect descriptor (some place)
  | .error error => giveUp (openingMessage (← isExtended) access name error)

/-- Does what a redirection says whose descriptor is known. -/
def establish (output : Expansion.Output) : Redirection.Ready → Act Unit
  | .file descriptor access name => connectFile descriptor access name
  | .everything name => do
      connectFile 1 .write name
      connect 2 ((← process).descriptors.lookup 1)
  | .duplicate descriptor .away => connect descriptor none
  | .duplicate descriptor (.along source moves) => do
      if source ≠ descriptor then
        match (← process).descriptors.lookup source with
        | some place =>
            connect descriptor (some place)
            if moves then connect source none
        | none => giveUp (Octets.ofNat source ++ ": Bad file descriptor".toList)
  | .ambiguous word => giveUp (word ++ ": ambiguous redirect".toList)
  | .text descriptor text => connectNew descriptor (.ofContent (Octets.toBytes text))
  | .document descriptor index => do
      let word := ((← get).documents[index]?).getD []
      let text := Glyph.text (← Expansion.glyphs output Expansion.depth false word)
      connectNew descriptor (.ofContent (Octets.toBytes text))
  | .held .. => return ()

/-- Does what a redirection says, for a new descriptor if the script names only a variable. -/
def establishAny (output : Expansion.Output) : Redirection.Ready → Act Unit
  | .held name (.duplicate _ .away) => do
      match (← textOf? name).bind Octets.number? with
      | some descriptor => connect descriptor none
      | none => giveUp (name ++ ": ambiguous redirect".toList)
  | .held name inner => do
      let descriptor ← freeFrom firstFree
      establish output (inner.moved descriptor)
      assignText name (Octets.ofNat descriptor)
  | plain => establish output plain

/-- Makes some descriptors lead where they led in a process before. -/
def restored (descriptors : List Nat) (before process : Process) : Process :=
  { process with
    descriptors :=
      before.descriptors.filter (fun entry => descriptors.contains entry.1) ++
        process.descriptors.filter (fun entry => !descriptors.contains entry.1) }

/-- Expands the words of redirections. -/
def allReady (output : Expansion.Output) (redirections : List Redirection) :
    Act (List Redirection.Ready) :=
  redirections.mapM (ready output)

/-- Does what redirections say, one after the other. -/
def establishAll (output : Expansion.Output) (all : List Redirection.Ready) : Act Unit :=
  all.forM (establishAny output)

/--
Does something behind redirections, and takes them back if they are not to stay.
False if one of them fails; then nothing else is done.
-/
def behind (output : Expansion.Output) (redirections : List Redirection) (stays : Bool)
    (act : Act Unit) : Act Bool := do
  let all ← allReady output redirections
  let before ← process
  let restore (process : Process) : Process :=
    if stays then process
    else restored (redirections.flatMap Redirection.descriptors) before process
  match ← attempt (establishAll output all) with
  | .ok () =>
      protect restore act
      return true
  | .error .fail =>
      modifyProcess (restored (redirections.flatMap Redirection.descriptors) before)
      return false
  | .error jump => throw jump

end Connection

end BlockExtension.Shell
