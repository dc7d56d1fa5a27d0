import BlockExtension.Shell.Utility.Permission

/-!
# Files as a whole

What the programs have in common that make files and directories, take them
away, copy and move them, and show what there is: how paths are taken apart as
texts, what they lead to, and how questions are asked.
-/

namespace BlockExtension.Shell.Utility.Entries

open Act
open Permission (inside)

/-! ## Paths -/

def withoutSlashes (path : Octets) : Octets :=
  match (path.reverse.dropWhile (· = '/')).reverse with
  | [] => path.take 1
  | kept => kept

def lastName (path : Octets) : Octets :=
  let kept := withoutSlashes path
  if kept = ['/'] then kept else (kept.reverse.takeWhile (· ≠ '/')).reverse

/-- The path of the directory that a path is in. -/
def parent (path : Octets) : Octets :=
  let kept := withoutSlashes path
  let before := (kept.reverse.dropWhile (· ≠ '/')).reverse
  if before.isEmpty then ['.'] else withoutSlashes before

def entryAt? (path : Octets) : Act (Option (Files.Location × Files.Entry)) := do
  return ((← tree).find (pathOf path)).toOption

def namedAt? (path : Octets) : Act (Option (Files.Location × Files.Entry)) := do
  return ((← tree).findNamed (pathOf path)).toOption

/-- What a path leads to, or names. -/
def lookedUp (follows : Bool) (path : Octets) :
    Act (Except Files.OsError (Files.Location × Files.Entry)) := do
  let tree ← tree
  return if follows then tree.find (pathOf path) else tree.findNamed (pathOf path)

def isDirectory (path : Octets) : Act Bool := return (← tree).isDirectory (pathOf path)

def areOne (a b : Files.Location) : Act Bool := return ((← tree).namesOf a).contains b

/-- How many names an entry has: a directory also has one in itself and in each one in it. -/
def nameCount (location : Files.Location) (entry : Files.Entry) : Act Nat := do
  let tree ← tree
  if entry.isDirectory then
    return 2 + (tree.children location).countP fun (_, inner) => inner.isDirectory
  return (tree.namesOf location).length

/-! ## Complaints and questions -/

/-- Complains that something cannot be done with a path, and why. -/
def refuse (self : Octets) (what : String) (path : Octets) (error : Files.OsError) :
    Act Bool := do
  complainAs self (what.toList ++ quoted path ++ (": " ++ error.wording).toList)
  return false

/-- Complains, and says that something has not been done. -/
def deny (self text : Octets) : Act Bool := do
  complainAs self text
  return false

/-- Does something with each of some paths; tells whether it was done with all. -/
def forAll (act : Octets → Act Bool) : List Octets → Act Bool
  | [] => return true
  | path :: rest => do
      let fine ← act path
      return (← forAll act rest) && fine

def statusOf (all : Bool) : Nat := if all then 0 else 1

/-- Asks whether something is to be done; only a line that starts with the letter y is a yes. -/
def agreed (self question : Octets) : Act Bool := do
  report (self ++ ':' :: ' ' :: question ++ "? ".toList)
  match ← readLine 0 with
  | .ok answer => return answer.head?.any fun c => c = 'y' || c = 'Y'
  | .error _ => return false

def asksFirst (given : Invocation) (asking : List String) (silencing : List String) : Bool :=
  let last := (given.options.filter fun option =>
    asking.contains option.word || silencing.contains option.word).getLast?
  last.any fun option => asking.contains option.word

/-! ## Kinds and sizes -/

def kindName : Files.Entry → String
  | .directory _ => "directory"
  | .file content _ => if content.size = 0 then "regular empty file" else "regular file"
  | .link _ => "symbolic link"
  | .device _ => "character special file"

def kindLetter : Files.Entry → Char
  | .directory _ => 'd'
  | .file .. => '-'
  | .link _ => 'l'
  | .device _ => 'c'

/-- How many octets an entry takes up. -/
def lengthOf : Files.Entry → Nat
  | .directory _ => 4096
  | .file content _ => content.size
  | .link path => path.utf8ByteSize
  | .device _ => 0

def blocksOf : Files.Entry → Nat
  | .directory _ => 4
  | .file content _ => (content.size + 4095) / 4096 * 4
  | .link _ => 0
  | .device _ => 0

/-- The number by which the system knows what is at a location. -/
def serialOf (tree : Files.Tree) (location : Files.Location) : Nat :=
  let first := ((tree.namesOf location).map fun name =>
    (tree.entries.findIdx? fun entry => entry.1 = name).getD 0).foldl min tree.entries.length
  131072 + first

def groupName : String := "nogroup"

/-- The name of the one that an entry belongs to, and of the group. -/
def ownersOf (location : Files.Location) : Octets × Octets :=
  if Files.Tree.isSystems location || location.take 1 = ["usr"] || location.take 1 = ["bin"] then
    ("root".toList, "root".toList)
  else ("nobody".toList, groupName.toList)

def numberOf (name : Octets) : Nat := if name = "root".toList then 0 else 65534

def depth : Nat := 200

/-! ## Copies of what is replaced -/

/-- What is put behind the name of a copy of what is replaced, if one is wanted. -/
def backupSuffix? (given : Invocation) : Act (Option Octets) := do
  if given.has "-b" || given.has "backup" || given.has "suffix" then
    if (given.value? "backup").any fun kind =>
        ["none".toList, "off".toList].contains kind then return none
    let usual := (← textOf? "SIMPLE_BACKUP_SUFFIX".toList).getD ['~']
    return some ((given.value? "suffix").getD usual)
  return none

def backupNumbers (path : Octets) : Act (List Nat) := do
  match ← entryAt? (parent path) with
  | some (location, _) =>
      let start := lastName path ++ ".~".toList
      return ((← tree).children location).filterMap fun (name, _) => do
        let rest ← Octets.behind? start (Octets.ofText name)
        if rest.getLast? = some '~' then Octets.number? rest.dropLast else none
  | none => return []

def backupPath? (given : Invocation) (path : Octets) : Act (Option Octets) := do
  let some suffix ← backupSuffix? given | return none
  let usual := (← textOf? "VERSION_CONTROL".toList).getD "existing".toList
  let control := String.ofList ((given.value? "backup").getD usual)
  let numbers ← backupNumbers path
  let isNumbered := ["numbered", "t"].contains control ||
    (["existing", "nil"].contains control && !numbers.isEmpty)
  if isNumbered then
    return some (path ++ ".~".toList ++ Octets.ofNat (numbers.foldl max 0 + 1) ++ ['~'])
  return some (path ++ suffix)

/-- Moves what a path names out of the way, if that is wanted; tells to which path. -/
def backUp (given : Invocation) (path : Octets) : Act (Option Octets) := do
  let some goal ← backupPath? given path | return none
  match ← moveEntry (pathOf path) (pathOf goal) with
  | none => return some goal
  | some _ => return none

end BlockExtension.Shell.Utility.Entries
