import BlockExtension.Shell.Installation
import BlockExtension.Shell.Machine

/-!
# Names of commands

What the name of a command stands for, and where its program has been found.
-/

/-!
## What names stand for

A name at the start of a command stands for a function, for a utility that is
part of the shell, or for a program in one of the directories that are searched.
-/

namespace BlockExtension.Shell.Utility

open Act

/-- The utilities whose failure ends a script. -/
def specials : List String :=
  [".", ":", "break", "continue", "eval", "exec", "exit", "export", "local", "readonly",
    "return", "set", "shift", "times", "trap", "unset"]

/-- The other utilities that are part of the shell. -/
def regulars : List String :=
  ["[", "alias", "bg", "cd", "chdir", "command", "echo", "false", "fg", "getopts", "hash", "jobs",
    "kill", "printf", "pwd", "read", "test", "true", "type", "ulimit", "umask",
    "unalias", "wait"]

def extensions : List String :=
  ["source", "declare", "typeset", "let", "shopt", "builtin", "mapfile", "readarray", "pushd",
    "popd", "dirs", "disown", "history", "enable", "caller", "compgen", "complete", "logout"]

/-- A utility that is part of the shell has this name. -/
def isOwn (extended : Bool) (name : String) : Bool :=
  specials.contains name || regulars.contains name || (extended && extensions.contains name)

def searchDirectories : Act (List Octets) := do
  let path ← textOf? "PATH".toList
  return Octets.cutAt ':' (path.getD (Octets.ofText Installation.searchPath))

/-- The paths that a name may lead to, in the order in which they are tried. -/
def candidates (name : Octets) : Act (List Octets) := do
  if name.contains '/' then return [name]
  return (← searchDirectories).map fun directory =>
    if directory.isEmpty then name else directory ++ '/' :: name

def programPaths (name : Octets) : Act (List Octets) := do
  let tree ← tree
  return (← candidates name).filter fun path =>
    match tree.find (Octets.toText path) with
    | .ok (_, .file content mode) => (Files.Entry.file content mode).isExecutable
    | _ => false

/-- Where the program with a name has been found, if that is known. -/
def located? (name : Octets) : Act (Option Located) :=
  return (← process).whereabouts.find? (·.name = name)

def programPath? (name : Octets) : Act (Option Octets) := do
  match ← located? name with
  | some known => return some known.path
  | none => return (← programPaths name).head?

/-- What a name stands for, in words; nothing if it stands for nothing. -/
def description? (name : Octets) : Act (Option Octets) := do
  let extended ← isExtended
  let text := String.ofList name
  let said (what : String) : Option Octets := some (name ++ (" is " ++ what).toList)
  if (Reader.keywords extended).contains text then return said "a shell keyword"
  if let some other := (← process).aliases.lookup name then
    unless extended do return some (name ++ " is an alias for ".toList ++ other)
  if ((← process).functions.lookup name).isSome then
    return said (if extended then "a function" else "a shell function")
  if specials.contains text && !extended then return said "a special shell builtin"
  if isOwn extended text then return said "a shell builtin"
  match ← located? name, ← programPath? name with
  | none, some path => return some (name ++ " is ".toList ++ path)
  | some _, some path =>
      return some (name ++ (if extended then " is hashed (".toList ++ path ++ [')']
        else " is a tracked alias for ".toList ++ path))
  | _, none => return none

/-- How a name is to be written so that it stands for the same; nothing if for nothing. -/
def resolution? (name : Octets) : Act (Option Octets) := do
  let extended ← isExtended
  let text := String.ofList name
  if (Reader.keywords extended).contains text || isOwn extended text ||
      ((← process).functions.lookup name).isSome then
    return some name
  programPath? name

end BlockExtension.Shell.Utility

/-!
## Where programs have been found

The shell keeps in mind where it has found the programs that it has run, until
other directories are searched. They are kept in an order of their own: each name
has a place among a fixed number of places.
-/

namespace BlockExtension.Shell.Utility.Whereabouts

open Act

/-! ### Places -/

def place (extended : Bool) (name : Octets) : Nat :=
  if extended then Table.place name % 256
  else
    let sum := name.foldl (fun sum c => sum + c.toNat) ((name.headD '\x00').toNat * 16)
    sum % 32768 % 31

/-- Puts something in its place: behind those there or, with extensions, before them. -/
def seated (extended : Bool) (new : Located) : List Located → List Located
  | [] => [new]
  | first :: rest =>
      let own := place extended new.name
      let other := place extended first.name
      if own < other || (extended && own = other) then new :: first :: rest
      else first :: seated extended new rest

/-! ### Keeping in mind -/

def keep (name path : Octets) (uses : Nat) : Act Unit := do
  let extended ← isExtended
  modifyProcess fun process =>
    { process with
      whereabouts := seated extended ⟨name, path, uses, false⟩
        (process.whereabouts.filter (·.name ≠ name)) }

def count (name : Octets) : Act Unit :=
  modifyProcess fun process =>
    { process with
      whereabouts := process.whereabouts.map fun known =>
        if known.name = name then { known with uses := known.uses + 1, isStale := false }
        else known }

/-- Keeps where a program is that is about to be run. -/
def use (name path : Octets) : Act Unit := do
  if (← located? name).isSome then count name else keep name path 1

/-- Keeps where a program is, if a name is that of one. -/
def note (name : Octets) : Act Unit := do
  if (← located? name).isSome || name.contains '/' || isOwn false (String.ofList name) ||
      ((← process).functions.lookup name).isSome then return ()
  if let some path := (← programPaths name).head? then keep name path 0

/-- Keeps in mind no longer where a program is. -/
def forget (name : Octets) : Act Unit :=
  modifyProcess fun process =>
    { process with whereabouts := process.whereabouts.filter (·.name ≠ name) }

/-! ### Asking -/

/-- Shows what is kept in mind. -/
def display (reusable : Bool) : Act Unit := do
  let known := (← process).whereabouts
  if !(← isExtended) then
    put (known.flatMap fun known => known.path ++ (if known.isStale then ['*'] else []) ++ ['\n'])
  else if known.isEmpty then
    unless reusable do put "hash: hash table empty\n".toList
  else if reusable then
    put (known.flatMap fun known =>
      "builtin hash -p ".toList ++ known.path ++ ' ' :: known.name ++ ['\n'])
  else
    put ("hits\tcommand\n".toList ++ known.flatMap fun known =>
      Octets.padLeft 4 (Octets.ofNat known.uses) ++ '\t' :: known.path ++ ['\n'])

def lookFor (name : Octets) : Act Bool := do
  let extended ← isExtended
  if name.contains '/' || isOwn extended (String.ofList name) ||
      ((← process).functions.lookup name).isSome then return true
  forget name
  match (← programPaths name).head? with
  | some path =>
      keep name path 0
      return true
  | none =>
      complain (name ++ ": not found".toList)
      return false

def showPath (isOne : Bool) (name : Octets) : Act Bool := do
  match (← process).whereabouts.find? (·.name = name) with
  | some known =>
      put ((if isOne then known.path else name ++ '\t' :: known.path) ++ ['\n'])
      return true
  | none =>
      complain (name ++ ": not found".toList)
      return false

/-- Forgets a program that is kept in mind. -/
def drop (name : Octets) : Act Bool := do
  let known := (← process).whereabouts
  if known.isEmpty || known.any (·.name = name) then
    forget name
    return true
  complain (name ++ ": not found".toList)
  return false

/-- Does something with names; the status tells whether all went well. -/
def withAll (act : Octets → Act Bool) (names : List Octets) : Act Nat := do
  return if (← names.mapM act).all id then 0 else 1

def refuseOptions (text : Octets) : Act Nat := do
  complain text
  report "hash: usage: hash [-lr] [-p pathname] [-dt] [name ...]\n".toList
  return 2

/-- Looks programs up, shows or forgets where they are. -/
def hash (arguments : List Octets) : Act Nat := do
  let extended ← isExtended
  let options := arguments.takeWhile fun word => word.head? = some '-' && 1 < word.length
  let letters := options.flatMap (·.drop 1) |>.filter (· ≠ '-')
  let known := if extended then "dlprt".toList else ['r']
  let names := arguments.drop options.length
  if let some letter := letters.find? (!known.contains ·) then
    if extended then return ← refuseOptions (['-', letter] ++ ": invalid option".toList)
    failWith ("Illegal option -".toList ++ [letter]) 2
  if letters.contains 'r' then
    modifyProcess fun process => { process with whereabouts := [] }
    if !extended || names.isEmpty then return 0
  if letters.contains 'p' then
    match names with
    | path :: names =>
        names.forM fun name => keep name path 0
        return 0
    | [] => return ← refuseOptions "-p: option requires an argument".toList
  if names.isEmpty then
    if letters.contains 'd' || letters.contains 't' then
      complain ((if letters.contains 'd' then "-d" else "-t") ++
        ": option requires an argument").toList
      return 1
    display (letters.contains 'l')
    return 0
  if letters.contains 'd' then withAll drop names
  else if letters.contains 't' then withAll (showPath (names.length = 1)) names
  else withAll lookFor names

end BlockExtension.Shell.Utility.Whereabouts
