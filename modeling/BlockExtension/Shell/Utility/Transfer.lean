import BlockExtension.Shell.Utility.Entries
import BlockExtension.Shell.Utility.Making

/-!
# Removing, copying and moving

The programs that take names out of directories, and those that put files under others.
-/

/-!
## Taking files away

The programs that take names out of directories. A link is taken away itself and
not what it leads to.
-/

namespace BlockExtension.Shell.Utility.Removal

open Act
open Entries
open Permission (inside)

def asksBeforeRemoval (given : Invocation) : Bool :=
  asksFirst given ["-i", "interactive"] ["force", "-I"]

/-- What is to be taken away, as a question has it. -/
def shownEntry (entry : Files.Entry) (path : Octets) : Octets :=
  (if entry.isWritable then [] else "write-protected ".toList) ++ (kindName entry).toList ++
    ' ' :: quoted path

/-- Takes a path away and, if asked for, all that is below it. -/
def remove (self : Octets) (given : Invocation) : (fuel : Nat) → Octets → Act Bool
  | 0, _ => return false
  | fuel + 1, path => do
      let recursive := given.has "recursive" || given.has "-R"
      let say (what : String) : Act Unit := do
        if given.has "verbose" then put (what.toList ++ quoted path ++ ['\n'])
      let fail (error : Files.OsError) : Act Bool := do
        if given.has "force" && (error = .notFound || error = .notDirectory) then return true
        refuse self "cannot remove " path error
      let tree ← tree
      match tree.findNamed (pathOf path) with
      | .error error => fail error
      | .ok (location, .directory mode) =>
          if recursive && ([".".toList, "..".toList].contains (lastName path)) then
            return ← deny self ("refusing to remove '.' or '..' directory: skipping ".toList ++
              quoted path)
          if recursive && location = [] then
            complainAs self "it is dangerous to operate recursively on '/'".toList
            complainAs self "use --no-preserve-root to override this failsafe".toList
            return false
          if !recursive && !given.has "dir" then
            return ← refuse self "cannot remove " path .isDirectory
          let below := tree.children location
          let entry := Files.Entry.directory mode
          if recursive && !below.isEmpty && !(entry.isReadable && entry.isExecutable) then
            return ← refuse self "cannot remove " path .permissionDenied
          if asksBeforeRemoval given && !below.isEmpty then
            if !(← agreed self ("descend into ".toList ++ shownEntry entry path)) then return true
          let fine ← if recursive then
              forAll (remove self given fuel)
                (below.map fun (name, _) => inside path (Octets.ofText name))
            else pure true
          if !fine then return false
          if asksBeforeRemoval given then
            if !(← agreed self ("remove ".toList ++ shownEntry entry path)) then return true
          match ← changeTree (·.removeDirectory (pathOf path)) with
          | some error => fail error
          | none =>
              say "removed directory "
              return true
      | .ok (_, entry) =>
          if asksBeforeRemoval given then
            if !(← agreed self ("remove ".toList ++ shownEntry entry path)) then return true
          match ← changeTree (·.removeFile (pathOf path)) with
          | some error => fail error
          | none =>
              say "removed "
              return true

/-- Takes files away. -/
def rm : Program := fun self arguments =>
  withOptions self
      [switch "recursive" 'r', switch "-R" 'R', switch "force" 'f', switch "-i" 'i',
        switch "-I" 'I', switch "dir" 'd', switch "verbose" 'v',
        ⟨"interactive", none, .perhaps⟩, ⟨"one-file-system", none, .nothing⟩,
        ⟨"no-preserve-root", none, .nothing⟩, ⟨"preserve-root", none, .perhaps⟩]
      true 1 arguments fun given => do
    if given.operands.isEmpty then
      if given.has "force" then return 0
      return ← lackOperand self "operand" none
    let recursive := given.has "recursive" || given.has "-R"
    let count := given.operands.length
    if asksFirst given ["-I"] ["force", "-i", "interactive"] && (recursive || 3 < count) then
      let question := s!"remove {count} " ++ (if count = 1 then "argument" else "arguments") ++
        (if recursive then " recursively" else "")
      if !(← agreed self question.toList) then return 0
    return statusOf (← forAll (remove self given depth) given.operands)

/-- Takes a directory away and, if asked for, those above it as far as they become empty. -/
def removeChain (self : Octets) (given : Invocation) : (fuel : Nat) → Octets → Act Bool
  | 0, _ => return true
  | fuel + 1, path => do
      if given.has "verbose" then
        put ("rmdir: removing directory, ".toList ++ quoted path ++ ['\n'])
      match ← changeTree (·.removeDirectory (pathOf path)) with
      | some error =>
          if given.has "ignore-fail-on-non-empty" && error = .notEmpty then return true
          let isLink := ((← tree).findNamed (pathOf (withoutSlashes path))).toOption.any
            (·.2.isLink)
          if error = .notDirectory && isLink && path.getLast? = some '/' then
            return ← deny self ("failed to remove ".toList ++ quoted path ++
              ": Symbolic link not followed".toList)
          refuse self "failed to remove " path error
      | none =>
          let above := parent path
          if given.has "parents" && above ≠ ['.'] && above ≠ ['/'] then
            removeChain self given fuel above
          else return true

/-- Takes empty directories away. -/
def rmdir : Program := fun self arguments =>
  withOptions self
      [switch "parents" 'p', switch "verbose" 'v',
        ⟨"ignore-fail-on-non-empty", none, .nothing⟩] true 1 arguments fun given => do
    if given.operands.isEmpty then return ← lackOperand self "operand" none
    return statusOf (← forAll (removeChain self given depth) given.operands)

end BlockExtension.Shell.Utility.Removal

/-!
## Copies, moves and links

The programs that put a file where another path says, be it as a copy, by moving
it, or by giving it one more name. What they have in common is the way in which
sources and targets are told apart, and what is in the way at a target.
-/

namespace BlockExtension.Shell.Utility.Transfer

open Act
open Entries
open Permission (inside)

/-! ### Targets -/

/-- Where something goes: into a directory that is there, or to a path itself. -/
def goalOf (given : Invocation) (source target : Octets) : Act Octets := do
  if given.has "no-target-directory" then return target
  if given.has "parents" then return inside target source
  let isLink := (← namedAt? target).any (·.2.isLink)
  if (← isDirectory target) && !(given.has "-n" && isLink) then
    return inside target (lastName source)
  return target

/-- A path without slashes at its end, if that is asked for. -/
def trimmed (given : Invocation) (path : Octets) : Octets :=
  if given.has "strip-trailing-slashes" then withoutSlashes path else path

/--
The sources and the target among operands. If there is just one operand, `usual` is
the target.
-/
def withTarget (self : Octets) (given : Invocation) (usual : Option Octets)
    (act : Octets → Octets → Act Bool) : Act Nat := do
  let go (sources : List Octets) (target : Octets) : Act Nat := do
    return statusOf (← forAll (fun source => do
      act (trimmed given source) (← goalOf given source target)) sources)
  if 1 < (given.values "target-directory").length then
    complainAs self "multiple target directories specified".toList
    return 1
  let refuseTarget (target : Octets) : Act Nat := do
    let error := match (← tree).find (pathOf target) with
      | .error error => error
      | .ok _ => .notDirectory
    let word := if given.has "target-directory" then "target directory " else "target "
    return statusOf (← refuse self word target error)
  if given.has "no-target-directory" then
    if given.has "target-directory" then
      complainAs self ("cannot combine --target-directory (-t) and " ++
        "--no-target-directory (-T)").toList
      return 1
    if let extra :: _ := given.operands.drop 2 then return ← refuseExtra self extra
  match given.value? "target-directory", given.operands.reverse with
  | some target, _ :: _ =>
      if !(← isDirectory target) then return ← refuseTarget target
      go given.operands target
  | some _, [] => lackOperand self "file operand" none
  | none, [] => lackOperand self "file operand" none
  | none, [only] =>
      match usual with
      | some target => go [only] target
      | none => lackOperand self "destination file operand" (some only)
  | none, [target, source] => go [source] target
  | none, target :: sources =>
      if ← isDirectory target then go sources.reverse target else refuseTarget target

/-- The options that copies and moves have in common. -/
def transferRules : List OptionRule :=
  [switch "force" 'f', switch "interactive" 'i', switch "no-clobber" 'n',
    setting "target-directory" 't', switch "no-target-directory" 'T', switch "verbose" 'v',
    switch "-u" 'u', ⟨"update", none, .perhaps⟩, switch "-b" 'b', setting "suffix" 'S',
    ⟨"backup", none, .perhaps⟩, ⟨"strip-trailing-slashes", none, .nothing⟩,
    switch "context" 'Z', ⟨"debug", none, .nothing⟩, ⟨"no-copy", none, .nothing⟩]

def keepsNewer (given : Invocation) : Bool :=
  given.has "-u" || (given.has "update" &&
    (given.value? "update").all fun word => word = "older".toList)

/-- Nothing that is there is to be replaced. -/
def keepsAll (given : Invocation) : Bool :=
  given.has "no-clobber" || given.value? "update" = some "none".toList

/-- The file at a location was written last no later than the one at another location. -/
def isOlder (a b : Files.Location) : Act Bool := do
  let machine ← get
  return machine.timeOf a ≤ machine.timeOf b

/-- What is said of a path of which another one is a copy, and which copy was made of it. -/
def shownPair (source goal : Octets) (backup : Option Octets) : Octets :=
  quoted source ++ " -> ".toList ++ quoted goal ++
    match backup with
    | some path => " (backup: ".toList ++ quoted path ++ [')']
    | none => []

def refuseSame (self source goal : Octets) : Act Bool :=
  deny self (quoted source ++ " and ".toList ++ quoted goal ++ " are the same file".toList)

/-! ### Copies -/

/-- Which links are followed when files are copied. -/
inductive Deref where
  | never
  | named
  | always
  deriving DecidableEq, Repr

/-- How files are copied. -/
structure Manner where
  deref : Deref
  isRecursive : Bool
  keepsMode : Bool
  keepsTime : Bool
  /-- What is there is taken away first. -/
  clears : Bool
  makesLinks : Bool
  makesNames : Bool
  deriving DecidableEq, Repr

def keptBy (given : Invocation) (what : String) : Bool :=
  given.has "-p" || given.has "archive" ||
    (given.options.any fun option => option.word = "preserve" && match option.value with
      | none => true
      | some words => (Octets.cutAt ',' words).any fun word =>
          word = what.toList || word = "all".toList)

def Manner.ofOptions (given : Invocation) : Manner :=
  let isRecursive := ["recursive", "-R", "archive"].any given.has
  let chosen := (given.options.filterMap fun option =>
    match option.word with
    | "dereference" => some .always
    | "no-dereference" => some .never
    | "-d" => some .never
    | "archive" => some .never
    | "-H" => some .named
    | _ => none).getLast?
  { deref := chosen.getD (if isRecursive && !given.has "link" then .never else .always)
    isRecursive
    keepsMode := keptBy given "mode"
    keepsTime := keptBy given "timestamps"
    clears := given.has "remove-destination"
    makesLinks := given.has "symbolic-link"
    makesNames := given.has "link" }

def Manner.follows (manner : Manner) (isNamed : Bool) : Bool :=
  match manner.deref with
  | .never => false
  | .named => isNamed
  | .always => true

/--
A source and a goal that is there are not so much one file that one could not be put
in the place of the other; a goal that is cleared or moved over is a name only.
-/
def areApart (follows moves clears makesLinks : Bool) (source goal : Octets) : Act Bool := do
  let some (sourceNamed, sourceEntry) ← namedAt? source | return true
  let some (goalNamed, goalEntry) ← namedAt? goal | return true
  let sourceReal := ((← entryAt? source).map (·.1))
  let goalReal := ((← entryAt? goal).map (·.1))
  let sameNamed ← areOne sourceNamed goalNamed
  let sameReal ← match sourceReal, goalReal with
    | some a, some b => areOne a b
    | _, _ => pure false
  let isCopiedLink := !follows && sourceEntry.isLink
  if isCopiedLink && goalEntry.isLink then return sourceNamed ≠ goalNamed
  if follows && !sameReal then return true
  if (moves || clears) && goalEntry.isLink && sourceNamed ≠ goalNamed then return true
  if clears && !moves && sameNamed && sourceNamed ≠ goalNamed then return true
  if makesLinks && goalEntry.isLink then return true
  if !sourceEntry.isLink && !goalEntry.isLink then return !sameNamed
  return !sameReal

/-- Gives a file that has been copied the mode and the time that it is to have. -/
def settle (manner : Manner) (source : Files.Location) (goal : Octets) (mode : Nat)
    (isNew : Bool) : Act Unit := do
  let mask := (← process).mask
  if manner.keepsMode then
    let _ ← changeTree (·.changeMode (pathOf goal) mode)
  else if isNew then
    let _ ← changeTree (·.changeMode (pathOf goal) (mode &&& (0o777 ^^^ mask)))
  if manner.keepsTime then
    if let some (location, _) ← entryAt? goal then
      let time := (← get).timeOf source
      modify (·.dated time [location])

def copyFile (self : Octets) (given : Invocation) (manner : Manner) (source goal : Octets)
    (place : Files.Location) (content : ByteArray) (mode : Nat) : Act Bool := do
  if !(Files.Entry.file content mode).isReadable then
    return ← deny self ("cannot open ".toList ++ quoted source ++ " for reading: ".toList ++
      Files.OsError.permissionDenied.wording.toList)
  let isNew := (← entryAt? goal).isNone
  if goal.getLast? = some '/' then
    return ← refuse self "cannot create regular file " goal .notDirectory
  if isNew && (← namedAt? goal).isSome then
    return ← deny self ("not writing through dangling symlink ".toList ++ quoted goal)
  let fill (channel : Nat) (isNew : Bool) : Act Bool := do
    if let some error := ← writeAt channel (Octets.ofBytes content) then
      return ← refuse self "error writing " goal error
    settle manner place goal mode isNew
    return true
  match ← openPath goal .write with
  | .ok channel => fill channel isNew
  | .error error =>
      if given.has "force" && !isNew then
        if let none := ← changeTree (·.removeFile (pathOf goal)) then
          if let .ok channel := ← openPath goal .write then
            return ← fill channel true
      refuse self "cannot create regular file " goal error

/-- Makes a link or a name at a path, in the place of what is there if that is asked for. -/
def putLink (given : Invocation) (goal : Octets)
    (change : Files.Tree → Except Files.OsError Files.Tree) : Act (Option Files.OsError) := do
  match ← changeTree change with
  | some .alreadyExists =>
      if given.has "force" then
        match ← changeTree (·.removeFile (pathOf goal)) with
        | some error => return some error
        | none => changeTree change
      else return some .alreadyExists
  | result => return result

/-- Copies what is no directory to a path. -/
def copyLeaf (self : Octets) (given : Invocation) (manner : Manner) (follows : Bool)
    (source goal : Octets) (place : Files.Location) (entry : Files.Entry) : Act Bool := do
  if manner.makesLinks then
    if source.head? ≠ some '/' && parent goal ≠ ['.'] then
      return ← deny self (named goal ++
        ": can make relative symbolic links only in current directory".toList)
    match ← putLink given goal (·.makeLink (pathOf source) (pathOf goal)) with
    | none => return true
    | some error =>
        return ← deny self ("cannot create symbolic link ".toList ++ quoted goal ++
          " to ".toList ++ quoted source ++ (": " ++ error.wording).toList)
  if manner.makesNames then
    match ← putLink given goal (·.addName follows (pathOf source) (pathOf goal)) with
    | none => return true
    | some error =>
        return ← deny self ("cannot create hard link ".toList ++ quoted goal ++
          " to ".toList ++ quoted source ++ (": " ++ error.wording).toList)
  match entry with
  | .file content mode => copyFile self given manner source goal place content mode
  | .link path =>
      match ← changeTree (·.makeLink path (pathOf goal)) with
      | none => return true
      | some error => refuse self "cannot create symbolic link " goal error
  | entry => copyFile self given manner source goal place .empty entry.mode

/-- Makes the directories of a path that has been put behind a target with all its names. -/
def makeAbove (self : Octets) (given : Invocation) (goal : Octets) : Act Bool := do
  let above := (Making.leading goal).dropLast
  forAll (fun path => do
    if ← isDirectory path then return true
    match ← changeTree (·.makeDirectory (pathOf path)) with
    | none =>
        if given.has "verbose" then
          put (path ++ " -> ".toList ++ path ++ ['\n'])
        return true
    | some error => refuse self "cannot make directory " path error) above

/-- Copies what a path names to a path, at most `fuel` directories deep. -/
def copyTo (self : Octets) (given : Invocation) (manner : Manner) :
    (fuel : Nat) → (isNamed : Bool) → (source goal : Octets) → Act Bool
  | 0, _, _, _ => return false
  | fuel + 1, isNamed, source, goal => do
      let follows := manner.follows isNamed
      match ← lookedUp follows source with
      | .error error => refuse self "cannot stat " source error
      | .ok (location, entry) =>
          let tree ← tree
          if entry.isDirectory && !manner.isRecursive then
            return ← deny self ("-r not specified; omitting directory ".toList ++ quoted source)
          if given.has "parents" && isNamed then
            if !(← makeAbove self given goal) then return false
          let backs := (← backupSuffix? given).isSome
          let looksAtLink := entry.isLink || entry.isDirectory || manner.makesLinks ||
            manner.makesNames || backs || manner.clears
          let there ← if looksAtLink then namedAt? goal else entryAt? goal
          if there.isSome && !entry.isDirectory then
            let goalPlace := (there.map (·.1)).getD []
            if manner.makesNames && (← areOne goalPlace location) then return true
            let apart ← areApart follows false (manner.clears || backs) manner.makesLinks
              source goal
            if !apart then return ← refuseSame self source goal
          match entry, there with
          | .directory mode, there =>
              let goalPlace ← entryAt? (parent goal)
              let isInside := there.any (fun found => Files.Tree.isWithin found.1 location) ||
                (there.isNone && goalPlace.any fun found => Files.Tree.isWithin found.1 location)
              if isInside then
                return ← deny self ("cannot copy a directory, ".toList ++ quoted source ++
                  ", into itself, ".toList ++ quoted goal)
              let isNew := there.isNone
              let made ← match there with
                | some (_, .directory _) => pure true
                | some _ =>
                    deny self ("cannot overwrite non-directory ".toList ++ quoted goal ++
                      " with directory ".toList ++ quoted source)
                | none => do
                    match ← changeTree (·.makeDirectory (pathOf goal)) with
                    | some error => refuse self "cannot create directory " goal error
                    | none =>
                        if given.has "verbose" then
                          put (shownPair source goal none ++ ['\n'])
                        let bits := mode &&& (0o777 ^^^ (← process).mask)
                        let _ ← changeTree (·.changeMode (pathOf goal) (bits ||| 0o700))
                        pure true
              if !made then return false
              let below := (tree.children location).map fun (name, _) => Octets.ofText name
              let fine ← forAll (fun name =>
                copyTo self given manner fuel false (inside source name) (inside goal name)) below
              if isNew || manner.keepsMode then settle manner location goal mode isNew
              return fine
          | entry, there =>
              if let some (_, .directory _) := there then
                return ← deny self ("cannot overwrite directory ".toList ++ quoted goal ++
                  " with non-directory".toList)
              if there.isSome && keepsAll given then return true
              if let some (place, _) := there then
                if keepsNewer given && (← isOlder location place) then return true
              if there.isSome && asksFirst given ["interactive"] ["no-clobber"] then
                if !(← agreed self ("overwrite ".toList ++ quoted goal)) then return false
              let backup ← if there.isSome then backUp given goal else pure none
              if there.isSome && backup.isNone && (manner.clears || entry.isLink) then
                match ← changeTree (·.removeFile (pathOf goal)) with
                | some error => return ← refuse self "cannot remove " goal error
                | none =>
                    if given.has "verbose" then
                      put ("removed ".toList ++ quoted goal ++ ['\n'])
              let fine ← copyLeaf self given manner follows source goal location entry
              if fine && given.has "verbose" then put (shownPair source goal backup ++ ['\n'])
              return fine

/-- Copies files. -/
def cp : Program := fun self arguments =>
  withOptions self
      (transferRules ++ [switch "recursive" 'r', switch "-R" 'R', switch "archive" 'a',
        switch "-p" 'p', ⟨"preserve", none, .perhaps⟩, ⟨"no-preserve", none, .value⟩,
        switch "-d" 'd', switch "dereference" 'L', switch "-H" 'H',
        switch "no-dereference" 'P', switch "one-file-system" 'x', switch "link" 'l',
        switch "symbolic-link" 's', ⟨"parents", none, .nothing⟩,
        ⟨"remove-destination", none, .nothing⟩, ⟨"attributes-only", none, .nothing⟩,
        ⟨"reflink", none, .perhaps⟩, ⟨"sparse", none, .value⟩,
        ⟨"copy-contents", none, .nothing⟩]) true 1 arguments
      fun given => do
    if given.has "no-clobber" then
      complainAs self ("warning: behavior of -n is non-portable and may change in future; " ++
        "use --update=none instead").toList
    if given.has "link" && given.has "symbolic-link" then
      complainAs self "cannot make both hard and symbolic links".toList
      pointToHelp self
      return 1
    withTarget self given none (copyTo self given (.ofOptions given) depth true)

/-! ### Moves -/

def moveTo (self : Octets) (given : Invocation) (source goal : Octets) : Act Bool := do
  match ← lookedUp false source with
  | .error error => refuse self "cannot stat " source error
  | .ok (location, entry) =>
      let there ← namedAt? goal
      if keepsAll given && there.isSome then
        if given.has "no-clobber" then
          return ← deny self ("not replacing ".toList ++ quoted goal)
        return true
      let above ← entryAt? (parent goal)
      let intoItself := entry.isDirectory &&
        (above.any fun found => Files.Tree.isWithin found.1 location)
      if let some (place, other) := there then
        if !(← areApart false true false false source goal) then
          return ← refuseSame self source goal
        if keepsNewer given && !entry.isDirectory && (← isOlder location place) then return true
        if entry.isDirectory && !other.isDirectory then
          return ← deny self ("cannot overwrite non-directory ".toList ++ quoted goal ++
            " with directory ".toList ++ quoted source)
        if !entry.isDirectory && other.isDirectory then
          return ← deny self ("cannot overwrite directory ".toList ++ quoted goal ++
            " with non-directory".toList)
      if intoItself then
        return ← deny self ("cannot move ".toList ++ quoted source ++
          " to a subdirectory of itself, ".toList ++ quoted goal)
      if there.isSome && asksFirst given ["interactive"] ["force", "no-clobber"] then
        if !(← agreed self ("overwrite ".toList ++ quoted goal)) then return false
      let backup ← if there.isSome then backUp given goal else pure none
      let isOne ← match there with
        | some (place, _) => areOne place location
        | none => pure false
      let failure ← if isOne && backup.isNone then changeTree (·.removeFile (pathOf source))
        else moveEntry (pathOf source) (pathOf goal)
      match failure with
      | some error =>
          deny self ("cannot move ".toList ++ quoted source ++ " to ".toList ++
            quoted goal ++ (": " ++ error.wording).toList)
      | none =>
          if given.has "verbose" then
            put ("renamed ".toList ++ shownPair source goal backup ++ ['\n'])
          return true

/-- Moves files. -/
def mv : Program := fun self arguments =>
  withOptions self transferRules true 1 arguments fun given =>
    withTarget self given none (moveTo self given)

/-! ### Links and names -/

/-- The names of a location behind what it has in common with another one, with steps up. -/
def relativeNames (start goal : Files.Location) : List String :=
  let common := ((start.zip goal).takeWhile fun (a, b) => a = b).length
  List.replicate (start.length - common) ".." ++ goal.drop common

/-- Names with slashes between them; none stand for where one is. -/
def joinedNames (names : List String) : Octets :=
  if names.isEmpty then ['.'] else Octets.ofText ("/".intercalate names)

/-- Where a path leads; a last name need not be that of anything. -/
def placeOf? (path : Octets) : Act (Option Files.Location) := do
  match (← tree).arriveBy .all (pathOf path) with
  | .ok (.directory location) => return some location
  | .ok (.name directory name _) => return some (directory ++ [name])
  | .error _ => return none

/-- The path of a source as a link says it that is to be at a goal. -/
def linkText (given : Invocation) (source goal : Octets) : Act Octets := do
  if !given.has "relative" then return source
  match ← placeOf? (parent goal), ← placeOf? source with
  | some start, some location => return joinedNames (relativeNames start location)
  | _, _ => return source

/-- Gives what a path names another name, under which there may be something to replace. -/
def linkTo (self : Octets) (given : Invocation) (source goal : Octets) : Act Bool := do
  let symbolic := given.has "symbolic"
  let follows := given.has "logical"
  let sourceFound ← lookedUp follows source
  if !symbolic then
    match sourceFound with
    | .error error => return ← refuse self "failed to access " source error
    | .ok (_, entry) =>
        if entry.isDirectory then
          return ← deny self (named source ++ ": hard link not allowed for directory".toList)
  let arrow := if symbolic then " -> ".toList else " => ".toList
  let there ← namedAt? goal
  let asks := asksFirst given ["interactive"] ["force"]
  let backs := (← backupSuffix? given).isSome
  let mut backup := none
  if let some (place, other) := there then
    if asks || given.has "force" || backs then
      if other.isDirectory then
        return ← deny self (named goal ++ ": cannot overwrite directory".toList)
      let real := (← lookedUp (symbolic || follows) source).toOption
      let isSame ← match real with
        | some (location, entry) => do
            let isName := (← namedAt? source).any fun found => found.1 = place
            let isOnly := (← nameCount location entry) = 1
            pure ((← areOne location place) && (isName || isOnly))
        | none => pure false
      if isSame then return ← refuseSame self source goal
      if asks then
        if !(← agreed self ("replace ".toList ++ quoted goal)) then return false
      backup ← backUp given goal
      if backup.isNone then
        let _ ← changeTree (·.removeFile (pathOf goal))
  let text ← if symbolic then linkText given source goal else pure source
  let failure ←
    if symbolic then changeTree (·.makeLink (pathOf text) (pathOf goal))
    else changeTree (·.addName follows (pathOf source) (pathOf goal))
  match failure with
  | none =>
      if given.has "verbose" then
        let kept := match backup with
          | some path => quoted path ++ " ~ ".toList
          | none => []
        put (kept ++ quoted goal ++ arrow ++ quoted text ++ ['\n'])
      return true
  | some error =>
      let start := "failed to create ".toList ++
        (if symbolic then "symbolic" else "hard").toList ++ " link ".toList ++ quoted goal
      let isTargets := !symbolic && error ≠ .alreadyExists
      let shows := isTargets || (symbolic && error = .notFound && text.isEmpty)
      let behind := if shows || (symbolic && error ≠ .alreadyExists && error ≠ .notFound &&
          error ≠ .notDirectory && error ≠ .permissionDenied && error ≠ .isDirectory) then
          arrow ++ quoted text
        else []
      deny self (start ++ behind ++ (": " ++ error.wording).toList)

/-- Gives files another name. -/
def ln : Program := fun self arguments =>
  let rules := transferRules.filter fun rule =>
    !(["no-clobber", "-u", "update"].contains rule.word)
  withOptions self
      (rules ++ [switch "symbolic" 's', switch "relative" 'r', switch "directory" 'd',
        switch "-F" 'F', switch "logical" 'L', switch "physical" 'P', switch "-n" 'n',
        ⟨"no-dereference", none, .nothing⟩]) true 1
      arguments fun given => do
    let given := { given with
      options := given.options.map fun option =>
        if option.word = "no-dereference" then { option with word := "-n" } else option }
    if given.has "relative" && !given.has "symbolic" then
      complainAs self "cannot do --relative without --symbolic".toList
      return 1
    let usual := if given.has "no-target-directory" then none else some ['.']
    withTarget self given usual (linkTo self given)

/-! ### Installation -/

end BlockExtension.Shell.Utility.Transfer
