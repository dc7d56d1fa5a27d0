import BlockExtension.Shell.Utility.Entries

/-!
# Paths without detours

The programs that say what a link stands for, and which path leads to the same
place without links, without points and without going up and down again.

A path is resolved name by name, so that it can also be said where it would lead
of which the end is missing.
-/

namespace BlockExtension.Shell.Utility.Resolving

open Act
open Entries

/-- What of a path must be there for it to be resolved. -/
inductive Needs where
  | nothing
  /-- All but the last name. -/
  | directories
  | everything
  deriving DecidableEq, Repr

/-- How paths are resolved. -/
structure Manner where
  needs : Needs
  keepsLinks : Bool
  deriving DecidableEq, Repr

/-- What is left of a path that has been resolved up to some place: names, and a slash perhaps. -/
structure Rest where
  names : List String
  slash : Bool
  deriving DecidableEq, Repr

def Rest.needsDirectory (rest : Rest) : Bool :=
  match rest.names.dropWhile (· = ".") with
  | [] => rest.slash || !rest.names.isEmpty
  | name :: _ => name = ".."

/-- Why a location is none where something is, if that is so. -/
def lackOf? (tree : Files.Tree) (location : Files.Location) (name : String) :
    Option Files.OsError :=
  match tree.searchError? location with
  | some error => some error
  | none =>
      if Files.Path.nameLimit < name.utf8ByteSize then some .nameTooLong
      else if (tree.get? (location ++ [name])).isNone then some .notFound
      else none

/-- Why a name that more is behind cannot be passed, if that is so. -/
def obstacle? (manner : Manner) (tree : Files.Tree) (location : Files.Location) (name : String)
    (rest : Rest) : Option Files.OsError :=
  let isLast := rest.names.isEmpty
  let lack? := lackOf? tree location name
  let error? :=
    if rest.needsDirectory then
      match lack?, tree.find (pathOf (pathTo (location ++ [name]))) with
      | some lack, _ => some lack
      | none, .ok (_, entry) => if entry.isDirectory then none else some .notDirectory
      | none, .error error => some error
    else if manner.keepsLinks && !isLast then none
    else lack?
  match manner.needs, error? with
  | .nothing, _ => none
  | .directories, some .notFound => if isLast then none else some .notFound
  | _, error? => error?

def linksFreely : Nat := 20

/--
Where a path leads from a location. A circle has been gone round if the same rest of
a path is met a second time at the same place.
-/
def resolvedFrom (manner : Manner) (tree : Files.Tree) :
    (fuel links : Nat) → (met : List (Files.Location × Rest)) → Files.Location → Rest →
    Except Files.OsError Files.Location
  | 0, _, _, _, _ => .error .tooManyLinks
  | _, _, _, location, ⟨[], _⟩ => .ok location
  | fuel + 1, links, met, location, ⟨name :: names, slash⟩ =>
      let rest : Rest := ⟨names, slash⟩
      if name = "." then resolvedFrom manner tree fuel links met location rest
      else if name = ".." then resolvedFrom manner tree fuel links met location.dropLast rest
      else
        let pass : Except Files.OsError Files.Location :=
          match obstacle? manner tree location name rest with
          | some error => .error error
          | none => resolvedFrom manner tree fuel links met (location ++ [name]) rest
        match tree.get? (location ++ [name]) with
        | some (.link path) =>
            let here := (location, (⟨name :: names, slash⟩ : Rest))
            if manner.keepsLinks || (tree.searchError? location).isSome then pass
            else if linksFreely ≤ links && met.contains here then
              if manner.needs = .nothing then
                resolvedFrom manner tree fuel links met (location ++ [name]) rest
              else .error .tooManyLinks
            else
              let start := if Files.Path.isAbsolute path then [] else location
              let met := if linksFreely ≤ links then here :: met else met
              resolvedFrom manner tree fuel (links + 1) met start
                ⟨Files.Path.names path ++ names,
                  slash || (names.isEmpty && Files.Path.endsInSlash path)⟩
        | _ => pass

def stepLimit : Nat := 5000

/-- Where a path leads. -/
def resolved (manner : Manner) (tree : Files.Tree) (path : String) :
    Except Files.OsError Files.Location :=
  if path.isEmpty then .error .notFound
  else
    let start := if Files.Path.isAbsolute path then [] else tree.workingDirectory
    resolvedFrom manner tree stepLimit 0 [] start
      ⟨Files.Path.names path, Files.Path.endsInSlash path⟩

/-! ## Programs -/

/-- What of paths must be there, as options say. -/
def needsOf (given : Invocation) (usual : Needs) : Needs :=
  ((given.options.filterMap fun option =>
    match option.word with
    | "canonicalize" => some .directories
    | "canonicalize-existing" => some .everything
    | "canonicalize-missing" => some .nothing
    | _ => none).getLast?).getD usual

def endOf (given : Invocation) : Octets := if given.has "zero" then ['\x00'] else ['\n']

/-- Writes what links lead to, or paths without detours. -/
def readlink : Program := fun self arguments =>
  withOptions self
      [switch "canonicalize" 'f', switch "canonicalize-existing" 'e',
        switch "canonicalize-missing" 'm', switch "no-newline" 'n', switch "quiet" 'q',
        switch "-s" 's', ⟨"silent", none, .nothing⟩, switch "verbose" 'v', switch "zero" 'z']
      true 1 arguments fun given => do
    if given.operands.isEmpty then return ← lackOperand self "operand" none
    let follows := ["canonicalize", "canonicalize-existing", "canonicalize-missing"].any given.has
    let speaks := asksFirst given ["verbose"] ["quiet", "-s", "silent"]
    let isBare := given.has "no-newline" && given.operands.length = 1
    if given.has "no-newline" && !isBare then
      complainAs self "ignoring --no-newline with multiple arguments".toList
    let all ← forAll (fun path => do
      let tree ← tree
      let found :=
        if follows then
          (resolved ⟨needsOf given .directories, false⟩ tree (pathOf path)).map pathTo
        else
          match tree.findNamed (pathOf path) with
          | .ok (_, .link goal) => .ok (Octets.ofText goal)
          | .ok _ => .error .invalidArgument
          | .error error => .error error
      match found with
      | .ok text =>
          put (text ++ (if isBare then [] else endOf given))
          return true
      | .error error =>
          if speaks then complainOf self path error
          return false) given.operands
    return statusOf all

/-- The path from one location to another one. -/
def relative : (start goal : Files.Location) → Octets
  | a :: start, b :: goal =>
      if a = b then relative start goal
      else Octets.joined ['/'] ((a :: start).map (fun _ => ['.', '.']) ++
        (b :: goal).map Octets.ofText)
  | start, goal =>
      if start.isEmpty && goal.isEmpty then ['.']
      else Octets.joined ['/'] (start.map (fun _ => ['.', '.']) ++ goal.map Octets.ofText)

/-- Writes paths without detours. -/
def realpath : Program := fun self arguments =>
  withOptions self
      [switch "canonicalize-existing" 'e', switch "canonicalize-missing" 'm', switch "-s" 's',
        ⟨"strip", none, .nothing⟩, ⟨"no-symlinks", none, .nothing⟩, switch "quiet" 'q',
        switch "logical" 'L', switch "physical" 'P', switch "zero" 'z',
        ⟨"relative-to", none, .value⟩, ⟨"relative-base", none, .value⟩] true 1 arguments
      fun given => do
    if given.operands.isEmpty then return ← lackOperand self "operand" none
    let tree ← tree
    let needs := needsOf given .directories
    let last := ((given.options.map (·.word)).filter
      ["-s", "strip", "no-symlinks", "logical", "physical"].contains).getLast?
    let keepsLinks := last.any (· ≠ "physical")
    let resolve (path : Octets) : Except Files.OsError Files.Location := do
      let location ← resolved ⟨needs, keepsLinks⟩ tree (pathOf path)
      if last = some "logical" then resolved ⟨needs, false⟩ tree (pathOf (pathTo location))
      else return location
    let find (path : Octets) : Except (Octets × Files.OsError) Files.Location :=
      match resolve path with
      | .error error => .error (path, error)
      | .ok location =>
          if needs = .everything && !(tree.isDirectory (pathOf (pathTo location))) then
            .error (path, .notDirectory)
          else .ok location
    let frame? : Except (Octets × Files.OsError)
        (Option Files.Location × Option Files.Location) := do
      let under := given.value? "relative-base"
      let start ← ((given.value? "relative-to").or under).mapM find
      match ← under.mapM find with
      | none => return (start, none)
      | some base =>
          if start.all (Files.Tree.isWithin · base) then return (start, some base)
          else return (none, start)
    let (start, base) ← match frame? with
      | .ok frame => pure frame
      | .error (path, error) =>
          complainOf self path error
          return 1
    let all ← forAll (fun path => do
      match resolve path with
      | .ok location =>
          let shown := match start with
            | some start =>
                if base.all (Files.Tree.isWithin location) then relative start location
                else pathTo location
            | none => pathTo location
          put (shown ++ endOf given)
          return true
      | .error error =>
          unless given.has "quiet" do complainOf self path error
          return false) given.operands
    return statusOf all

end BlockExtension.Shell.Utility.Resolving
