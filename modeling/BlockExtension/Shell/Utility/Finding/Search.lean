import BlockExtension.Shell.Utility.Finding.Reading
import BlockExtension.Shell.Utility.Starting

/-!
# Finding files

The program that goes through directories and asks of each file whether a query
holds of it. An action is carried out when the query comes to it. What is written
is written in one go, before other programs are run and at the end.
-/

namespace BlockExtension.Shell.Utility.Finding

open Act

/-! ## Progress -/

/-- A command that is yet to be run, on some paths, in a directory or where the search is. -/
structure Errand where
  number : Nat
  words : List Octets
  directory : Option Octets
  paths : List Octets

/-- How far a search has come. -/
structure Progress where
  written : Octets
  failed : Bool
  stops : Bool
  /-- The search is not to go into the directory. -/
  prunes : Bool
  errands : List Errand

namespace Progress

def start : Progress := ⟨[], false, false, false, []⟩

def forgotten (progress : Progress) : Progress := { progress with written := [] }

end Progress

abbrev Search := StateT Progress Act

/-- Writes what is yet to be written. -/
def flush : Search Unit := do
  let progress ← get
  put progress.written
  set progress.forgotten

/-- Notes that something has gone wrong, and says what. -/
def fail (self text : Octets) : Search Unit := do
  complainAs self text
  modify fun progress => { progress with failed := true }

def writeTo (outlet : Outlet) (text : Octets) : Search Unit := do
  match outlet with
  | .standard => modify fun progress => { progress with written := progress.written ++ text }
  | .channel place => do
      let _ ← writeAt place text

/-! ## Commands -/

/-- A way to run a program in a directory, or where the search is. -/
def launchIn (launch : Launch) (directory : Option Octets) (words : List Octets) :
    Act (Except Files.OsError Ending) := do
  match directory with
  | none => launch words
  | some path =>
      match (← tree).find (pathOf path) with
      | .error error => return .error error
      | .ok (location, _) =>
          let standing ← standing
          modify fun machine =>
            { machine with tree := { machine.tree with workingDirectory := location } }
          let result ← launch words
          modify fun machine =>
            { machine with
              tree := { machine.tree with workingDirectory := machine.placeOf standing } }
          return result

/-- Runs a command; tells whether all went well. -/
def runCommand (self : Octets) (launch : Launch) (directory : Option Octets)
    (words : List Octets) : Search Bool := do
  flush
  let name := quoted (words.headD [])
  match ← launchIn launch directory words with
  | .ok (.exited status) => return status = 0
  | .ok (.killed signal) =>
      complainAs self (name ++ " terminated by signal ".toList ++ Octets.ofNat signal)
      return false
  | .error error =>
      complainAs self (name ++ (": " ++ error.wording).toList)
      return false

/-- Runs a command that has been put off. -/
def runErrand (self : Octets) (launch : Launch) (errand : Errand) : Search Unit := do
  unless ← runCommand self launch errand.directory (errand.words ++ errand.paths) do
    modify fun progress => { progress with failed := true }

/-- Runs the commands that have been put off and meet a condition. -/
def runErrands (self : Octets) (launch : Launch) (isDue : Errand → Bool) : Search Unit := do
  let errands := (← get).errands
  modify fun progress => { progress with errands := progress.errands.filter (!isDue ·) }
  (errands.filter isDue).forM (runErrand self launch)

/-- Puts a command off, to be run on one more path. -/
def putOff (number : Nat) (words : List Octets) (directory : Option Octets) (path : Octets) :
    Search Unit :=
  modify fun progress =>
    let known := progress.errands.any fun errand => errand.number = number
    { progress with
      errands := if known then
          progress.errands.map fun errand =>
            if errand.number = number then { errand with paths := errand.paths ++ [path] }
            else errand
        else progress.errands ++ [⟨number, words, directory, [path]⟩] }

def innerPath (path : Octets) : Octets :=
  let name := Entries.lastName path
  if name = ['/'] then name else "./".toList ++ name

/-! ## Asking -/

/-- A text is of a pattern, in which a name may start with a point. -/
def isOf (pattern : Octets) (foldsCase : Bool) (text : Octets) : Bool :=
  let fold (text : Octets) : Octets := if foldsCase then text.map Char.toLower else text
  Pattern.describes (fold pattern) (fold text)

def isWhole (regex : Regex) (foldsCase : Bool) (text : Octets) : Bool :=
  (regex.ends ⟨text.toArray, foldsCase, false⟩ ⟨0, []⟩).any (·.place = text.length)

/-- What is known of a file besides. -/
def factsOf (found : Found) : Act Facts := do
  let machine ← get
  return {
    names := ← Entries.nameCount found.location found.entry
    serial := Entries.serialOf machine.tree found.location
    time := Calendar.Moment.ofNanos (machine.timeOf found.location)
    target := (machine.tree.find (pathOf found.path)).map (·.2) }

def otherKindLetter (extent : Extent) (found : Found) : Act Char := do
  let tree ← tree
  let path := pathOf found.path
  let other := if extent.follows found.depth then tree.findNamed path
    else (tree.find path).orElseLazy fun _ => tree.findNamed path
  return match other with
  | .ok (_, entry) => kindLetter entry
  | .error _ => kindLetter found.entry

/-- Takes a file away. -/
def delete (self : Octets) (found : Found) : Search Bool := do
  if found.path = ['.'] then return true
  let named ← StateT.lift (Entries.namedAt? found.path)
  let failure ← StateT.lift (if named.any fun (_, entry) => entry.isDirectory then
      changeTree (·.removeDirectory (pathOf found.path))
    else changeTree (·.removeFile (pathOf found.path)))
  match failure with
  | none => return true
  | some error =>
      fail self ("cannot delete ".toList ++ quoted found.path ++
        (": " ++ error.wording).toList)
      return false

/-- Asks whether a command is to be run. -/
def agreed (words : List Octets) (path : Octets) : Search Bool := do
  flush
  report ("< ".toList ++ words.headD [] ++ " ... ".toList ++ path ++ " > ? ".toList)
  match ← readLine 0 with
  | .ok answer => return answer.head?.any fun c => c = 'y' || c = 'Y'
  | .error _ => return false

/-- What a query says of a file; what it asks to be done is done. -/
def ask (self : Octets) (launch : Launch) (extent : Extent) (found : Found) :
    Query → Search Bool
  | .answer holds => return holds
  | .name pattern folds => return isOf pattern folds (Entries.lastName found.path)
  | .path pattern folds => return isOf pattern folds found.path
  | .goal pattern folds =>
      return match found.entry with
      | .link path => isOf pattern folds (Octets.ofText path)
      | _ => false
  | .shape regex folds => return isWhole regex folds found.path
  | .kind letters => return letters.contains (kindLetter found.entry)
  | .otherKind letters => return letters.contains (← otherKindLetter extent found)
  | .empty => do
      let tree ← tree
      return match found.entry with
      | .directory _ => tree.isEmptyAt found.location
      | .file content _ => content.size = 0
      | _ => false
  | .size unit bound =>
      return bound.allows ((Entries.lengthOf found.entry + unit - 1) / unit)
  | .names bound => return bound.allows (← Entries.nameCount found.location found.entry)
  | .serial bound => return bound.allows (Entries.serialOf (← tree) found.location)
  | .owner isGroup bound =>
      let (owner, group) := Entries.ownersOf found.location
      return bound.allows (Entries.numberOf (if isGroup then group else owner))
  | .one location => return ((← tree).namesOf location).contains found.location
  | .written period => do
      let machine ← getThe Machine
      return period.allows (machine.timeOf found.location)
  | .permission sharing bits directoryBits =>
      return sharing.allows (if found.entry.isDirectory then directoryBits else bits)
        found.entry.mode
  | .access operator => return ← Test.ofFile operator found.path
  | .write outlet lineEnd => do
      writeTo outlet (found.path ++ lineEnd)
      return true
  | .writeFormat outlet pieces => do
      writeTo outlet (described found (← factsOf found) pieces)
      return true
  | .list outlet => do
      let machine ← getThe Machine
      writeTo outlet (line machine.now found (← factsOf found))
      return true
  | .delete => delete self found
  | .prune => do
      modify fun progress => { progress with prunes := true }
      return true
  | .quit => do
      runErrands self launch fun _ => true
      modify fun progress => { progress with stops := true }
      return true
  | .run words isInside asks => do
      let path := if isInside then innerPath found.path else found.path
      if asks then
        unless ← agreed words found.path do return false
      let command := words.map fun word =>
        Commands.filled pathMark path (word.length + 1) word
      let directory := if isInside then some (Entries.parent found.path) else none
      if !asks then return ← runCommand self launch directory command
      let outer := (← process).descriptors
      connect 0 none
      let isFine ← runCommand self launch directory command
      modifyProcess fun process => { process with descriptors := outer }
      return isFine
  | .runOnAll number words isInside => do
      let directory := if isInside then some (Entries.parent found.path) else none
      runErrands self launch fun errand => errand.number = number && errand.directory ≠ directory
      putOff number words directory (if isInside then innerPath found.path else found.path)
      return true
  | .negation query => return !(← ask self launch extent found query)
  | .both first second => do
      if !(← ask self launch extent found first) || (← get).stops then return false
      ask self launch extent found second
  | .either first second => do
      if (← ask self launch extent found first) || (← get).stops then return true
      ask self launch extent found second
  | .sequence first second => do
      let _ ← ask self launch extent found first
      if (← get).stops then return false
      ask self launch extent found second

/-! ## Searching -/

/-- The file that a path leads to, or names. -/
def lookedUp (extent : Extent) (depth : Nat) (path : Octets) :
    Act (Except Files.OsError (Files.Location × Files.Entry)) := do
  let tree ← tree
  let own := tree.findNamed (pathOf path)
  if !extent.follows depth then return own
  return match tree.find (pathOf path) with
  | .ok found => .ok found
  | .error error =>
      match own with
      | .ok (location, entry) => if entry.isLink then .ok (location, entry) else .error error
      | .error error => .error error

def untilStopped (one : Octets → Search Unit) : List Octets → Search Unit
  | [] => return ()
  | path :: rest => do
      unless (← get).stops do
        one path
        untilStopped one rest

/--
Asks about what a path names and what is below it; `above` holds the directories on
the way from where the search started.
-/
def search (self : Octets) (launch : Launch) (query : Query) (extent : Extent)
    (start : Octets) : (fuel depth : Nat) → (above : List (Files.Location × Octets)) → Octets →
    Search Unit
  | 0, _, _, _ => return ()
  | fuel + 1, depth, above, path => do
      match ← lookedUp extent depth path with
      | .error error => fail self (quoted path ++ (": " ++ error.wording).toList)
      | .ok (location, entry) =>
          if let some (_, outer) := above.find? (·.1 = location) then
            fail self ("File system loop detected; ".toList ++ quoted path ++
              " is part of the same file system loop as ".toList ++ quoted outer ++ ['.'])
            return ()
          let found : Found := ⟨path, start, depth, location, entry⟩
          let here : Search Unit := do
            modify fun progress => { progress with prunes := false }
            if extent.allows depth then
              let _ ← ask self launch extent found query
          let below : Search Unit := do
            if !entry.isDirectory || extent.most.any (· ≤ depth) then return ()
            if !entry.isReadable then
              fail self (quoted path ++ ": Permission denied".toList)
              return ()
            let names := ((← tree).children location).map fun (name, _) => Octets.ofText name
            untilStopped
              (search self launch query extent start fuel (depth + 1) ((location, path) :: above))
              (names.map (Permission.inside path))
          if extent.inward then
            below
            unless (← get).stops do here
          else
            here
            unless (← get).prunes || (← get).stops do below

/-- The arguments behind those that say how links are looked at, and what they say. -/
def leading : (deref : Deref) → List Octets → Except Octets (Deref × List Octets)
  | deref, [] => .ok (deref, [])
  | deref, word :: rest =>
      match String.ofList word with
      | "-P" => leading .never rest
      | "-H" => leading .first rest
      | "-L" => leading .always rest
      | "--" => .ok (deref, rest)
      | "-D" =>
          match rest with
          | [] => .error "Missing argument after the -D option.".toList
          | _ :: rest => leading deref rest
      | _ =>
          match Octets.behind? "-O".toList word with
          | some [] =>
              .error "The -O option must be immediately followed by a decimal integer".toList
          | some digits =>
              if digits.all Char.isDigit then leading deref rest
              else .error "Please specify a decimal number immediately after -O".toList
          | none => .ok (deref, word :: rest)

def find (launch : Launch) : Program := fun self arguments => do
  match leading .never arguments with
  | .error text =>
      complainAs self text
      if text.head? = some 'M' then pointToHelp self
      return 1
  | .ok (deref, arguments) =>
      let paths := arguments.takeWhile (!startsQuery true ·)
      match ← readQuery deref (arguments.drop paths.length) with
      | .error complaints =>
          complaints.forM (complainAs self)
          return 1
      | .ok (query, extent) =>
          let paths := if paths.isEmpty then [['.']] else paths
          let whole : Search Unit := do
            untilStopped (fun path => search self launch query extent path Entries.depth 0 [] path)
              paths
            runErrands self launch fun _ => true
            flush
          let (_, progress) ← whole.run .start
          return if progress.failed then 1 else 0

end BlockExtension.Shell.Utility.Finding
