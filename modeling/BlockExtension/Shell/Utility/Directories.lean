import BlockExtension.Shell.Route
import BlockExtension.Shell.Utility.Permission
import BlockExtension.Shell.Utility.Settings

/-!
# Directories

How a script goes from one directory to another. The shell with extensions also
keeps directories to go back to, the next one first.
-/

namespace BlockExtension.Shell.Utility

open Act

/-! ## The working directory -/

def assignExported (name text : Octets) : Act Unit := do
  assignText name text
  unless ← isExtended do
    if let some entry ← variableOf? name then
      putVariable name (some { entry with exported := true })

/-- The options of a utility, and its operands; none if there is one that it does not have. -/
def directoryOptions? (known usage : String) (arguments : List Octets) :
    Act (Option (List Char × List Octets)) := do
  let isOption (word : Octets) : Bool :=
    word.head? = some '-' && 1 < word.length && word ≠ ['-', '-']
  let options := arguments.takeWhile isOption
  let operands := arguments.drop options.length
  let operands := if operands.head? = some ['-', '-'] then operands.drop 1 else operands
  let letters := options.flatMap (·.drop 1)
  let extended ← isExtended
  match letters.find? fun c => !((if extended then known else "LP").toList.contains c) with
  | none => return some (letters, operands)
  | some c =>
      if !extended then failWith ("Illegal option -".toList ++ [c]) 2
      complain (['-', c] ++ ": invalid option".toList)
      report (usage.toList ++ ['\n'])
      return none

/-- The last of the letters says that links are not remembered; `usual` holds without any. -/
def isPhysical (letters : List Char) (usual : Bool) : Bool :=
  let last := (letters.filter fun c => c = 'L' || c = 'P').getLast?
  if last.isSome then last = some 'P' else usual

/-- Makes what a path leads to the working directory; `shown` is how the way there has been. -/
def enter (path : Octets) (shown : Option Octets) : Act (Option Files.OsError) := do
  match (← tree).find (pathOf path) with
  | .error error => return some error
  | .ok (location, .directory mode) =>
      if !(Files.Entry.directory mode).isExecutable then return some .permissionDenied
      modify fun machine =>
        { machine with
          tree := { machine.tree with workingDirectory := location }
          process := { machine.process with
            directoryPath := shown.getD (pathTo location)
            whereabouts := machine.process.whereabouts.map fun known =>
              { known with isStale := true } } }
      return none
  | .ok _ => return some .notDirectory

/-- Goes where a path leads by its text or, with extensions, where it leads if that is nowhere. -/
def goAlong (physical : Bool) (path : Octets) : Act (Option Files.OsError) := do
  let here := (← process).directoryPath
  if physical then return ← enter path none
  if !(← isExtended) then
    let goal := Route.logical here path
    return ← enter goal (some goal)
  match Route.checked? (← tree) here path with
  | some goal => enter goal (some goal)
  | none =>
      match ← enter (Route.whole here path) none with
      | none => return none
      | some error =>
          match ← enter path none with
          | none => return none
          | some _ => return some error

/-- Remembers in variables where the script is and has been; `before` is the path it was at. -/
def rememberDirectory (before : Octets) : Act Unit := do
  let old ← if ← isExtended then textOf? "PWD".toList else pure (some before)
  if let some old := old then assignExported "OLDPWD".toList old
  assignExported "PWD".toList (← process).directoryPath

def searchPlaces (goal : Octets) : Act (List Octets) := do
  let first := (goal.takeWhile (· ≠ '/'))
  if goal.head? = some '/' || Route.isHere first || Route.isAbove first then return []
  match ← textOf? "CDPATH".toList with
  | none => return []
  | some places => return Octets.cutAt ':' places

/-- Goes to a directory in the first of some places that has it; tells whether to say so. -/
def goFrom (physical : Bool) (goal : Octets) : List Octets → Act (Option Bool)
  | [] => return none
  | place :: rest => do
      let path := if place.isEmpty then goal else Permission.inside place goal
      let isThere := (← isExtended) || (← tree).isDirectory (pathOf path)
      if !isThere then return ← goFrom physical goal rest
      match ← goAlong physical path with
      | none => return some (!place.isEmpty)
      | some _ => goFrom physical goal rest

def changeDirectory (arguments : List Octets) : Act Nat := do
  let extended ← isExtended
  let usage := "cd: usage: cd [-L|[-P [-e]] [-@]] [dir]"
  let some (letters, operands) ← directoryOptions? "LPe@" usage arguments | return 2
  let physical := isPhysical letters (extended && (← isSet 'D'))
  if extended && 1 < operands.length then failWith "too many arguments".toList 1
  let before := (← process).directoryPath
  let (goal, shown) ← match operands with
    | [] => do
        let home ← textOf? "HOME".toList
        if extended && home.isNone then failWith "HOME not set".toList 1
        pure (home.getD [], false)
    | ['-'] :: _ => do
        let last ← textOf? "OLDPWD".toList
        if extended && last.isNone then failWith "OLDPWD not set".toList 1
        pure (last.getD [], true)
    | goal :: _ => pure (goal, false)
  let goal := if goal.isEmpty then ['.'] else goal
  let arrive (isSaid : Bool) : Act Nat := do
    rememberDirectory before
    if isSaid then putLines [(← process).directoryPath]
    return 0
  if let some isSaid := ← goFrom physical goal (← searchPlaces goal) then
    return ← arrive (isSaid || shown)
  match ← goAlong physical goal with
  | none => arrive shown
  | some error =>
      if !extended then failWith ("can't cd to ".toList ++ operands.headD goal) 2
      if ← isChosen "cdable_vars" then
        if let some path := ← textOf? goal then
          if let none := ← goAlong physical path then
            putLines [path]
            rememberDirectory before
            return 0
      failWith (goal ++ (": " ++ error.wording).toList) 1

def writeDirectory (arguments : List Octets) : Act Nat := do
  let some (letters, _) ← directoryOptions? "LP" "pwd: usage: pwd [-LP]" arguments | return 2
  let physical := isPhysical letters ((← isExtended) && (← isSet 'D'))
  let tree ← tree
  let process ← process
  putLines [if physical then pathTo tree.workingDirectory else process.directoryPath]
  return 0

/-! ## Directories to go back to -/

def tildePath (path : Octets) : Act Octets := do
  match ← textOf? "HOME".toList with
  | some home =>
      if home.isEmpty then return path
      if path = home then return ['~']
      match Octets.behind? (home ++ ['/']) path with
      | some rest => return '~' :: '/' :: rest
      | none => return path
  | none => return path

def allDirectories : Act (List Octets) :=
  return (← process).directoryPath :: (← process).directories

def writeDirectories : Act Unit := do
  putLines [Octets.joined [' '] (← (← allDirectories).mapM tildePath)]

def keepDirectories (directories : List Octets) : Act Unit :=
  modifyProcess fun process => { process with directories }

/-- Goes to a directory without saying where that is; the status tells whether it could. -/
def goTo (path : Octets) : Act Nat := changeDirectory [path]

/-- The place in a list that a sign and a number say: from its front, or from its back. -/
def turnedPlace? (count : Nat) : Octets → Option Nat
  | '+' :: digits => (Octets.number? digits).filter (· < count)
  | '-' :: digits => ((Octets.number? digits).filter (· < count)).map (count - 1 - ·)
  | _ => none

def pushDirectory (arguments : List Octets) : Act Nat := do
  let silent := arguments.head? = some ['-', 'n']
  let operands := if silent then arguments.drop 1 else arguments
  let operands := if operands.head? = some ['-', '-'] then operands.drop 1 else operands
  let all ← allDirectories
  let current := all.headD []
  let kept := all.drop 1
  match operands with
  | [] =>
      match kept with
      | [] => failWith "no other directory".toList 1
      | next :: rest =>
          let status ← goTo next
          if status ≠ 0 then return status
          keepDirectories (current :: rest)
          writeDirectories
          return 0
  | word :: _ =>
      match turnedPlace? all.length word with
      | some place =>
          let turned := all.drop place ++ all.take place
          let status ← goTo (turned.headD [])
          if status ≠ 0 then return status
          keepDirectories (turned.drop 1)
          writeDirectories
          return 0
      | none =>
          if silent then
            keepDirectories (word :: kept)
            writeDirectories
            return 0
          let status ← goTo word
          if status ≠ 0 then return status
          keepDirectories (current :: kept)
          writeDirectories
          return 0

def popDirectory (arguments : List Octets) : Act Nat := do
  let silent := arguments.head? = some ['-', 'n']
  let operands := if silent then arguments.drop 1 else arguments
  let all ← allDirectories
  let kept := all.drop 1
  if kept.isEmpty then failWith "directory stack empty".toList 1
  let place := match operands with
    | [] => some (if silent then 1 else 0)
    | word :: _ => turnedPlace? all.length word
  match place with
  | none => failWith (operands.headD [] ++ ": invalid argument".toList) 1
  | some 0 =>
      let status ← goTo (kept.headD [])
      if status ≠ 0 then return status
      keepDirectories (kept.drop 1)
      writeDirectories
      return 0
  | some place =>
      keepDirectories (kept.eraseIdx (place - 1))
      writeDirectories
      return 0

def numberedDirectory (place : Nat) (path : Octets) : Octets :=
  Octets.padLeft 2 (Octets.ofNat place) ++ ' ' :: ' ' :: path

def showDirectories (arguments : List Octets) : Act Nat := do
  let options := arguments.filter fun word =>
    word.head? = some '-' && (Octets.number? (word.drop 1)).isNone
  let letters := options.flatMap (·.drop 1)
  if letters.contains 'c' then
    keepDirectories []
    return 0
  let all ← allDirectories
  let shown ← if letters.contains 'l' then pure all else all.mapM tildePath
  match arguments.find? fun word => !options.contains word with
  | some word =>
      match turnedPlace? all.length word with
      | some place =>
          putLines [shown[place]?.getD []]
          return 0
      | none => failWith (word.drop 1 ++ ": directory stack index out of range".toList) 1
  | none =>
      if letters.contains 'v' then
        putLines (shown.zipIdx.map fun (path, place) => numberedDirectory place path)
      else if letters.contains 'p' then putLines shown
      else putLines [Octets.joined [' '] shown]
      return 0

end BlockExtension.Shell.Utility
