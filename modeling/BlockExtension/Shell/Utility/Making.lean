import BlockExtension.Shell.Calendar
import BlockExtension.Shell.Utility.Entries

/-!
# Making files

The programs that make directories and files, and those that say how large a
file is to be and when it was written last.
-/

namespace BlockExtension.Shell.Utility.Making

open Act
open Entries
open Calendar
open Permission (inside)

/-! ## Directories -/

def makeOne (self : Octets) (given : Invocation) (mode : Nat) (path : Octets) : Act Bool := do
  match ← changeTree (·.makeDirectory (pathOf path)) with
  | some error => refuse self "cannot create directory " path error
  | none =>
      let _ ← changeTree (·.changeMode (pathOf path) mode)
      if given.has "verbose" then
        put (self ++ ": created directory ".toList ++ quoted path ++ ['\n'])
      return true

def leading (path : Octets) : List Octets :=
  let kept := withoutSlashes path
  let cuts := (List.range kept.length).filter fun n =>
    0 < n && kept[n]? = some '/' && kept[n - 1]? ≠ some '/'
  cuts.map kept.take ++ [path]

def makeMissing (self : Octets) (given : Invocation) (mode usual : Nat) :
    List Octets → Act Bool
  | [] => return true
  | path :: rest => do
      let tree ← tree
      match tree.find (pathOf path) with
      | .ok (_, .directory _) => makeMissing self given mode usual rest
      | .ok _ =>
          refuse self "cannot create directory " path
            (if rest.isEmpty then .alreadyExists else .notDirectory)
      | .error _ =>
          if ← makeOne self given (if rest.isEmpty then mode else usual) path then
            makeMissing self given mode usual rest
          else return false

/-- The mode that a text says for a new file; with none, the usual one. -/
def modeOf (self : Octets) (text : Option Octets) (usual : Nat) (isDirectory : Bool) :
    Act (Option Nat) := do
  let mask := (← process).mask
  match text.map fun text => (text, Permission.Mode.ofText? text) with
  | some (text, none) =>
      complainAs self ("invalid mode ".toList ++ quoted text)
      return none
  | some (_, some mode) => return some (mode.changed isDirectory mask usual)
  | none => return some (usual &&& (0o777 ^^^ mask))

/-- Makes directories. -/
def mkdir : Program := fun self arguments =>
  withOptions self [switch "parents" 'p', switch "verbose" 'v', setting "mode" 'm'] true 1
      arguments fun given => do
    if given.operands.isEmpty then return ← lackOperand self "operand" none
    let usual := 0o777 &&& (0o777 ^^^ (← process).mask)
    let some mode ← modeOf self (given.value? "mode") 0o777 true | return 1
    let make (path : Octets) : Act Bool :=
      if given.has "parents" then
        makeMissing self given mode (usual ||| 0o300) (leading path)
      else makeOne self given mode path
    return statusOf (← forAll make given.operands)

/-! ## Times -/

def now : Act Moment := return .ofNanos (← get).now

def pairs : Octets → List Nat
  | a :: b :: rest => Octets.valueOf [a, b] :: pairs rest
  | _ => []

/-- The moment that digits for month, day, hour and minute say, perhaps behind those of a year. -/
def stamped? (now : Moment) (text : Octets) : Option Moment := do
  let digits := text.takeWhile (· ≠ '.')
  let seconds ← match text.drop digits.length with
    | [] => some 0
    | [_, a, b] => if a.isDigit && b.isDigit then some (Octets.valueOf [a, b]) else none
    | _ => none
  unless digits.all Char.isDigit do none
  let (year, rest) ← match digits.length, pairs digits with
    | 8, rest => some (now.day.year, rest)
    | 10, year :: rest =>
        some ((if year < 69 then 2000 + year else 1900 + year : Nat), rest)
    | 12, century :: year :: rest => some (((century * 100 + year : Nat) : Int), rest)
    | _, _ => none
  match rest with
  | [month, day, hour, minute] =>
      unless 1 ≤ month && month ≤ 12 && 1 ≤ day && day ≤ monthLength year month &&
          hour ≤ 23 && minute ≤ 59 && seconds ≤ 60 do none
      let number := (⟨year, month, day⟩ : Day).number
      return ⟨number * 86400 + ((hour * 60 + minute) * 60 + seconds : Nat), 0⟩
  | _ => none

def timeWords : List (List String) := [["atime", "access", "use"], ["mtime", "modify"]]

def timeFor (self : Octets) (given : Invocation) : Act (Option Moment) := do
  let now ← now
  let stamp ← match given.value? "-t" with
    | none => pure none
    | some text =>
        match stamped? now text with
        | some moment => pure (some moment)
        | none =>
            complainAs self ("invalid date format ".toList ++ quoted text)
            return none
  if stamp.isSome && given.has "reference" then
    complainAs self "cannot specify times from more than one source".toList
    pointToHelp self
    return none
  let start ← match given.value? "reference" with
    | none => pure now
    | some path =>
        match ← lookedUp (!given.has "no-dereference") path with
        | .ok (location, _) => pure (.ofNanos ((← get).timeOf location))
        | .error error =>
            let _ ← refuse self "failed to get attributes of " path error
            return none
  return stamp.getD start

/-- Gives a file a time, and makes it if it is not there. -/
def touchOne (self : Octets) (given : Invocation) (time : Moment) (dates : Bool)
    (path : Octets) : Act Bool := do
  if path = ['-'] then return true
  let follows := !given.has "no-dereference"
  let date (location : Files.Location) : Act Bool := do
    if dates then modify (·.dated time.toNanos [location])
    return true
  match ← lookedUp follows path with
  | .ok (location, _) => date location
  | .error error =>
      let leaves := given.has "no-create" || !follows
      if leaves then
        if given.has "no-create" && error = .notFound then return true
        return ← refuse self "setting times of " path error
      match error with
      | .notFound =>
          match ← openPath path .append with
          | .ok _ =>
              match ← entryAt? path with
              | some (location, _) =>
                  if given.has "-a" && !given.has "-m" then return true
                  date location
              | none => return true
          | .error .isDirectory => refuse self "setting times of " path .notFound
          | .error error => refuse self "cannot touch " path error
      | error =>
          let text := if path.getLast? = some '/' then "setting times of " else "cannot touch "
          refuse self text path error

/-- Makes files that are not there, and says when files were written last. -/
def touch : Program := fun self arguments =>
  withOptions self
      [switch "-a" 'a', switch "no-create" 'c', switch "-f" 'f',
        switch "no-dereference" 'h', switch "-m" 'm', setting "reference" 'r', setting "-t" 't',
        ⟨"time", none, .value⟩] true 1 arguments fun given => do
    let chosen := (given.values "time").map fun text => (text, chosen? timeWords text)
    if let some (text, _) := chosen.find? (·.2.isNone) then
      complainOfChoice self "--time" timeWords text
      return 1
    let some time ← timeFor self given | return 1
    if given.operands.isEmpty then return ← lackOperand self "file operand" none
    let asksAccess := given.has "-a" || chosen.any (·.2 = some "atime")
    let asksWriting := given.has "-m" || chosen.any (·.2 = some "mtime")
    return statusOf (← forAll (touchOne self given time (asksWriting || !asksAccess))
      given.operands)

/-! ## Sizes -/

/-- What a size has to do with the size that a file has. -/
inductive Sizing where
  | exactly
  | more
  | atMost
  | atLeast
  | down
  | up
  deriving DecidableEq, Repr

def Sizing.reached (sizing : Sizing) (asked : Int) (current : Nat) : Nat :=
  let size := asked.toNat
  match sizing with
  | .exactly => size
  | .more => ((current : Int) + asked).toNat
  | .atMost => min current size
  | .atLeast => max current size
  | .down => current / size * size
  | .up => (current + size - 1) / size * size

/-- How a size is to be reached that a text says, and what is left of the text. -/
def sizingOf (text : Octets) : Sizing × Octets :=
  match text.dropWhile Octets.isSpace with
  | '<' :: rest => (.atMost, rest.dropWhile Octets.isSpace)
  | '>' :: rest => (.atLeast, rest.dropWhile Octets.isSpace)
  | '/' :: rest => (.down, rest.dropWhile Octets.isSpace)
  | '%' :: rest => (.up, rest.dropWhile Octets.isSpace)
  | rest => (.exactly, rest)

def sizeFor (self text : Octets) : Act (Option (Sizing × Int)) := do
  let (sizing, rest) := sizingOf text
  let sign := rest.head?.filter fun c => c = '+' || c = '-'
  if sign.isSome && sizing ≠ .exactly then
    complainAs self "multiple relative modifiers specified".toList
    pointToHelp self
    return none
  let digits := if sign.isSome then rest.drop 1 else rest
  match if digits.getLast? = some 'b' then none else amount? digits with
  | none =>
      complainAs self ("Invalid number: ".toList ++ quoted rest)
      return none
  | some n =>
      if n = 0 && (sizing = .up || sizing = .down) then
        complainAs self "division by zero".toList
        return none
      return some (if sign.isSome then .more else sizing, if sign = some '-' then -(n : Int) else n)

/-- Cuts a file to a size, or fills it up with zeros. -/
def resize (self : Octets) (given : Invocation) (size : Nat → Nat) (path : Octets) :
    Act Bool := do
  if given.has "no-create" && (← entryAt? path).isNone then return true
  match ← openPath path .append with
  | .error error =>
      deny self ("cannot open ".toList ++ quoted path ++ " for writing: ".toList ++
        error.wording.toList)
  | .ok _ =>
      match (← tree).find (pathOf path) with
      | .ok (location, .file content mode) =>
          let size := size content.size
          let grown : ByteArray := content ++ ⟨Array.replicate (size - content.size) 0⟩
          let _ ← changeTree fun tree =>
            .ok (tree.revise location (.file (grown.extract 0 size) mode))
          return true
      | _ => return true

def blockSize : Nat := 4096

/-- Cuts files to a size, or fills them up with zeros. -/
def truncate : Program := fun self arguments =>
  withOptions self
      [switch "no-create" 'c', switch "io-blocks" 'o', setting "reference" 'r',
        setting "size" 's'] true 1 arguments fun given => do
    let asked ← match given.value? "size" with
      | none => pure none
      | some text =>
          match ← sizeFor self text with
          | none => return 1
          | some asked => pure (some asked)
    let wrong (text : String) : Act Nat := do
      complainAs self text.toList
      pointToHelp self
      return 1
    if asked.isNone && !given.has "reference" then
      return ← wrong "you must specify either '--size' or '--reference'"
    if given.has "reference" && asked.any (·.1 = .exactly) then
      return ← wrong "you must specify a relative '--size' with '--reference'"
    if given.has "io-blocks" && asked.isNone then
      return ← wrong "'--io-blocks' was specified but '--size' was not"
    if given.operands.isEmpty then return ← lackOperand self "file operand" none
    let model ← match given.value? "reference" with
      | none => pure none
      | some path =>
          match (← tree).find (pathOf path) with
          | .ok (_, entry) => pure (some (lengthOf entry))
          | .error error =>
              let _ ← refuse self "cannot stat " path error
              return 1
    let size (current : Nat) : Nat :=
      let current := model.getD current
      match asked with
      | none => current
      | some (sizing, n) =>
          sizing.reached (if given.has "io-blocks" then n * blockSize else n) current
    return statusOf (← forAll (resize self given size) given.operands)

/-! ## Names that nothing has -/

/-- A template for a name: what stands before and behind some letters, and how many they are. -/
structure Template where
  before : Octets
  holes : Nat
  behind : Octets
  deriving DecidableEq, Repr

def Template.ofText (text : Octets) (suffix : Octets) : Template :=
  let behind := (text.reverse.takeWhile (· ≠ 'X')).reverse
  let behind := if behind.length = text.length then [] else behind
  let start := text.take (text.length - behind.length)
  let holes := (start.reverse.takeWhile (· = 'X')).length
  ⟨start.take (start.length - holes), holes, behind ++ suffix⟩

/-- The name that a template and a number make. -/
def Template.filled (template : Template) (n : Nat) : Octets :=
  let digits := (Octets.ofNat n).take template.holes
  template.before ++ List.replicate (template.holes - digits.length) 'a' ++ digits ++
    template.behind

/-- The directory for a new file, if it is not to be the one that a template names. -/
def placeOf (given : Invocation) : Act (Option Octets) := do
  let fromOption := (given.value? "tmpdir").filter (!·.isEmpty)
  let fromVariable := (← textOf? "TMPDIR".toList).filter (!·.isEmpty)
  if given.has "-t" then return some ((fromVariable.or fromOption).getD "/tmp".toList)
  if given.operands.isEmpty || given.has "tmpdir" then
    return some ((fromOption.or fromVariable).getD "/tmp".toList)
  return none

/-- Makes a file with a name that nothing has yet. -/
def mktemp : Program := fun self arguments =>
  withOptions self
      [switch "directory" 'd', switch "dry-run" 'u', switch "quiet" 'q',
        setting "-p" 'p', ⟨"tmpdir", none, .perhaps⟩, switch "-t" 't', ⟨"suffix", none, .value⟩]
      true 1 arguments fun given => do
    let given := { given with
      options := given.options.map fun option =>
        if option.word = "-p" then { option with word := "tmpdir" } else option }
    if 1 < given.operands.length then
      complainAs self "too many templates".toList
      pointToHelp self
      return 1
    let refuse (text : Octets) : Act Nat := do
      complainAs self text
      return 1
    let text := given.operands.headD "tmp.XXXXXXXXXX".toList
    let suffix := given.value? "suffix"
    if suffix.isSome && text.getLast? ≠ some 'X' then
      return ← refuse ("with --suffix, template ".toList ++ quoted text ++
        " must end in X".toList)
    let template := Template.ofText text (suffix.getD [])
    if template.behind.contains '/' then
      return ← refuse ("invalid suffix ".toList ++ quoted template.behind ++
        ", contains directory separator".toList)
    if template.holes < 3 then
      return ← refuse ("too few X's in template ".toList ++ quoted text)
    let place ← placeOf given
    if given.has "-t" && text.contains '/' then
      return ← refuse ("invalid template, ".toList ++ quoted text ++
        ", contains directory separator".toList)
    if place.isSome && text.head? = some '/' then
      return ← refuse ("invalid template, ".toList ++ quoted text ++
        "; with --tmpdir, it may not be absolute".toList)
    let n := (← get).nextId
    modify fun machine => { machine with nextId := n + 1 }
    let inPlace (name : Octets) : Octets := place.elim name (inside · name)
    let path := inPlace (template.filled n)
    let failure ←
      if given.has "dry-run" then pure none
      else if given.has "directory" then do
        match ← changeTree (·.makeDirectory (pathOf path)) with
        | some error => pure (some error)
        | none => changeTree (·.changeMode (pathOf path) 0o700)
      else do
        match ← openPath path .write with
        | .error error => pure (some error)
        | .ok _ => changeTree (·.changeMode (pathOf path) 0o600)
    match failure with
    | some error =>
        let kind := if given.has "directory" then "directory" else "file"
        unless given.has "quiet" do
          complainAs self (s!"failed to create {kind} via template ".toList ++
            quoted (inPlace (text ++ suffix.getD [])) ++ (": " ++ error.wording).toList)
        return 1
    | none =>
        put (path ++ ['\n'])
        return 0

end BlockExtension.Shell.Utility.Making
