import BlockExtension.Shell.Assigning
import BlockExtension.Shell.Utility.Settings

/-!
# Variables and parameters

The utilities that say what variables are, and those that go through the parameters.
-/

/-!
## Declaring variables

The utilities that say of variables what they are: that they are handed over to
programs, keep their values, hold numbers, or are a function's own. A variable
may get a value at the same time, and in the shell with extensions a whole list.
-/

namespace BlockExtension.Shell.Utility

open Act

/-! ### Arguments -/

def assignmentOf (argument : Octets) : Octets × Option Octets :=
  let (name, rest) := argument.span (· ≠ '=')
  match rest with
  | _ :: value => (name, some value)
  | [] => (name, none)

def refuseName {α : Type} (name : Octets) : Act α := do
  if ← isExtended then
    failWith ("\x60".toList ++ name ++ "': not a valid identifier".toList) 1
  failWith (name ++ ": bad variable name".toList) 2

/-! ### The standard utilities -/

def markVariables (mark : Variable → Variable) : List Octets → Act Unit
  | [] => return ()
  | argument :: rest => do
      let (name, value) := assignmentOf argument
      unless Octets.isName name do refuseName name
      if let some value := value then assignText name value
      let known := (← variableOf? name).getD .blank
      putVariable name (some (mark known))
      markVariables mark rest

/-- Exports variables, or makes them fixed, as `mark` does; `shown` tells those that are. -/
def declarePlainly (word : String) (mark : Variable → Variable) (shown : Variable → Bool)
    (arguments : List Octets) : Act Nat := do
  let operands := arguments.filter fun argument => argument ≠ "-p".toList && argument ≠ "--".toList
  if operands.isEmpty then putLines (← shownVariables (word ++ " ").toList shown)
  else markVariables mark operands
  return 0

/-- Variables that a function has for itself. -/
def makeLocal : List Octets → Act Nat
  | [] => return 0
  | argument :: rest => do
      match (← process).hidden with
      | [] => failWith "not in a function".toList 2
      | current :: outer =>
          let (name, value) := assignmentOf argument
          if name.head? = some '-' then makeLocal rest
          else
            unless Octets.isName name do refuseName name
            let known ← variableOf? name
            if (current.lookup name).isNone then
              modifyProcess fun process =>
                { process with hidden := ((name, known) :: current) :: outer }
            if let some value := value then assignText name value
            makeLocal rest

/-! ### The utilities with extensions -/

abbrev Lists := List (Octets × Bool × List Assigning.Entry)

/-- What the options of a declaration ask for. -/
structure Manner where
  /-- The letters of what variables are to be. -/
  turnsOn : Octets
  /-- The letters of what they are no longer to be. -/
  turnsOff : Octets
  operands : List Octets

def declaringLetters (utility : String) : Octets :=
  match utility with
  | "export" => "fnp".toList
  | "readonly" => "aAfp".toList
  | _ => "aAfFgiIlnprtux".toList

def declaringUsage (utility : String) : String :=
  match utility with
  | "export" => "export: usage: export [-fn] [name[=value] ...] or export -p"
  | "readonly" => "readonly: usage: readonly [-aAf] [name[=value] ...] or readonly -p"
  | "local" => "local: usage: local [option] name[=value] ..."
  | utility => utility ++ ": usage: " ++ utility ++
      " [-aAfFgiIlnrtux] [name[=value] ...] or " ++ utility ++ " -p [-aAfFilnrtux] [name ...]"

def readManner (utility : String) : (fuel : Nat) → Manner → Act Manner
  | 0, manner => return manner
  | fuel + 1, manner => do
      match manner.operands with
      | ['-', '-'] :: operands => return { manner with operands }
      | (sign :: letter :: letters) :: operands =>
          if sign ≠ '-' && (sign ≠ '+' || utility = "export" || utility = "readonly") then
            return manner
          let letters := letter :: letters
          if let some c := letters.find? fun c => !(declaringLetters utility).contains c then
            complain ([sign, c] ++ ": invalid option".toList)
            report ((declaringUsage utility).toList ++ ['\n'])
            setStatus 2
            throw .fail
          readManner utility fuel
            (if sign = '-' then { manner with turnsOn := manner.turnsOn ++ letters, operands }
              else { manner with turnsOff := manner.turnsOff ++ letters, operands })
      | _ => return manner

/-- A value made into one of another kind; none if it cannot be. -/
def reshaped? (shape : Shape) (entry : Variable) : Option Variable :=
  match shape, entry.value with
  | .single, _ => some entry
  | .row, some (.table _) => none
  | .table, some (.row _) => none
  | .row, some value => some { entry with shape, value := some (.row value.toRow) }
  | .table, some (.single text) =>
      some { entry with shape, value := some (.table [(['0'], text)]) }
  | .table, some value => some { entry with shape, value := some value }
  | shape, none =>
      if entry.shape ≠ .single && entry.shape ≠ shape then none else some { entry with shape }

/-- A variable as letters change it, apart from being fixed. -/
def marked (turnsOn turnsOff : Octets) (entry : Variable) : Variable :=
  let state (letter : Char) (old : Bool) : Bool :=
    (old || turnsOn.contains letter) && !turnsOff.contains letter
  let recasing :=
    if turnsOn.contains 'u' then some true
    else if turnsOn.contains 'l' then some false
    else match entry.recasing with
      | some true => if turnsOff.contains 'u' then none else some true
      | some false => if turnsOff.contains 'l' then none else some false
      | none => none
  { entry with
    exported := state 'x' entry.exported
    isNumber := state 'i' entry.isNumber
    refers := state 'n' entry.refers
    recasing }

/-- Makes a variable the function's own, without a value, unless it already is. -/
def hideOuter (name : Octets) : Act Unit := do
  match (← process).hidden with
  | [] => return ()
  | current :: outer =>
      if (current.lookup name).isNone then
        let known ← variableOf? name
        modifyProcess fun process =>
          { process with hidden := ((name, known) :: current) :: outer }
        let keeps := known.any (·.exported)
        putVariable name (some { Variable.blank with exported := keeps })

/-- The name, and the value and whether it is to be added, that an argument gives. -/
def declaredOf (argument : Octets) : Octets × Option (Bool × Octets) :=
  match assignmentOf argument with
  | (name, some value) =>
      if name.getLast? = some '+' then (name.dropLast, some (true, value))
      else (name, some (false, value))
  | (name, none) => (name, none)

/-- Declares one variable; false if that cannot be done. -/
def declareOne (manner : Manner) (isOwn : Bool) (lists : Lists) (argument : Octets) :
    Act Bool := do
  let (word, value) := declaredOf argument
  let (name, index) := elementOf word
  unless Octets.isName name do
    complain ("\x60".toList ++ argument ++ "': not a valid identifier".toList)
    return false
  let list := lists.lookup argument
  if isOwn then hideOuter name
  let asReference := manner.turnsOn.contains 'n'
  let name ← if asReference || isOwn then pure name else do pure (← target name).1
  let known := (← variableOf? name).getD .blank
  let shape : Shape :=
    if manner.turnsOn.contains 'A' then .table
    else if manner.turnsOn.contains 'a' || index.isSome || list.isSome then
      (if known.shape = .table && !manner.turnsOn.contains 'a' then .table else .row)
    else .single
  let isFixed := known.isFixed
  if isFixed && (value.isSome || list.isSome) then
    complain (name ++ ": readonly variable".toList)
    return false
  match reshaped? shape known with
  | none =>
      let (before, after) := if shape = .table then ("indexed", "associative array")
        else ("associative", "indexed array")
      complain (name ++ (": cannot convert " ++ before ++ " to " ++ after).toList)
      return false
  | some shaped =>
      let entry := marked manner.turnsOn manner.turnsOff shaped
      if asReference then
        let text := (value.map (·.2)).orElse fun _ => entry.value.bind Value.text?
        putVariable name (some { entry with value := text.map .single })
      else
        putVariable name (some entry)
        if let some (adds, entries) := list then Assigning.giveList adds name entries
        if let some (adds, text) := value then
          match index, entry.shape with
          | some index, _ => Assigning.giveElement adds name index text
          | none, .single => Assigning.give adds name text
          | none, _ => Assigning.giveElement adds name ['0'] text
      if manner.turnsOn.contains 'r' then
        if let some entry ← variableOf? name then
          putVariable name (some { entry with isFixed := true })
      return true

def isAskedFor (letters : Octets) (entry : Variable) : Bool :=
  letters.all fun letter => entry.flags.contains letter

def showDeclarations (letters : Octets) (names : List Octets) : Act Nat := do
  if names.isEmpty then
    let found ← sortedVariables (isAskedFor letters)
    putLines (found.map fun (name, entry) => entry.declaration name)
    return 0
  let known ← names.mapM fun name => do
    match ← variableOf? name with
    | some entry =>
        putLines [entry.declaration name]
        return true
    | none =>
        match ← Ambient.value? name with
        | some value =>
            putLines [({ Variable.blank with
              value := some value, shape := value.shape } : Variable).declaration name]
            return true
        | none =>
            complain (name ++ ": not found".toList)
            return false
  return if known.all id then 0 else 1

def showFunctions (names : List Octets) : Act Nat := do
  let functions := (← process).functions
  if names.isEmpty then
    let sorted := (functions.map (·.1)).mergeSort Octets.le
    putLines (sorted.map ("declare -f ".toList ++ ·))
    return 0
  let known := names.filter fun name => (functions.lookup name).isSome
  putLines known
  return if known.length = names.length then 0 else 1

def ownLetters (utility : String) : Octets :=
  match utility with
  | "export" => ['x']
  | "readonly" => ['r']
  | _ => []

def declareFully (utility : String) (lists : Lists) (arguments : List Octets) : Act Nat := do
  if utility = "local" && (← process).calls = 0 then
    failWith "can only be used in a function".toList 1
  let manner ← readManner utility (arguments.length + 1) ⟨[], [], arguments⟩
  let has (letter : Char) : Bool := manner.turnsOn.contains letter
  if utility = "export" then
    if has 'f' then return 0
    let manner : Manner := if has 'n' then { manner with turnsOn := [], turnsOff := ['x'] }
      else { manner with turnsOn := ['x'] }
    if manner.operands.isEmpty then return ← showDeclarations ['x'] []
    let done ← manner.operands.mapM (declareOne manner false lists)
    return if done.all id then 0 else 1
  if has 'F' || (has 'f' && manner.operands.isEmpty) then return ← showFunctions manner.operands
  if has 'f' then
    let functions := (← process).functions
    return if manner.operands.all fun name => (functions.lookup name).isSome then 0 else 1
  let letters := ownLetters utility ++ manner.turnsOn.filter fun c => c ≠ 'p' && c ≠ 'g'
  if has 'p' then return ← showDeclarations letters manner.operands
  if manner.operands.isEmpty then
    if letters.isEmpty && utility ≠ "local" then
      showVariables
      return 0
    if utility = "local" then return 0
    return ← showDeclarations letters []
  let isOwn := utility ≠ "readonly" && !has 'g' && 0 < (← process).calls
  let manner := { manner with turnsOn := letters }
  let operands := manner.operands.filter fun word => utility ≠ "local" || word ≠ ['-']
  let done ← operands.mapM (declareOne manner isOwn lists)
  return if done.all id then 0 else 1

/-! ### Taking away -/

def dropFunction (name : Octets) : Act Unit :=
  modifyProcess fun process =>
    { process with functions := Association.erase process.functions name }

/-- Takes variables or functions away. -/
def unsetAll (functions : Bool) : List Octets → Act Nat
  | [] => return 0
  | name :: rest => do
      if functions then dropFunction name
      else
        unless Octets.isName name do refuseName name
        if (← variableOf? name).any (·.isFixed) then failWith (name ++ ": is read only".toList) 2
        if (← variableOf? name).isSome then putVariable name none
      unsetAll functions rest

/-- Takes an element of a variable away; false if there can be none. -/
def unsetElement (name index : Octets) : Act Bool := do
  let some entry ← variableOf? name | return true
  match entry.value, index with
  | some (.single _), index =>
      if index = ['0'] then
        putVariable name none
        return true
      complain (name ++ ": not an array variable".toList)
      return false
  | some (.row _), ['@'] => putVariable name (some { entry with value := some (.row []) })
  | some (.row _), ['*'] => putVariable name (some { entry with value := some (.row []) })
  | some (.row row), index =>
      match (← Arithmetic.placeOf? Arithmetic.value name index).bind Octets.number? with
      | some place =>
          let row := row.filter (·.1 ≠ place)
          putVariable name (some { entry with value := some (.row row) })
      | none =>
          complain ('[' :: index ++ "]: bad array subscript".toList)
          return false
  | some (.table table), index =>
      let table := Association.erase table index
      putVariable name (some { entry with value := some (.table table) })
  | none, _ => pure ()
  return true

/-- Takes one variable, element or function away, as letters say. -/
def unsetOne (letters : Octets) (word : Octets) : Act Bool := do
  if letters.contains 'f' then
    dropFunction word
    return true
  let (name, index) := elementOf word
  unless Octets.isName name do
    if letters.contains 'v' then
      complain ("\x60".toList ++ word ++ "': not a valid identifier".toList)
    return !letters.contains 'v'
  let (name, own) ← if letters.contains 'n' then pure (name, none) else target name
  match ← variableOf? name with
  | some entry =>
      if entry.isFixed then
        complain (name ++ ": cannot unset: readonly variable".toList)
        return false
      match index.orElse fun _ => own with
      | some index => unsetElement name index
      | none =>
          putVariable name none
          return true
  | none =>
      unless letters.contains 'v' do dropFunction name
      return true

/-- Takes variables away, or functions if an option says so. -/
def unset (arguments : List Octets) : Act Nat := do
  if ← isExtended then
    let options := arguments.takeWhile fun word => word.head? = some '-' && word ≠ ['-', '-']
    let names := arguments.drop options.length
    let names := if names.head? = some ['-', '-'] then names.drop 1 else names
    let letters := options.flatMap (·.drop 1)
    if let some c := letters.find? fun c => !"fvn".toList.contains c then
      complain (['-', c] ++ ": invalid option".toList)
      report "unset: usage: unset [-f] [-v] [-n] [name ...]\n".toList
      return 2
    let done ← names.mapM (unsetOne letters)
    return if done.all id then 0 else 1
  match arguments with
  | ['-', 'f'] :: rest => unsetAll true rest
  | ['-', 'v'] :: rest => unsetAll false rest
  | ['-', '-'] :: rest => unsetAll false rest
  | rest => unsetAll false rest

/-!
## Positional parameters

How a script takes its positional parameters one after the other, and how it
finds options among them.
-/

def requiredNumber (text : Octets) : Act Nat := do
  match Octets.number? text with
  | some n => return n
  | none =>
      if ← isExtended then failWith (text ++ ": numeric argument required".toList) 2
      failWith ("Illegal number: ".toList ++ text) 2

/-- Takes positional parameters away from the front. -/
def shift (arguments : List Octets) : Act Nat := do
  let extended ← isExtended
  let count ← match arguments with
    | [] => pure 1
    | text :: _ => do
        if extended && (Octets.number? text).isNone then
          let isNegative := text.head? = some '-' && (Octets.number? (text.drop 1)).isSome
          let problem := if isNegative then ": shift count out of range"
            else ": numeric argument required"
          failWith (text ++ problem.toList) 1
        requiredNumber text
  let positional := (← process).positional
  if positional.length < count then
    if ← isExtended then return 1
    failWith "can't shift that many".toList 2
  modifyProcess fun process => { process with positional := positional.drop count }
  return 0

/-- Where an option is sought: the arguments and the place among them. -/
structure OptionSearch where
  known : Octets
  index : Nat
  offset : Nat
  words : List Octets

/-- What has been found: the option, its value, and where to go on; none at the end. -/
def nextOption (search : OptionSearch) :
    Option (Char × Option Octets × Nat × Nat × Option (Char × Bool)) :=
  let word := (search.words[search.index - 1]?).getD []
  let rest := if search.offset = 0 then
      match word with
      | '-' :: c :: letters => if word = ['-', '-'] then [] else c :: letters
      | _ => []
    else word.drop search.offset
  match rest with
  | [] => none
  | c :: letters =>
      let offset := (if search.offset = 0 then 1 else search.offset) + 1
      let next := if letters.isEmpty then (search.index + 1, 0) else (search.index, offset)
      let behind := (search.known.dropWhile (· ≠ c)).drop 1
      if c = ':' || !search.known.contains c then
        some ('?', none, next.1, next.2, some (c, false))
      else if behind.head? ≠ some ':' then some (c, none, next.1, next.2, none)
      else if !letters.isEmpty then some (c, some letters, search.index + 1, 0, none)
      else
        match search.words[search.index]? with
        | some value => some (c, some value, search.index + 2, 0, none)
        | none => some ('?', none, search.index + 1, 0, some (c, true))

def getOption (arguments : List Octets) : Act Nat := do
  match arguments with
  | known :: name :: words =>
      let silent := known.head? = some ':'
      let positional := (← process).positional
      let words := if words.isEmpty then positional else words
      let index := ((← textOf? "OPTIND".toList).bind Octets.number?).getD 1
      let isBehind := words.length + 1 < index && !(← isExtended)
      let index := if isBehind then 1 else index
      let lastOffset := (← process).optionOffset
      let offset := if isBehind then 0 else lastOffset
      let search : OptionSearch := ⟨if silent then known.drop 1 else known, index, offset, words⟩
      match nextOption search with
      | none =>
          let ended := words[index - 1]? = some ['-', '-']
          assignText "OPTIND".toList (Octets.ofNat (if ended then index + 1 else index))
          modifyProcess fun process => { process with optionOffset := 0 }
          assignText name ['?']
          return 1
      | some (option, value, index, offset, problem) =>
          assignText "OPTIND".toList (Octets.ofNat index)
          modifyProcess fun process => { process with optionOffset := offset }
          match problem with
          | none =>
              assignText name [option]
              match value with
              | some value => assignText "OPTARG".toList value
              | none => putVariable "OPTARG".toList none
          | some (letter, lacks) =>
              if silent then
                assignText name [if lacks then ':' else '?']
                assignText "OPTARG".toList [letter]
              else
                assignText name ['?']
                putVariable "OPTARG".toList none
                if ← isExtended then
                  let self := (← process).name
                  let text := if lacks then ": option requires an argument -- "
                    else ": illegal option -- "
                  report (self ++ text.toList ++ [letter, '\n'])
                else
                  report ((if lacks then "No arg for -".toList ++ [letter] ++ " option".toList
                    else "Illegal option -".toList ++ [letter]) ++ ['\n'])
          return 0
  | _ =>
      if ← isExtended then
        report "getopts: usage: getopts optstring name [arg ...]\n".toList
        return 2
      failWith "Usage: getopts optstring var [arg...]".toList 2

end BlockExtension.Shell.Utility
