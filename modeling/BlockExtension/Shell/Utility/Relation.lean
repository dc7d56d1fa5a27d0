import BlockExtension.Shell.Utility.Sorting

/-!
# Two inputs in order

The programs that compare two inputs whose lines are in order: one tells which
lines they have in common, the other puts lines together that agree in a field.
Both notice when an input turns out not to be in order.
-/

namespace BlockExtension.Shell.Utility.Relation

open Act Ranking

/-! ## What is said along the way -/

/-- A line of output or a complaint, in the order in which they come up. -/
inductive Saying where
  | text (octets : Octets)
  | complaint (octets : Octets)
  deriving DecidableEq, Repr

def Saying.isComplaint : Saying → Bool
  | .text _ => false
  | .complaint _ => true

/-- Writes output, and complains in the name of a program. -/
def say (self : Octets) : List Saying → Act Unit
  | [] => return
  | .text octets :: rest => do
      put octets
      say self rest
  | .complaint octets :: rest => do
      complainAs self octets
      say self rest

/-- When it matters that lines are in order. -/
inductive Checking where
  | never
  /-- Once a line has come up that has no partner. -/
  | unpaired
  /-- From the first line on; disorder ends the program. -/
  | always
  deriving DecidableEq, Repr

/-- The checking that options ask for; the last one counts. -/
def Checking.of (given : Invocation) : Checking :=
  let words := given.options.filterMap fun option =>
    match option.word with
    | "check-order" => some Checking.always
    | "nocheck-order" => some .never
    | _ => none
  words.getLast?.getD .unpaired

/-- Writes what came up, and complains at the end if something was out of order. -/
def conclude (self : Octets) (checking : Checking) (sayings : List Saying) : Act Nat := do
  say self sayings
  if !sayings.any Saying.isComplaint then return 0
  if checking ≠ .always then complainAs self "input is not in sorted order".toList
  return 1

/-! ## Common lines -/

namespace Common

/-- An input: the lines from the current one on, those before it, and whether it is faulty. -/
structure Supply where
  rest : List Octets
  before : List Octets
  isFaulty : Bool

/-- Two lines of an input that follow each other are out of order. -/
def Supply.check (supply : Supply) (counts : Bool) (earlier later : Option Octets) :
    Bool × Supply :=
  match earlier, later with
  | some a, some b =>
      let isWrong := counts && !supply.isFaulty && comparedTexts a b = .gt
      (isWrong, { supply with isFaulty := supply.isFaulty || isWrong })
  | _, _ => (false, supply)

/-- Goes on to the next line; tells whether something is out of order. -/
def Supply.next (supply : Supply) (counts : Bool) : Bool × Supply :=
  match supply.rest with
  | [] => (false, supply)
  | line :: rest =>
      let moved := { supply with rest, before := line :: supply.before }
      match rest with
      | [] => moved.check counts supply.before.head? (some line)
      | next :: _ => moved.check counts (some line) (some next)

/-- What is said of two inputs; a line is shown by the number of its column and its text. -/
def sayings (checking : Checking) (shown : Nat → Octets → Option Octets) :
    (fuel : Nat) → (unpaired : Bool) → Supply → Supply → List Saying
  | 0, _, _, _ => []
  | fuel + 1, unpaired, left, right =>
      let order? : Option Ordering :=
        match left.rest, right.rest with
        | [], [] => none
        | [], _ => some .gt
        | _, [] => some .lt
        | a :: _, b :: _ => some (comparedTexts a b)
      match order? with
      | none => []
      | some order =>
          let unpaired := unpaired || order ≠ .eq
          let counts := match checking with
            | .never => false
            | .unpaired => unpaired
            | .always => true
          let (column, line) := match order with
            | .eq => (2, right.rest.headD [])
            | .lt => (0, left.rest.headD [])
            | .gt => (1, right.rest.headD [])
          let (leftFault, left) := if order = .gt then (false, left) else left.next counts
          let (rightFault, right) := if order = .lt then (false, right) else right.next counts
          let complaint (isWrong : Bool) (n : Nat) : List Saying :=
            if isWrong then [.complaint (s!"file {n} is not in sorted order").toList] else []
          let complaints := complaint leftFault 1 ++ complaint rightFault 2
          let texts := ((shown column line).map Saying.text).toList
          if checking = .always && !complaints.isEmpty then texts ++ complaints.take 1
          else texts ++ complaints ++ sayings checking shown fuel unpaired left right

/-- How many lines are only in the first input, only in the second, and in both. -/
def totals : (fuel : Nat) → List Octets → List Octets → Nat × Nat × Nat
  | 0, _, _ => (0, 0, 0)
  | _, [], right => (0, right.length, 0)
  | _, left, [] => (left.length, 0, 0)
  | fuel + 1, a :: left, b :: right =>
      match comparedTexts a b with
      | .eq => let (x, y, z) := totals fuel left right
          (x, y, z + 1)
      | .lt => let (x, y, z) := totals fuel left (b :: right)
          (x + 1, y, z)
      | .gt => let (x, y, z) := totals fuel (a :: left) right
          (x, y + 1, z)

/-- The options. -/
def rules : List OptionRule :=
  [switch "-1" '1', switch "-2" '2', switch "-3" '3', ⟨"check-order", none, .nothing⟩,
    ⟨"nocheck-order", none, .nothing⟩, ⟨"output-delimiter", none, .value⟩,
    ⟨"total", none, .nothing⟩, switch "zero-terminated" 'z']

def comm : Program := fun self arguments =>
  withOptions self rules true 1 arguments fun given => do
    let delimiters := given.values "output-delimiter"
    if 1 < delimiters.eraseDups.length then
      complainAs self "multiple output delimiters specified".toList
      return 1
    match given.operands with
    | [] => lackOperand self "operand" none
    | [first] => lackOperand self "operand" (some first)
    | _ :: _ :: extra :: _ => refuseExtra self extra
    | [first, second] =>
        let (inputs, all) ← Sorting.readUntilFailure self plainVoice [first, second]
        if !all then return 1
        let linesAt (n : Nat) : List Octets :=
          linesEndedBy (lineEnd given) (inputs[n]?.getD [])
        let left := linesAt 0
        let right := linesAt 1
        let hides (column : Nat) : Bool := given.has s!"-{column + 1}"
        let tab := match delimiters.head? with
          | none => ['\t']
          | some [] => ['\x00']
          | some text => text
        let shown (column : Nat) (line : Octets) : Option Octets :=
          if hides column then none
          else
            let before := (List.range column).filter (!hides ·)
            some ((before.flatMap fun _ => tab) ++ line ++ [lineEnd given])
        let checking := Checking.of given
        let fuel := left.length + right.length + 1
        let found := sayings checking shown fuel false ⟨left, [], false⟩ ⟨right, [], false⟩
        let (x, y, z) := totals fuel left right
        let total := Octets.joined tab [Octets.ofNat x, Octets.ofNat y, Octets.ofNat z,
          "total".toList] ++ [lineEnd given]
        let isCut := checking = .always && found.any Saying.isComplaint
        conclude self checking
          (found ++ if given.has "total" && !isCut then [.text total] else [])

end Common

/-! ## Joined lines -/

namespace Pairing

/-- What stands between the fields of a line. -/
inductive Separator where
  | blanks
  | character (c : Char)
  | nothing
  deriving DecidableEq, Repr

def blankFields : (fuel : Nat) → Octets → List Octets
  | 0, _ => []
  | fuel + 1, text =>
      let field := text.take 1 ++ (text.drop 1).takeWhile (!Octets.isBlank ·)
      match text.drop field.length with
      | [] => [field]
      | _ :: rest =>
          match rest.dropWhile Octets.isBlank with
          | [] => [field, []]
          | rest => field :: blankFields fuel rest

def fieldsOf (separator : Separator) (line : Octets) : List Octets :=
  match separator with
  | .blanks =>
      match line.dropWhile Octets.isBlank with
      | [] => []
      | text => blankFields (text.length + 1) text
  | .character c => if line.isEmpty then [] else Octets.cutAt c line
  | .nothing => if line.isEmpty then [] else [line]

/-- A line with its number and its fields. -/
structure Line where
  number : Nat
  text : Octets
  fields : List Octets

/-- A field that is written: of one of the inputs, or the one that lines agree in. -/
inductive Source where
  | shared
  | first (field : Nat)
  | second (field : Nat)
  deriving DecidableEq, Repr

/-- How lines are joined. -/
structure Plan where
  separator : Separator
  names : List Octets
  /-- The places of the fields that lines of the inputs agree in. -/
  keys : Nat × Nat
  folds : Bool
  /-- Lines without a partner are written. -/
  unpaired : Bool × Bool
  paired : Bool
  /-- What is written in the place of a field that is missing. -/
  filler : Octets
  fields : Option (List Source)
  /-- All lines are written with as many fields as the first ones of their inputs have. -/
  isUniform : Bool
  checking : Checking
  heads : Bool
  lineEnd : Char

/-- The field of a line that counts. -/
def Plan.key (plan : Plan) (isFirst : Bool) (line : Line) : Octets :=
  let field := line.fields[if isFirst then plan.keys.1 else plan.keys.2]?.getD []
  if plan.folds then field.map Char.toLower else field

/-- What stands between fields that are written. -/
def Plan.delimiter (plan : Plan) : Char :=
  match plan.separator with
  | .blanks => ' '
  | .character c => c
  | .nothing => '\n'

/-- A field as it is written. -/
def Plan.shown (plan : Plan) (line : Option Line) (field : Nat) : Octets :=
  match line.bind (·.fields[field]?) with
  | none => plan.filler
  | some [] => plan.filler
  | some text => text

/-- The line that two lines make, one of which may be missing. -/
def Plan.pair (plan : Plan) (counts : Nat × Nat) (first second : Option Line) : Saying :=
  let shared := if first.isSome then plan.shown first plan.keys.1
    else plan.shown second plan.keys.2
  let others (line : Option Line) (count key : Nat) : List Octets :=
    let count := if plan.isUniform then count
      else (line.map (·.fields.length)).getD 0
    ((List.range count).filter (· ≠ key)).map (plan.shown line)
  let fields := match plan.fields with
    | some sources => sources.map fun
        | .shared => shared
        | .first field => plan.shown first field
        | .second field => plan.shown second field
    | none => shared :: others first counts.1 plan.keys.1 ++ others second counts.2 plan.keys.2
  .text (Octets.joined [plan.delimiter] fields ++ [plan.lineEnd])

/-- An input: the lines that are to be read, and the last one that has been. -/
structure Supply where
  rest : List Line
  before : Option Line
  isFaulty : Bool

/-- Where joining is. -/
structure State where
  first : Supply
  second : Supply
  /-- A line has come up that has no partner. -/
  unpaired : Bool
  said : List Saying

/-- A step of joining; it may come to an end early. -/
abbrev Step := ExceptT Unit (StateM State)

def tell (saying : Saying) : Step Unit :=
  modify fun state => { state with said := saying :: state.said }

def next? (plan : Plan) (isFirst : Bool) : Step (Option Line) := do
  let state ← get
  let supply := if isFirst then state.first else state.second
  match supply.rest with
  | [] => return none
  | line :: rest =>
      let counts := match plan.checking with
        | .never => false
        | .unpaired => state.unpaired
        | .always => true
      let isWrong := counts && !supply.isFaulty && supply.before.any fun before =>
        comparedTexts (plan.key isFirst before) (plan.key isFirst line) = .gt
      let supply := ⟨rest, some line, supply.isFaulty || isWrong⟩
      set (if isFirst then { state with first := supply } else { state with second := supply })
      if isWrong then
        let name := plan.names[if isFirst then 0 else 1]?.getD []
        tell (.complaint (name ++ ':' :: Octets.ofNat line.number ++
          ": is not sorted: ".toList ++ line.text))
        if plan.checking = .always then throw ()
      return some line

/-- Reads lines as long as they agree with one; the first that does not comes second. -/
def matching (plan : Plan) (isFirst : Bool) (key : Octets) :
    (fuel : Nat) → Step (List Line × Option Line)
  | 0 => return ([], none)
  | fuel + 1 => do
      match ← next? plan isFirst with
      | none => return ([], none)
      | some line =>
          if plan.key isFirst line = key then
            let (more, other) ← matching plan isFirst key fuel
            return (line :: more, other)
          return ([], some line)

/-- Joins lines until one of the inputs ends; hands back what is left of the other. -/
def joinPairs (plan : Plan) (counts : Nat × Nat) :
    (fuel : Nat) → Option Line → Option Line → Step (Option Line × Option Line)
  | 0, first, second => return (first, second)
  | fuel + 1, some a, some b => do
      let key := plan.key true a
      match comparedTexts key (plan.key false b) with
      | .lt => do
          if plan.unpaired.1 then tell (plan.pair counts (some a) none)
          let a ← next? plan true
          modify fun state => { state with unpaired := true }
          joinPairs plan counts fuel a (some b)
      | .gt => do
          if plan.unpaired.2 then tell (plan.pair counts none (some b))
          let b ← next? plan false
          modify fun state => { state with unpaired := true }
          joinPairs plan counts fuel (some a) b
      | .eq => do
          let (lefts, left) ← matching plan true key (fuel + 1)
          let (rights, right) ← matching plan false key (fuel + 1)
          if plan.paired then
            (a :: lefts).forM fun a => (b :: rights).forM fun b =>
              tell (plan.pair counts (some a) (some b))
          joinPairs plan counts fuel left right
  | _, first, second => return (first, second)

/-- Goes through the lines that are left of an input. -/
def joinRest (plan : Plan) (counts : Nat × Nat) (isFirst isShown : Bool) :
    (fuel : Nat) → Option Line → Step Unit
  | 0, _ => return
  | _, none => return
  | fuel + 1, some line => do
      if isShown then
        tell (if isFirst then plan.pair counts (some line) none
          else plan.pair counts none (some line))
      joinRest plan counts isFirst isShown fuel (← next? plan isFirst)

def joinAll (plan : Plan) (fuel : Nat) : Step Unit := do
  let first ← next? plan true
  let second ← next? plan false
  let size (line : Option Line) : Nat := (line.map (·.fields.length)).getD 0
  let counts := (size first, size second)
  let (first, second) ←
    if plan.heads && (first.isSome || second.isSome) then do
      tell (plan.pair counts first second)
      modify fun state => { state with
        first := { state.first with before := none }
        second := { state.second with before := none } }
      let next (isFirst : Bool) (line : Option Line) : Step (Option Line) :=
        if line.isSome then next? plan isFirst else return none
      pure (← next true first, ← next false second)
    else pure (first, second)
  let (first, second) ← joinPairs plan counts fuel first second
  let state ← get
  let checksRest := plan.checking ≠ .never && !(state.first.isFaulty && state.second.isFaulty)
  if first.isSome && second.isSome then
    modify fun state => { state with unpaired := true }
  if plan.unpaired.1 || checksRest then
    joinRest plan counts true plan.unpaired.1 fuel first
  if plan.unpaired.2 || checksRest then
    joinRest plan counts false plan.unpaired.2 fuel second

/-- What is said of two inputs. -/
def sayings (plan : Plan) (first second : Octets) : List Saying :=
  let lines (text : Octets) : List Line :=
    (linesEndedBy plan.lineEnd text).mapIdx fun n text =>
      ⟨n + 1, text, fieldsOf plan.separator text⟩
  let left := lines first
  let right := lines second
  let start : State := ⟨⟨left, none, false⟩, ⟨right, none, false⟩, false, []⟩
  (StateT.run (ExceptT.run (joinAll plan (left.length + right.length + 2))) start).2.said.reverse

/-! ## Options -/

/-- The options. -/
def rules : List OptionRule :=
  [setting "-a" 'a', setting "-e" 'e', switch "ignore-case" 'i', setting "-1" '1',
    setting "-2" '2', setting "-j" 'j', setting "-o" 'o', setting "-t" 't', setting "-v" 'v',
    switch "zero-terminated" 'z', ⟨"header", none, .nothing⟩, ⟨"check-order", none, .nothing⟩,
    ⟨"nocheck-order", none, .nothing⟩]

def placeOf (text : Octets) : Except Octets Nat :=
  match Octets.number? text with
  | some (n + 1) => .ok n
  | _ => .error ("invalid field number: ".toList ++ quoted text)

/-- The field that a text names. -/
def sourceOf (text : Octets) : Except Octets Source := do
  let bad := "invalid field specifier: ".toList ++ quoted text
  match text with
  | ['0'] => return .shared
  | '0' :: _ => throw bad
  | '1' :: '.' :: rest => return .first (← placeOf rest)
  | '2' :: '.' :: rest => return .second (← placeOf rest)
  | '1' :: _ => throw bad
  | '2' :: _ => throw bad
  | text => throw ("invalid file number in field spec: ".toList ++ quoted text)

/-- The fields that a list names. -/
def sourcesOf (text : Octets) : Except Octets (List Source) :=
  let unified := text.map fun c => if Octets.isBlank c then ',' else c
  (Octets.cutAt ',' unified).mapM sourceOf

def separatorOf (values : List Octets) : Except Octets Separator := do
  let separators ← values.mapM fun text =>
    match text with
    | [] => .ok Separator.nothing
    | [c] => .ok (.character c)
    | ['\\', '0'] => .ok (.character '\x00')
    | text => .error ("multi-character tab ".toList ++ quoted text)
  if 1 < separators.eraseDups.length then throw "incompatible tabs".toList
  return separators.head?.getD .blanks

/-- The place of the field of an input that options ask for. -/
def keyOf (given : Invocation) (isFirst : Bool) : Except Octets Nat := do
  let word := if isFirst then "-1" else "-2"
  let texts := given.options.filterMap fun option =>
    if option.word = word || option.word = "-j" then option.value else none
  let places ← texts.mapM placeOf
  match places with
  | [] => return 0
  | place :: rest =>
      match rest.find? (· ≠ place) with
      | some other => throw (s!"incompatible join fields {place}, {other}").toList
      | none => return place

/-- What options ask for. -/
def planOf (given : Invocation) : Except Octets Plan := do
  let unpaired (word n : String) : Bool := (given.values word).contains n.toList
  match (given.values "-a" ++ given.values "-v").find? fun place =>
      !(["1".toList, "2".toList].contains place) with
  | some text => throw ("invalid field number: ".toList ++ quoted text)
  | none => pure ()
  let fillers := given.values "-e"
  if 1 < fillers.eraseDups.length then
    throw "conflicting empty-field replacement strings".toList
  let first ← keyOf given true
  let second ← keyOf given false
  let lists := given.values "-o"
  let sources ← (lists.filter (· ≠ "auto".toList)).mapM sourcesOf
  let separator ← separatorOf (given.values "-t")
  return {
    separator
    names := given.operands
    keys := (first, second)
    folds := given.has "ignore-case"
    unpaired := (unpaired "-a" "1" || unpaired "-v" "1", unpaired "-a" "2" || unpaired "-v" "2")
    paired := !given.has "-v"
    filler := fillers.head?.getD []
    fields := if sources.isEmpty then none else some sources.flatten
    isUniform := lists.contains "auto".toList
    checking := Checking.of given
    heads := given.has "header"
    lineEnd := lineEnd given }

def withLists : List Octets → List Octets
  | [] => []
  | option :: list :: rest =>
      if option ≠ "-o".toList then option :: withLists (list :: rest)
      else
        let isField (text : Octets) : Bool := (sourcesOf text).toOption.isSome
        let more := rest.takeWhile isField
        option :: Octets.joined [','] (list :: more) :: rest.dropWhile isField
  | [word] => [word]

def join : Program := fun self arguments =>
  withOptions self rules true 1 (withLists arguments) fun given => do
    match planOf given with
    | .error problem =>
        complainAs self problem
        return 1
    | .ok plan =>
        match given.operands with
        | [] => lackOperand self "operand" none
        | [first] => lackOperand self "operand" (some (arguments.getLast?.getD first))
        | _ :: _ :: extra :: _ => refuseExtra self extra
        | [first, second] =>
            if first = ['-'] && second = ['-'] then
              complainAs self "both files cannot be standard input".toList
              return 1
            let (inputs, all) ← Sorting.readUntilFailure self plainVoice [first, second]
            if !all then return 1
            conclude self plan.checking
              (sayings plan (inputs[0]?.getD []) (inputs[1]?.getD []))

end Pairing

end BlockExtension.Shell.Utility.Relation
