import BlockExtension.Shell.Expansion

/-!
# Assignments

What a command does to variables before it runs. Assignments before a command
that is no special utility last only as long as the command; what a variable was
before is kept in a frame, which a function also uses for the variables that it
has for itself.
-/

namespace BlockExtension.Shell

/-- Variables with those of a frame put back as they were. -/
def Variables.restored (frame : List (Octets × Option Variable)) (bindings : Variables) :
    Variables :=
  frame.foldl (fun bindings (name, old) =>
    match old with
    | some old => Association.put bindings name old
    | none => Association.erase bindings name) bindings

def Process.withoutFrame (process : Process) : Process :=
  match process.hidden with
  | [] => process
  | frame :: outer =>
      let isMoved := frame.any fun (name, _) => name = Act.pathName
      { process with
        hidden := outer
        whereabouts := if isMoved then [] else process.whereabouts
        bindings := Variables.restored frame process.bindings }

namespace Assigning

open Act

def inFrame {α : Type} (act : Act α) : Act α := do
  modifyProcess fun process => { process with hidden := [] :: process.hidden }
  let result ← attempt act
  modifyProcess Process.withoutFrame
  match result with
  | .ok value => return value
  | .error jump => throw jump

def keep (name : Octets) : Act Unit := do
  let known ← variableOf? name
  modifyProcess fun process =>
    match process.hidden with
    | [] => process
    | frame :: outer =>
        if (frame.lookup name).isSome then process
        else { process with hidden := ((name, known) :: frame) :: outer }

def markExported (name : Octets) : Act Unit := do
  if let some entry ← variableOf? name then
    putVariable name (some { entry with exported := true })

def nameOf : Assignment → Octets
  | .single name .. => name
  | .element name .. => name
  | .list name .. => name

/-! ## Texts -/

def fixedNames : List String := ["BASHOPTS", "BASH_VERSINFO", "EUID", "SHELLOPTS", "UID"]

def tellingNames : List String := ["BASHPID", "DIRSTACK", "FUNCNAME", "GROUPS"]

/-- A text or, if numbers are wanted, the value of it as an expression. -/
def counted (isNumber : Bool) (text : Octets) : Act Octets := do
  if isNumber then return Arithmetic.digits (← Arithmetic.value text) else return text

/-- What is to be had in place of an old text: a new one, or both together. -/
def joined (isNumber adds : Bool) (old : Option Octets) (text : Octets) : Act Octets := do
  let text ← counted isNumber text
  if !adds then return text
  let old := old.getD []
  if isNumber then
    return Arithmetic.digits ((← Arithmetic.value old) + (← Arithmetic.value text))
  return old ++ text

def giveElement (adds : Bool) (name index text : Octets) : Act Unit := do
  let (name, _) ← target name
  let isNumber := (← variableOf? name).any (·.isNumber)
  if index.isEmpty then
    discardWith (name ++ "[]: bad array subscript".toList) 1
  match ← Arithmetic.placeOf? Arithmetic.value name index with
  | none => Arithmetic.storeAt Arithmetic.value name index text
  | some place =>
      let old := (← value? name).bind fun value => Arithmetic.elementOf? value place
      Arithmetic.storeAt Arithmetic.value name place (← joined isNumber adds old text)

/-- Gives a variable a text, or adds the text to it, in the way that it was declared for. -/
def give (adds : Bool) (name text : Octets) : Act Unit := do
  if ← isExtended then
    let plain := String.ofList name
    if fixedNames.contains plain then refuseFixed name
    if tellingNames.contains plain then return ()
    if plain = "RANDOM" then
      let seed := ((Octets.number? text).getD 0) % 4294967296
      modifyProcess fun process => { process with seed }
      return ()
  match ← variableOf? name with
  | some ⟨none, exported, isFixed, shape, isNumber, recasing, true⟩ =>
      putVariable name
        (some ⟨some (.single text), exported, isFixed, shape, isNumber, recasing, true⟩)
  | _ =>
      let (base, index) ← target name
      match index with
      | some index => giveElement adds base index text
      | none =>
          let known ← variableOf? base
          let old := (known.bind (·.value)).bind Value.text?
          assignText base (← joined (known.any (·.isNumber)) adds old text)

def giveWord (word text : Octets) : Act Unit := do
  match elementOf word with
  | (name, some index) => giveElement false name index text
  | (name, none) => give false name text

/-! ## Lists -/

/-- An item of a list whose words have been expanded. -/
inductive Entry where
  | plain (text : Octets)
  | placed (index : Octets) (adds : Bool) (text : Octets)
  deriving DecidableEq, Repr

/-- Expands the words of the items of a list. -/
def entriesOf (output : Expansion.Output) : List Item → Act (List Entry)
  | [] => return []
  | .plain value :: rest => do
      let texts ← Expansion.arguments output value
      return texts.map .plain ++ (← entriesOf output rest)
  | .placed subscript adds value :: rest => do
      let index ← Expansion.text output subscript
      let text ← Expansion.assigned output value
      return .placed index adds text :: (← entriesOf output rest)

/-- A row with items written from a number on. -/
def rowWith (name : Octets) (isNumber : Bool) : (next : Nat) → Row → List Entry → Act Row
  | _, row, [] => return row
  | next, row, .plain text :: rest => do
      rowWith name isNumber (next + 1) (row.numbered next (← counted isNumber text)) rest
  | _, row, .placed index adds text :: rest => do
      let n := (← Arithmetic.value index).toInt
      let place := if n < 0 then (row.next : Int) + n else n
      if place < 0 then
        discardWith ('[' :: index ++ "]=".toList ++ text ++ ": bad array subscript".toList) 1
      let place := place.toNat
      let text ← joined isNumber adds (row.lookup place) text
      rowWith name isNumber (place + 1) (row.numbered place text) rest

/-- A table with items written; keys and texts may take turns. -/
def tableWith (name : Octets) (isNumber : Bool) : (fuel : Nat) → (inTurns : Bool) → Table →
    List Entry → Act Table
  | 0, _, table, _ => return table
  | _, _, table, [] => return table
  | fuel + 1, _, table, .placed index adds text :: rest => do
      let text ← joined isNumber adds (table.lookup index) text
      tableWith name isNumber fuel false (table.keyed index text) rest
  | fuel + 1, true, table, .plain key :: .plain text :: rest => do
      tableWith name isNumber fuel true (table.keyed key (← counted isNumber text)) rest
  | fuel + 1, true, table, .plain key :: rest =>
      tableWith name isNumber fuel true (table.keyed key []) rest
  | fuel + 1, false, table, .plain text :: rest => do
      complain (name ++ ": ".toList ++ text ++
        ": must use subscript when assigning associative array".toList)
      tableWith name isNumber fuel false table rest

def giveList (adds : Bool) (name : Octets) (entries : List Entry) : Act Unit := do
  let (name, _) ← target name
  let known ← variableOf? name
  let isNumber := known.any (·.isNumber)
  if known.any (·.isFixed) then refuseFixed name
  let old := (known.bind (·.value)).filter fun _ => adds
  match (known.map (·.shape)).getD .single with
  | .table =>
      let table := match old with
        | some (.table entries) => entries
        | _ => []
      let table ← tableWith name isNumber (entries.length + 1) true table entries
      Act.assign name (.table table)
  | _ =>
      let row := (old.map Value.toRow).getD []
      Act.assign name (.row (← rowWith name isNumber row.next row entries))

def Entry.shown : Entry → Octets
  | .plain text => text
  | .placed index adds text =>
      '[' :: index ++ (if adds then "]+=" else "]=").toList ++ text

/-! ## Assignments -/

/-- Does what an assignment says; answers with the text of it, as traces show it. -/
def assign (output : Expansion.Output) : Assignment → Act Octets
  | .single name adds value => do
      let text ← Expansion.assigned output value
      give adds name text
      let sign : Octets := if adds then ['+', '='] else ['=']
      return name ++ sign ++ text
  | .element name subscript adds value => do
      let index ← Expansion.text output subscript
      let text ← Expansion.assigned output value
      giveElement adds name index text
      return name ++ '[' :: index ++ (if adds then "]+=" else "]=").toList ++ text
  | .list name adds items => do
      let entries ← entriesOf output items
      giveList adds name entries
      let sign := if adds then "+=(" else "=("
      return name ++ sign.toList ++ Octets.joined [' '] (entries.map Entry.shown) ++ [')']

/--
Does what an assignment says, for as long as the innermost frame lasts. What an
expansion changes is not taken back.
-/
def assignLocally (output : Expansion.Output) (assignment : Assignment) : Act Octets := do
  let assignment ← match assignment with
    | .single name adds value =>
        do pure (.single name adds [.quoted (← Expansion.assigned output value)])
    | other => pure other
  keep (nameOf assignment)
  let shown ← assign output assignment
  markExported (nameOf assignment)
  return shown

end Assigning

end BlockExtension.Shell
