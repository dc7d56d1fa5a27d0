import BlockExtension.Proofs.Dispatch
import BlockExtension.Proofs.Script.Reading

/-!
# What a tree case says

A tree case returns an object literal: the node that a block becomes. The node
carries the block itself, its kind as a string, and one entry for each argument,
filled from the input of the block with the name that the entry says. This file
reads emitted tree cases back in this way. An entry is listed as it is written,
and the names are listed in the order of the entries. Which properties the node then
has by the rules of the script is a question of its own; see `ownNames_nodeBody`.

## Main results

* `readEntry_pieces`: the line of an argument is read as an entry of its name,
  filled from the input of that name.
* `readNode_nodeBody`: a tree case is read as the node of its operation.
-/

namespace BlockExtension.Dispatch

open BlockExtension.Script (isIdentifier quote)
open BlockExtension.Script.Lexer

/-! ## Reading a case -/

/-- An entry as it is written: its name, and the name of the input that it is filled from. -/
structure NodeEntry where
  name : String
  source : String
  deriving DecidableEq, Repr

/-- What the literal of a node says, apart from the block itself. -/
structure Node where
  kind : String
  entries : List NodeEntry
  deriving DecidableEq, Repr

def kindLabel : String := "  kind: "

/-- The text between the name of an entry and the name of the input that it is filled from. -/
def inputCall : String := ": this.descendInputOfBlock(block, "

/-- The kind that a line says. -/
def readKind (line : List Piece) : Option String := do
  let rest ← skip kindLabel.toList line
  let kind ← takeString rest
  let rest ← skip [','] kind.2
  if rest = [.code '\n'] then some (String.ofList kind.1) else none

/-- The entry that a line says. -/
def readEntry (line : List Piece) : Option NodeEntry := do
  let rest ← skip [' ', ' '] line
  let name := takeName rest
  let rest ← skip inputCall.toList name.2
  let source ← takeString rest
  let rest ← skip [')', ','] source.2
  if rest = [.code '\n'] then some ⟨String.ofList name.1, String.ofList source.1⟩ else none

def endLine : List Piece := ['\x7d', ';', '\n'].map .code

/-- The entries that lines say, up to the end of the literal. -/
def readEntries : List (List Piece) → Option (List NodeEntry)
  | [] => none
  | line :: lines =>
      if line = endLine then (if lines = [] then some [] else none)
      else do
        let entry ← readEntry line
        let more ← readEntries lines
        some (entry :: more)

/-- The lines that begin a node: the return and the block itself. -/
def beginLines : List (List Piece) :=
  ["return \x7b\n".toList.map .code, "  block,\n".toList.map .code]

/--
The node that the lines of a case return: its kind and its entries, behind the entry for the
block itself. Lines of any other form return none.
-/
def readNode (body : List String) : Option Node := do
  let lines ← readLines body
  match lines.drop 2 with
  | line :: rest =>
      if lines.take 2 = beginLines then
        let kind ← readKind line
        let entries ← readEntries rest
        some ⟨kind, entries⟩
      else none
  | [] => none

/-! ## The lines of a node -/

private def inside : State := ⟨.code, [.curly]⟩

/-- A line with one string in it. -/
private theorem run_quoteLine {front back : String} {opened : List Bracket}
    (hFront : nest [.curly] front.toList = some opened) (text : String)
    (hBack : nest opened (back.toList ++ ['\n']) = some [.curly]) :
    run inside ((front ++ quote text ++ back).toList ++ ['\n']) =
      (inside, front.toList.map .code ++
        (quotedPieces text ++ (back.toList ++ ['\n']).map .code)) := by
  have hText : (front ++ quote text ++ back).toList ++ ['\n'] =
      front.toList ++ ((quote text).toList ++ (back.toList ++ ['\n'])) := by
    simp only [String.toList_append, List.append_assoc]
  rw [hText, inside, run_append, run_nest hFront, run_append, run_quote, run_nest hBack]
  rfl

/-- The pieces of the line that says the kind of a node. -/
private def kindPieces (kind : String) : List Piece :=
  kindLabel.toList.map .code ++ (quotedPieces kind ++ [','].map .code ++ [.code '\n'])

private theorem run_kindLine (kind : String) :
    run inside (("  kind: " ++ quote kind ++ ",").toList ++ ['\n']) =
      (inside, kindPieces kind) := by
  have hFront : nest [.curly] kindLabel.toList = some [.curly] := nest_fixed (by decide)
  have hBack : nest [.curly] (",".toList ++ ['\n']) = some [.curly] := by
    rw [String.toList_ofList]
    rfl
  have hRun := run_quoteLine hFront kind hBack
  rw [show "  kind: " = kindLabel from rfl, hRun, kindPieces, List.append_assoc]
  rfl

/-- The line of a kind is read as that kind. -/
private theorem readKind_pieces (kind : String) : readKind (kindPieces kind) = some kind := by
  simp only [readKind, kindPieces, List.append_assoc, skip_code, Option.bind_eq_bind,
    Option.bind_some, takeString_quoted, if_true, String.ofList_toList]

private def entryPieces (name : String) : List Piece :=
  [' ', ' '].map .code ++ (name.toList.map .code ++ (inputCall.toList.map .code ++
    (quotedPieces name ++ ([')', ','].map .code ++ [.code '\n']))))

private def entryText (name : String) : String :=
  "  " ++ name ++ ": this.descendInputOfBlock(block, " ++ quote name ++ "),"

private theorem run_entryLine {name : String} (h : isIdentifier name) :
    run inside ((entryText name).toList ++ ['\n']) = (inside, entryPieces name) := by
  have hBlank : nest [.curly] "  ".toList = some [.curly] := nest_fixed (by decide)
  have hCall : nest [.curly] inputCall.toList = some [.round, .curly] := nest_fixed (by decide)
  have hFront : nest [.curly] ("  " ++ name ++ inputCall).toList = some [.round, .curly] := by
    rw [String.toList_append, String.toList_append, List.append_assoc, nest_append hBlank,
      nest_append (nest_plain (isPlain_of_isIdentifier h) _), hCall]
  have hBack : nest [.round, .curly] ("),".toList ++ ['\n']) = some [.curly] := by
    rw [String.toList_ofList]
    rfl
  have hRun := run_quoteLine hFront name hBack
  rw [show entryText name = "  " ++ name ++ inputCall ++ quote name ++ ")," from rfl, hRun,
    entryPieces, String.toList_append, String.toList_append, List.map_append, List.map_append,
    List.append_assoc,
    List.append_assoc]
  rfl

/-- The line of an argument is read as an entry of its name, filled from the input of that name. -/
theorem readEntry_pieces {name : String} (h : isIdentifier name) :
    readEntry (entryPieces name) = some ⟨name, name⟩ := by
  have hCall : EndsName inputCall.toList := by
    delta inputCall
    rw [String.toList_ofList]
    decide
  have hName := takeName_code (isIdentifierPart_of_mem h) hCall
  simp only [readEntry, entryPieces, skip_code, Option.bind_eq_bind, Option.bind_some, hName,
    takeString_quoted, if_true, String.ofList_toList]

private theorem entryPieces_ne_endLine (name : String) : entryPieces name ≠ endLine := by
  intro hSame
  injection hSame with hHead _
  cases hHead

/-- The lines of arguments are read one by one. -/
private theorem readEntries_lines {names : List String} (h : ∀ name ∈ names, isIdentifier name) :
    readEntries (names.map entryPieces ++ [endLine]) =
      some (names.map fun name => ⟨name, name⟩) := by
  induction names with
  | nil => simp [readEntries]
  | cons name names ih =>
      have hRest := ih fun found hMem => h found (List.mem_cons_of_mem _ hMem)
      rw [List.map_cons, List.cons_append, readEntries, if_neg (entryPieces_ne_endLine name),
        readEntry_pieces (h name (List.mem_cons_self ..)), hRest]
      rfl

private theorem runLines_entries {names : List String} (h : ∀ name ∈ names, isIdentifier name)
    (lines : List String) :
    runLines inside (names.map entryText ++ lines) =
      ((runLines inside lines).1, names.map entryPieces ++ (runLines inside lines).2) := by
  induction names with
  | nil => rfl
  | cons name names ih =>
      have hRest := ih fun found hMem => h found (List.mem_cons_of_mem _ hMem)
      rw [List.map_cons, List.cons_append,
        runLines_cons (run_entryLine (h name (List.mem_cons_self ..))), hRest]
      rfl

/-! ## Whole cases -/

/-- The node of an operation: one entry for each argument, filled from the input of its name. -/
def nodeOf (extension : Extension) (kinds : KeyStyle) (operation : Operation) : Node :=
  { kind := kinds.key extension.id operation.opcode
    entries := operation.arguments.map fun argument => ⟨argument.name, argument.name⟩ }

/-- A tree case is read as the node of its operation. -/
theorem readNode_nodeBody {operation : Operation}
    (h : ∀ argument ∈ operation.arguments, isIdentifier argument.name) (extension : Extension)
    (kinds : KeyStyle) :
    readNode (nodeBody extension kinds operation) = some (nodeOf extension kinds operation) := by
  have hNames : ∀ name ∈ operation.arguments.map (·.name), isIdentifier name := by
    intro name hMem
    obtain ⟨argument, hArgument, rfl⟩ := List.mem_map.1 hMem
    exact h argument hArgument
  have hReturn : run start ("return \x7b".toList ++ ['\n']) =
      (inside, "return \x7b\n".toList.map .code) := by
    repeat rw [String.toList_ofList]
    rfl
  have hBlock : run inside ("  block,".toList ++ ['\n']) =
      (inside, "  block,\n".toList.map .code) := by
    repeat rw [String.toList_ofList]
    rfl
  have hEnd : runLines inside ["\x7d;"] = (start, [endLine]) := by
    unfold runLines
    rw [String.toList_ofList]
    rfl
  have hKind := run_kindLine (kinds.key extension.id operation.opcode)
  have hBody : nodeBody extension kinds operation =
      "return \x7b" :: "  block," ::
        ("  kind: " ++ quote (kinds.key extension.id operation.opcode) ++ ",") ::
          ((operation.arguments.map (·.name)).map entryText ++ ["\x7d;"]) := by
    rw [nodeBody, List.map_map]
    rfl
  have hLines : runLines start (nodeBody extension kinds operation) =
      (start, beginLines ++ kindPieces (kinds.key extension.id operation.opcode) ::
        ((operation.arguments.map (·.name)).map entryPieces ++ [endLine])) := by
    rw [hBody, runLines, hReturn, runLines_cons hBlock, runLines_cons hKind,
      runLines_entries hNames, hEnd]
    rfl
  have hRead : readLines (nodeBody extension kinds operation) =
      some (beginLines ++ kindPieces (kinds.key extension.id operation.opcode) ::
        ((operation.arguments.map (·.name)).map entryPieces ++ [endLine])) := by
    rw [readLines, hLines, if_pos rfl]
  have hEntries := readEntries_lines hNames
  rw [List.map_map] at hEntries
  rw [readNode, hRead, Option.bind_eq_bind, Option.bind_some]
  simp only [show ∀ rest, (beginLines ++ rest).drop 2 = rest from fun _ => rfl,
    show ∀ rest, (beginLines ++ rest).take 2 = beginLines from fun _ => rfl, if_true,
    readKind_pieces, List.map_map, hEntries, Option.bind_eq_bind, Option.bind_some]
  rfl

end BlockExtension.Dispatch
