import BlockExtension.Proofs.Independence
import BlockExtension.Proofs.Script.Scope
import BlockExtension.Proofs.TableText

/-!
# Every case can be reached

The host takes the first case whose label is the key it looks for, so a case behind
another one with the same label would never be compiled with, and nobody would be
told. That this cannot happen is said twice. For the tables it is said by looking up:
under the key of an operation stands its own case, and under no other key stands
anything. For the rendered switch it is said by reading: `switchLabels` follows the
pieces of a script and takes up the strings that stand behind the word `case`, outside
of all brackets, and what it finds are the keys of the table, each of them once.

Two extensions are loaded side by side. The kinds of their nodes are written with a
dot, and a dot is no part of an identifier, so a kind tells its extension.

## Main results

* `Script.Lexer.Labels.hidden`: a text that is complete in itself holds no label where
  it stands in brackets.
* `Dispatch.switchLabels_render`: the labels of a rendered table are its keys.
* `Dispatch.KeyStyle.dotted_inj`: a dotted key tells the extension and the opcode.
* `tables_reachable`: in the tables of an accepted palette every case can be reached.
-/

namespace BlockExtension

namespace Script.Lexer

/-! ## Reading labels -/

/-- Where a reader of labels stands in a switch. What is inside the bodies of cases is skipped. -/
inductive LabelPlace where
  /-- Outside of brackets and literals, behind the letters of a word. -/
  | outside (word : List Char)
  /-- Behind the word `case`, where a label stands. -/
  | behindCase
  | label (begun : List Char)
  | inside (depth : Nat)
  deriving DecidableEq, Repr

namespace LabelPlace

/-- A mark outside of brackets. -/
def outer (word : List Char) : Sign → LabelPlace
  | .letter c => .outside (word ++ [c])
  | .blank => if word = ['c', 'a', 's', 'e'] then .behindCase else .outside []
  | .opens _ => .inside 0
  | _ => .outside []

/-- A mark inside brackets. -/
def inner : Nat → Sign → LabelPlace
  | depth, .opens _ => .inside (depth + 1)
  | 0, .closes _ => .outside []
  | depth + 1, .closes _ => .inside depth
  | depth, _ => .inside depth

/-- What one piece does, and the label that it completes. -/
def step (place : LabelPlace) (piece : Piece) : LabelPlace × List (List Char) :=
  match place, piece with
  | .label begun, .content c => (.label (begun ++ [c]), [])
  | .label begun, .closes _ => (.outside [], [begun])
  | .label begun, _ => (.label begun, [])
  | .behindCase, .opens .double => (.label [], [])
  | .behindCase, .opens .single => (.label [], [])
  | .behindCase, piece =>
      (if sign piece = .blank then .behindCase else outer [] (sign piece), [])
  | .outside word, piece => (outer word (sign piece), [])
  | .inside depth, piece => (inner depth (sign piece), [])

end LabelPlace

/-- What pieces do, and the labels that they hold, in order. -/
def readLabels (place : LabelPlace) : List Piece → LabelPlace × List (List Char)
  | [] => (place, [])
  | piece :: pieces =>
      let first := place.step piece
      let rest := readLabels first.1 pieces
      (rest.1, first.2 ++ rest.2)

/-- The labels of the cases in the body of a switch, as the host reads them. -/
def switchLabels (text : String) : Option (List String) :=
  let lexed := run start text.toList
  let reading := readLabels (.outside []) lexed.2
  if lexed.1 = start ∧ reading.1 = .outside [] then some (reading.2.map String.ofList) else none

theorem readLabels_cons (place : LabelPlace) (piece : Piece) (pieces : List Piece) :
    readLabels place (piece :: pieces) =
      ((readLabels (place.step piece).1 pieces).1,
        (place.step piece).2 ++ (readLabels (place.step piece).1 pieces).2) := rfl

/-- Pieces are read part by part. -/
theorem readLabels_append (place : LabelPlace) (front back : List Piece) :
    readLabels place (front ++ back) =
      ((readLabels (readLabels place front).1 back).1,
        (readLabels place front).2 ++ (readLabels (readLabels place front).1 back).2) := by
  induction front generalizing place with
  | nil => rfl
  | cons piece front ih =>
      rw [List.cons_append, readLabels_cons, readLabels_cons, ih, List.append_assoc]

/-- Inside brackets there are no labels of the switch around them. -/
theorem Nested.readLabels_eq {n m : Nat} {pieces : List Piece} (h : Nested n m pieces)
    (depth : Nat) :
    readLabels (.inside (depth + n)) pieces = (.inside (depth + m), []) := by
  induction h with
  | nil => rfl
  | @consFlat n m piece pieces first _ ih =>
      have hStep : LabelPlace.step (.inside (depth + n)) piece = (.inside (depth + n), []) := by
        rw [LabelPlace.step]
        revert first
        cases sign piece with
        | opens bracket => exact nofun
        | closes bracket => exact nofun
        | _ => exact fun _ => by cases depth + n <;> rfl
      rw [readLabels_cons, hStep, ih]
      rfl
  | @consOpens n m piece pieces bracket first _ ih =>
      have hStep : LabelPlace.step (.inside (depth + n)) piece =
          (.inside (depth + (n + 1)), []) := by
        rw [LabelPlace.step, first, ← Nat.add_assoc]
        cases depth + n <;> rfl
      rw [readLabels_cons, hStep, ih]
      rfl
  | @consCloses n m piece pieces bracket first _ ih =>
      have hStep : LabelPlace.step (.inside (depth + (n + 1))) piece =
          (.inside (depth + n), []) := by
        rw [LabelPlace.step, first]
        rfl
      rw [readLabels_cons, hStep, ih]
      rfl

/-- The content of a label is taken up. -/
theorem readLabels_content (text begun : List Char) :
    readLabels (.label begun) (text.map .content) = (.label (begun ++ text), []) := by
  induction text generalizing begun with
  | nil => simp [readLabels]
  | cons c text ih =>
      rw [List.map_cons, readLabels_cons,
        show LabelPlace.step (.label begun) (.content c) = (.label (begun ++ [c]), []) from rfl, ih]
      simp

/--
A text that leads the lexer from code to code, from the brackets `before` to the
brackets `after`, and a reader of labels from `first` to `last`, with its labels.
-/
def Labels (before after : List Bracket) (first last : LabelPlace) (text : String)
    (labels : List String) : Prop :=
  ∃ pieces, run ⟨.code, before⟩ text.toList = (⟨.code, after⟩, pieces) ∧
    readLabels first pieces = (last, labels.map String.toList)

namespace Labels

variable {before middle after opened : List Bracket} {first between last : LabelPlace}
  {text front back : String} {labels more : List String}

theorem append (hFront : Labels before middle first between front labels)
    (hBack : Labels middle after between last back more) :
    Labels before after first last (front ++ back) (labels ++ more) := by
  obtain ⟨p, hP, hLabels⟩ := hFront
  obtain ⟨q, hQ, hMore⟩ := hBack
  refine ⟨p ++ q, ?_, ?_⟩
  · rw [String.toList_append, run_append, hP, hQ]
    rfl
  · rw [readLabels_append, hLabels, hMore, List.map_append]

/-- The labels of a complete text are read off it. -/
theorem switchLabels_eq (h : Labels [] [] (.outside []) (.outside []) text labels) :
    switchLabels text = some labels := by
  obtain ⟨pieces, hRun, hLabels⟩ := h
  rw [switchLabels, show run start text.toList = (start, pieces) from hRun, hLabels]
  simp [Function.comp_def]

theorem nil : Labels opened opened first first "" [] := ⟨[], rfl, rfl⟩

/-- Text that is written down character by character, and holds no label. -/
theorem fixed {text : List Char}
    (h : (run ⟨.code, before⟩ text).1 = ⟨.code, after⟩ ∧
      readLabels first (run ⟨.code, before⟩ text).2 = (last, [])) :
    Labels before after first last (String.ofList text) [] := by
  refine ⟨(run ⟨.code, before⟩ text).2, ?_, h.2⟩
  rw [String.toList_ofList, ← h.1]

/-- A quoted string behind the word `case` is a label. -/
theorem quoted (content : String) :
    Labels opened opened .behindCase (.outside []) (quote content) [content] := by
  refine ⟨_, run_quote content opened, ?_⟩
  rw [quotedPieces, readLabels_cons,
    show LabelPlace.step .behindCase (.opens .double) = (.label [], []) from rfl,
    readLabels_append, readLabels_content]
  rfl

/-- Spaces between words hold no label. -/
theorem blanks (n : Nat) : Labels opened opened (.outside []) (.outside []) (spaces n) [] := by
  induction n with
  | zero => exact nil
  | succ n ih =>
      rw [spaces_succ]
      have hBlank : Labels opened opened (.outside []) (.outside []) " " [] := by
        refine ⟨[.code ' '], ?_, by decide⟩
        exact run_plain (IsPlain.cons (by decide) fun _ h => by cases h) opened
      exact ih.append hBlank

/-- In brackets, a text that is complete in itself has no label of the switch around it. -/
theorem hidden (h : Alike [] [] text text) (opened : List Bracket) (depth : Nat) :
    Labels opened opened (.inside depth) (.inside depth) text [] := by
  obtain ⟨pieces, hNested, hRun⟩ := h.exists_nested
  exact ⟨pieces, hRun opened, hNested.readLabels_eq depth⟩

/-- The labels of texts in a row are those of each text in turn. -/
theorem join {α : Type} {items : List α} {f : α → String} {g : α → List String}
    (h : ∀ item ∈ items, Labels opened opened first first (f item) (g item)) :
    Labels opened opened first first (String.join (items.map f)) (items.flatMap g) := by
  induction items with
  | nil => exact nil
  | cons item items ih =>
      have hRest := ih fun other hMem => h other (List.mem_cons_of_mem _ hMem)
      rw [List.map_cons, String.join_cons, List.flatMap_cons]
      exact (h item (List.mem_cons_self ..)).append hRest

end Labels

end Script.Lexer

namespace Dispatch

open BlockExtension.Script (quote spaces isIdentifier)
open BlockExtension.Script.Lexer

/-! ## The labels of a table -/

/-- A rendered case has its key for a label, and no other. -/
theorem labels_renderCase {case : Case} (h : AlikeCase case case) (indent : Nat) :
    Labels [] [] (.outside []) (.outside []) (Table.renderCase indent case) [case.key] := by
  have hCase : Labels [] [] (.outside []) .behindCase "case " [] := .fixed (by decide)
  have hOpening : Labels [] [.curly] (.outside []) (.inside 0) ": \x7b\n" [] :=
    .fixed (by decide)
  have hClosing : Labels [.curly] [] (.inside 0) (.outside []) "\x7d\n" [] :=
    .fixed (by decide)
  have hLines : Labels [.curly] [.curly] (.inside 0) (.inside 0)
      (String.join (case.body.map (Table.renderLine indent)) ++ spaces indent) [] :=
    .hidden ((alike_renderLines h indent).join.append (alike_spaces indent)) [.curly] 0
  have hWhole := ((((Labels.blanks indent).append hCase).append (.quoted case.key)).append
    hOpening).append (hLines.append hClosing)
  simpa [Table.renderCase, String.append_assoc] using hWhole

/-- The labels of a rendered table are its keys, if its cases are read like code. -/
theorem switchLabels_render {table : Table} (h : ∀ case ∈ table.cases, AlikeCase case case)
    (indent : Nat) : switchLabels (table.render indent) = some (table.cases.map (·.key)) := by
  have hLabels : Labels [] [] (.outside []) (.outside []) (table.render indent)
      (table.cases.flatMap fun case => [case.key]) :=
    .join fun case hMem => labels_renderCase (h case hMem) indent
  rw [hLabels.switchLabels_eq, List.map_eq_flatMap]

/-! ## Keys -/

/-- A dot is no part of an identifier. -/
theorem dot_notMem_of_isIdentifier {name : String} (h : isIdentifier name) :
    '.' ∉ name.toList := by
  intro hMem
  have hPart := isIdentifierPart_of_mem h '.' hMem
  revert hPart
  decide

/-- A dotted key tells the extension and the opcode. -/
theorem KeyStyle.dotted_inj {extensionId other a b : String} (hId : isIdentifier extensionId)
    (hOpcode : isIdentifier a)
    (hSame : KeyStyle.dotted.key extensionId a = KeyStyle.dotted.key other b) :
    extensionId = other ∧ a = b := by
  have hText : extensionId.toList ++ '.' :: a.toList = other.toList ++ '.' :: b.toList := by
    simpa [KeyStyle.key, ← String.toList_inj] using hSame
  have hParts := (List.append_cons_inj_of_notMem (dot_notMem_of_isIdentifier hId)
    (dot_notMem_of_isIdentifier hOpcode)).1 hText
  exact ⟨String.toList_inj.1 hParts.1, String.toList_inj.1 hParts.2.2⟩

/-- What is quoted is read off its quotation, so different texts are quoted differently. -/
theorem quote_injective : Function.Injective quote := by
  intro a b hSame
  have hPieces : quotedPieces a = quotedPieces b := by
    have hFirst := run_quote a []
    rw [hSame, run_quote b []] at hFirst
    exact (congrArg Prod.snd hFirst).symm
  have hContent := List.append_cancel_right (List.cons.inj hPieces).2
  exact String.toList_inj.1 (List.map_injective_iff.2 (fun _ _ => Piece.content.inj) hContent)

/-- A case is found under a key exactly if it is that of an operation with this key. -/
theorem Distinct.find?_eq_some_iff {blocks : List Block} (h : Distinct blocks)
    (extension : Extension) (pass : Pass) {key : String} {case : Case} :
    ((tables extension blocks).ofPass pass).find? key = some case ↔
      ∃ operation ∈ Block.emitting blocks,
        key = pass.keyStyle.key extension.id operation.opcode ∧
        case = caseOf extension pass.keyStyle (pass.body extension) operation := by
  constructor
  · intro hFind
    have hKey : case.key = key := Table.find?_key hFind
    have hMem : case ∈ ((tables extension blocks).ofPass pass).cases :=
      List.mem_of_find?_eq_some hFind
    rw [ofPass_tables] at hMem
    obtain ⟨operation, hOperation, rfl⟩ := List.mem_map.1 hMem
    exact ⟨operation, hOperation, hKey.symm, rfl⟩
  · rintro ⟨operation, hOperation, rfl, rfl⟩
    obtain ⟨hMem, hEmits⟩ := Block.mem_emitting.1 hOperation
    rw [h.find?_key hMem, if_pos ⟨rfl, hEmits⟩]

/-! ## Reachable cases -/

/--
Every case of a table can be reached, and nothing else is found: neither another case by the
same key, nor any case by another one.
-/
structure Reachable (extension : Extension) (declarations : List Declaration)
    (blocks : List Block) (pass : Pass) : Prop where
  /-- No two cases have one key. -/
  keys_nodup : (((tables extension blocks).ofPass pass).cases.map (·.key)).Nodup
  /-- Under the key of an operation that emits code stands its own case, and no other is found. -/
  find?_iff : ∀ key case, ((tables extension blocks).ofPass pass).find? key = some case ↔
    ∃ operation ∈ Block.emitting blocks,
      key = pass.keyStyle.key extension.id operation.opcode ∧
      case = caseOf extension pass.keyStyle (pass.body extension) operation
  /-- Something is found exactly under the keys of the operations declared with code. -/
  isSome_iff : ∀ key, (((tables extension blocks).ofPass pass).find? key).isSome ↔
    ∃ declared code, .operation declared ∈ declarations ∧ declared.code = some code ∧
      code ≠ "" ∧ key = pass.keyStyle.key extension.id declared.opcode
  /-- No two labels are quoted alike. -/
  labels_nodup : (((tables extension blocks).ofPass pass).cases.map (quote ·.key)).Nodup
  /-- The labels of the rendered switch are the keys. -/
  labels_render : ∀ indent,
    switchLabels (((tables extension blocks).ofPass pass).render indent) =
      some (((tables extension blocks).ofPass pass).cases.map (·.key))

/-- The opcodes that emit code are those declared with code that is not empty. -/
theorem mem_emittingOpcodes {declarations : List Declaration} {opcode : String} :
    opcode ∈ emittingOpcodes declarations ↔ ∃ declared code, .operation declared ∈ declarations ∧
      declared.code = some code ∧ code ≠ "" ∧ opcode = declared.opcode := by
  rw [emittingOpcodes, List.mem_filterMap]
  constructor
  · rintro ⟨declaration, hMem, hOpcode⟩
    cases declaration with
    | separator => cases hOpcode
    | label text => cases hOpcode
    | operation declared =>
        cases hCode : declared.code with
        | none => simp [hCode] at hOpcode
        | some code =>
            obtain ⟨hNonempty, rfl⟩ : code ≠ "" ∧ declared.opcode = opcode := by
              simpa [hCode] using hOpcode
            exact ⟨declared, code, hMem, hCode, hNonempty, rfl⟩
  · rintro ⟨declared, code, hMem, hCode, hNonempty, rfl⟩
    exact ⟨_, hMem, by simp [hCode, hNonempty]⟩

section Resolved

variable {extension : Extension} {declarations : List Declaration} {naming : Naming}
  {resolution : Resolution}

/-- The cases of resolved blocks are read like code. -/
private theorem alike_of_mem_cases
    (hWellFormed : ∀ declaration ∈ declarations, declaration.WellFormed)
    (h : resolve naming declarations = .ok resolution) (pass : Pass) :
    ∀ case ∈ ((tables extension resolution.blocks).ofPass pass).cases, AlikeCase case case := by
  have hTables : AlikeTables (tables extension resolution.blocks)
      (tables extension resolution.blocks) :=
    alike_tables rfl (Resolution.forall₂_sameButText_self hWellFormed h)
  have hTable : AlikeTable ((tables extension resolution.blocks).ofPass pass)
      ((tables extension resolution.blocks).ofPass pass) := by
    cases pass with
    | statement => exact hTables.statement
    | expression => exact hTables.expression
    | treeBuild => exact hTables.treeBuild
    | treeInput => exact hTables.treeInput
  exact List.forall₂_same.1 hTable

/-- In each table of resolved blocks every case can be reached. -/
theorem reachable_of_resolve
    (hWellFormed : ∀ declaration ∈ declarations, declaration.WellFormed)
    (h : resolve naming declarations = .ok resolution) (extension : Extension) (pass : Pass) :
    Reachable extension declarations resolution.blocks pass := by
  have hDistinct := Resolution.distinct_of_resolve hWellFormed h
  have hKeys : (((tables extension resolution.blocks).ofPass pass).cases.map (·.key)).Nodup := by
    have hMapped := hDistinct.nodup_emitting.map (pass.keyStyle.key_injective extension.id)
    rw [List.map_map] at hMapped
    rw [ofPass_tables, List.map_map]
    exact hMapped
  refine
    { keys_nodup := hKeys
      find?_iff := fun key case => hDistinct.find?_eq_some_iff extension pass
      isSome_iff := fun key => ?_
      labels_nodup := ?_
      labels_render := switchLabels_render (alike_of_mem_cases hWellFormed h pass) }
  · have hOpcodes := Block.opcodes_emitting hWellFormed (Resolution.forall₂_resolves hWellFormed h)
    have hEmitted : ∀ opcode, (∃ operation ∈ Block.emitting resolution.blocks,
        operation.opcode = opcode) ↔ opcode ∈ emittingOpcodes declarations := by
      intro opcode
      rw [← hOpcodes, List.mem_map]
    rw [Option.isSome_iff_exists]
    constructor
    · rintro ⟨case, hFind⟩
      obtain ⟨operation, hMem, rfl, _⟩ := (hDistinct.find?_eq_some_iff extension pass).1 hFind
      obtain ⟨declared, code, hDeclared, hCode, hNonempty, hOpcode⟩ :=
        mem_emittingOpcodes.1 ((hEmitted _).1 ⟨operation, hMem, rfl⟩)
      exact ⟨declared, code, hDeclared, hCode, hNonempty, by rw [hOpcode]⟩
    · rintro ⟨declared, code, hDeclared, hCode, hNonempty, rfl⟩
      obtain ⟨operation, hMem, hOpcode⟩ := (hEmitted _).2
        (mem_emittingOpcodes.2 ⟨declared, code, hDeclared, hCode, hNonempty, rfl⟩)
      exact ⟨_, (hDistinct.find?_eq_some_iff extension pass).2
        ⟨operation, hMem, by rw [hOpcode], rfl⟩⟩
  · have hQuoted := hKeys.map quote_injective
    rw [List.map_map] at hQuoted
    exact hQuoted

end Resolved

end Dispatch

open Dispatch in
open BlockExtension.Script (isIdentifier) in
/--
In all four tables of an accepted palette every case can be reached, by its key and by
its label, and nothing else is found. No two extensions have a dotted key in common.
-/
theorem tables_reachable {extension : Extension} {index : Nat} {entries : List Json}
    {declarations : List Declaration} {naming : Naming} {resolution : Resolution}
    (hId : isIdentifier extension.id)
    (hRead : Declaration.ofEntries index entries = .ok declarations)
    (hResolve : resolve naming declarations = .ok resolution) :
    (∀ pass, Reachable extension declarations resolution.blocks pass) ∧
      ∀ opcode other otherOpcode, isIdentifier opcode → isIdentifier other →
        isIdentifier otherOpcode →
        KeyStyle.dotted.key extension.id opcode = KeyStyle.dotted.key other otherOpcode →
        extension.id = other ∧ opcode = otherOpcode := by
  have hWellFormed := Declaration.wellFormed_of_ofEntries hRead
  exact ⟨reachable_of_resolve hWellFormed hResolve extension,
    fun _ _ _ hOpcode _ _ hSame => KeyStyle.dotted_inj hId hOpcode hSame⟩

def underscoredExtension : Extension := ⟨"ext_a", "A", none, none⟩

/-- Opcodes with underscores, a dollar and a digit, one of them without code. -/
def underscoredPalette : List Json :=
  [.object [("opcode", .string "a_b"), ("blockType", .string "COMMAND"), ("text", .string "go"),
      ("code", .string "go()")],
    .object [("opcode", .string "b"), ("blockType", .string "COMMAND"), ("text", .string "rest")],
    .object [("opcode", .string "$1_"), ("blockType", .string "REPORTER"),
      ("text", .string "where"), ("code", .string "here()")]]

def underscoredDeclarations : List Declaration :=
  [.operation ⟨"a_b", .command, "go", some "go()", none, false, none, []⟩,
    .operation ⟨"b", .command, "rest", none, none, false, none, []⟩,
    .operation ⟨"$1_", .reporter, "where", some "here()", none, false, none, []⟩]

open Dispatch in
open BlockExtension.Script (isIdentifier) in
open BlockExtension.Script.Lexer (switchLabels) in
/-- Underscores on both sides of a key make it the key of no other operation. -/
theorem tables_reachable_underscored :
    isIdentifier underscoredExtension.id ∧
      Declaration.ofEntries 0 underscoredPalette = .ok underscoredDeclarations ∧
      ∃ resolution, resolve .ordinal underscoredDeclarations = .ok resolution ∧
        (∀ pass,
          Reachable underscoredExtension underscoredDeclarations resolution.blocks pass) ∧
        switchLabels ((tables underscoredExtension resolution.blocks).treeBuild.render 4) =
          some ["ext_a_a_b", "ext_a_$1_"] ∧
        KeyStyle.dotted.key underscoredExtension.id "b" ≠ KeyStyle.dotted.key "ext" "a_b" := by
  have hId : isIdentifier underscoredExtension.id := by decide
  have hRead : Declaration.ofEntries 0 underscoredPalette = .ok underscoredDeclarations := by rfl
  have hResolve : resolve .ordinal underscoredDeclarations = .ok
      ⟨[.operation ⟨"a_b", .command, "go", some ⟨[.literal "go()"]⟩, none, false, .expression, []⟩,
          .operation ⟨"b", .command, "rest", none, none, false, .expression, []⟩,
          .operation ⟨"$1_", .reporter, "where", some ⟨[.literal "here()"]⟩, none, false,
            .expression, []⟩], []⟩ := by cbv
  obtain ⟨hReachable, hDotted⟩ := tables_reachable hId hRead hResolve
  refine ⟨hId, hRead, _, hResolve, hReachable, (hReachable .treeBuild).labels_render 4, ?_⟩
  intro hSame
  have hIds := (hDotted _ _ _ (by decide) (by decide) (by decide) hSame).1
  revert hIds
  decide

end BlockExtension
