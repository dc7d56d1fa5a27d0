import BlockExtension.Generation
import BlockExtension.Proofs.Acceptance
import BlockExtension.Proofs.Decimal.Numeral
import BlockExtension.Proofs.Script.Literals

/-!
# Indentation is layout

A literal is laid out on many lines, and where it stands deeper, every line of it but the
first stands deeper. That is all that the depth does: the text at a depth is the text at
depth zero with so many spaces behind every line feed (`indented`).

It holds because the only line feeds of a literal are those between its entries. A string,
a key and an embedded document have none, whatever characters they hold, so the spaces
never get into one of them. A reference is written as it is, and is the only part of a
literal that could bring a line feed of its own.

## Main results

* `indented_append`, `indented_eq_self`: indenting goes part by part, and leaves a text
  without line feeds alone.
* `lineFeed_notMem_quote`, `lineFeed_notMem_compact`: strings and documents are written
  on one line.
* `Literal.render_add`: a literal that stands deeper is the literal, indented.
* `Literal.holds_render`: strings, keys and documents stand in the text of their literal.
* `Descriptor.references_ofBlocks`: what a descriptor refers to of the host.
* `render_isLayout`: the depth of a literal is layout, for the descriptor in a module too.
-/

namespace BlockExtension

namespace Script

/-! ## Indenting a text -/

/-- The text with `n` spaces behind every line feed. -/
def indented (n : Nat) (text : String) : String :=
  String.ofList (text.toList.flatMap fun c => if c = '\n' then c :: List.replicate n ' ' else [c])

section Indented

variable {n : Nat} {front back text : String}

theorem indented_append : indented n (front ++ back) = indented n front ++ indented n back := by
  rw [indented, String.toList_append, List.flatMap_append, String.ofList_append]
  rfl

/-- A text without line feeds is left alone. -/
theorem indented_eq_self (h : '\n' ∉ text.toList) : indented n text = text := by
  have hChars : ∀ chars : List Char, '\n' ∉ chars →
      chars.flatMap (fun c => if c = '\n' then c :: List.replicate n ' ' else [c]) = chars := by
    intro chars hNone
    induction chars with
    | nil => rfl
    | cons c chars ih =>
        rw [List.mem_cons, not_or] at hNone
        rw [List.flatMap_cons, if_neg (Ne.symm hNone.1), ih hNone.2]
        rfl
  rw [indented, hChars _ h, String.ofList_toList]

private theorem toList_spaces (n : Nat) : (spaces n).toList = List.replicate n ' ' := by
  rw [spaces, String.pushn_eq_repeat_push]
  induction n with
  | zero => rfl
  | succ n ih => rw [Nat.repeat, String.toList_push, ih, List.replicate_succ']

theorem spaces_add (m n : Nat) : spaces (m + n) = spaces m ++ spaces n := by
  rw [← String.toList_inj, String.toList_append, toList_spaces, toList_spaces, toList_spaces,
    List.replicate_append_replicate]

private theorem indented_spaces (m : Nat) : indented n (spaces m) = spaces m := by
  refine indented_eq_self fun hMem => ?_
  rw [toList_spaces] at hMem
  exact absurd (List.eq_of_mem_replicate hMem) (by decide)

private theorem indented_feed : indented n "\n" = "\n" ++ spaces n := by
  rw [← String.toList_inj, String.toList_append, toList_spaces]
  simp [indented]

private theorem indented_comma : indented n ",\n" = ",\n" ++ spaces n := by
  rw [← String.toList_inj, String.toList_append, toList_spaces]
  simp [indented]

end Indented

/-! ## What is written on one line -/

private theorem lineFeed_notMem_escapeChar (c : Char) : '\n' ∉ Json.escapeChar c := by
  have hDigit : ∀ n < 16, Json.hexDigit n ≠ '\n' := by decide
  unfold Json.escapeChar
  split
  · decide
  · decide
  · decide
  · decide
  · decide
  · next hFeed _ _ =>
      split
      · decide
      · split
        · decide
        · split
          · have hHigh := hDigit (c.toNat / 16) (by omega)
            have hLow := hDigit (c.toNat % 16) (by omega)
            simp [hHigh.symm, hLow.symm]
          · simpa using fun hc => hFeed hc.symm

/-- A string is written on one line. -/
theorem lineFeed_notMem_quote (text : String) : '\n' ∉ (quote text).toList := by
  intro hMem
  rw [quote, Json.quote, String.toList_ofList, List.cons_append, List.mem_cons,
    List.mem_append, List.mem_singleton] at hMem
  rcases hMem with hMem | hMem | hMem
  · exact absurd hMem (by decide)
  · obtain ⟨c, -, hChar⟩ := List.mem_flatMap.1 hMem
    exact lineFeed_notMem_escapeChar c hChar
  · exact absurd hMem (by decide)

/-- A key is written on one line, bare or quoted. -/
theorem lineFeed_notMem_writeKey (key : String) : '\n' ∉ (writeKey key).toList := by
  unfold writeKey
  split
  · next hName =>
      intro hMem
      exact absurd (Lexer.isIdentifierPart_of_mem hName '\n' hMem) (by decide)
  · exact lineFeed_notMem_quote key

private theorem lineFeed_notMem_number (number : Json.Number) : '\n' ∉ number.write.toList := by
  intro hMem
  rw [← Json.Numeral.ofNumber_text] at hMem
  rcases Json.Numeral.mem_text (Json.Numeral.ofNumber_wellFormed number) hMem with hDigit | hSign
  · exact absurd hDigit (by decide)
  · exact absurd hSign (by decide)

/-- Parts on one line each, with commas between them, stand on one line. -/
private theorem lineFeed_notMem_intercalate {parts : List String}
    (h : ∀ part ∈ parts, '\n' ∉ part.toList) : '\n' ∉ (",".intercalate parts).toList := by
  rw [String.toList_intercalate]
  induction parts with
  | nil => simp
  | cons part parts ih =>
      have hRest := ih fun other hMem => h other (List.mem_cons_of_mem _ hMem)
      have hFirst := h part (List.mem_cons_self ..)
      cases parts with
      | nil => simpa using hFirst
      | cons next others =>
          rw [List.map_cons, List.map_cons, List.intercalate_cons_cons, ← List.map_cons]
          simp only [List.mem_append, not_or]
          exact ⟨⟨hFirst, by decide⟩, hRest⟩

mutual

/-- A document is written on one line. -/
theorem lineFeed_notMem_compact : (value : Json) → '\n' ∉ value.compact.toList
  | .null => by decide
  | .bool true => by decide
  | .bool false => by decide
  | .number value => lineFeed_notMem_number value
  | .string value => lineFeed_notMem_quote value
  | .array items => by
      have hItems := lineFeed_notMem_intercalate (lineFeed_notMem_compactItems items)
      simpa [Json.compact] using hItems
  | .object fields => by
      have hFields := lineFeed_notMem_intercalate (lineFeed_notMem_compactFields fields)
      simpa [Json.compact] using hFields

theorem lineFeed_notMem_compactItems : (items : List Json) →
    ∀ part ∈ Json.compactItems items, '\n' ∉ part.toList
  | [], _, hMem => nomatch hMem
  | item :: rest, part, hMem => by
      rcases List.mem_cons.1 hMem with rfl | hMem
      · exact lineFeed_notMem_compact item
      · exact lineFeed_notMem_compactItems rest part hMem

theorem lineFeed_notMem_compactFields : (fields : List (String × Json)) →
    ∀ part ∈ Json.compactFields fields, '\n' ∉ part.toList
  | [], _, hMem => nomatch hMem
  | (key, value) :: rest, part, hMem => by
      rcases List.mem_cons.1 hMem with rfl | hMem
      · have hKey := lineFeed_notMem_quote key
        have hValue := lineFeed_notMem_compact value
        rw [quote] at hKey
        simp [hKey, hValue]
      · exact lineFeed_notMem_compactFields rest part hMem

end

/-! ## Literals -/

/--
Behind the line feed that opens a container, its entries are indented line by line. The
spaces that belong to the last line feed stand in front of what follows.
-/
private theorem indented_entryLines (n indent : Nat) (entries : List String) (tail : String) :
    spaces n ++ (indented n (String.join (entries.map (entryLine indent))) ++ tail) =
      String.join ((entries.map (indented n)).map (entryLine (n + indent))) ++
        (spaces n ++ tail) := by
  induction entries with
  | nil =>
      simp only [List.map_nil, String.join_nil, String.empty_append]
      rw [indented_eq_self (by decide), String.empty_append]
  | cons entry entries ih =>
      have hLine : indented n (entryLine indent entry) =
          spaces indent ++ indented n entry ++ ",\n" ++ spaces n := by
        simp only [entryLine, indented_append, indented_spaces, indented_comma,
          String.append_assoc]
      have hDeeper : entryLine (n + indent) (indented n entry) =
          spaces n ++ spaces indent ++ indented n entry ++ ",\n" := by
        rw [entryLine, spaces_add]
      simp only [List.map_cons, String.join_cons]
      rw [indented_append, hLine, hDeeper]
      simp only [String.append_assoc, ih]

/-- A container that stands deeper is the container, indented. -/
private theorem enclose_add {opening closing : String} (hOpening : '\n' ∉ opening.toList)
    (hClosing : '\n' ∉ closing.toList) (n indent : Nat) (entries : List String) :
    enclose opening closing (n + indent) (entries.map (indented n)) =
      indented n (enclose opening closing indent entries) := by
  cases hEmpty : entries.isEmpty with
  | true =>
      rw [enclose, enclose, List.isEmpty_map, hEmpty, if_pos rfl, if_pos rfl, indented_append,
        indented_eq_self hOpening, indented_eq_self hClosing]
  | false =>
      have hText := indented_entryLines n (indent + 2) entries
      rw [enclose, enclose, List.isEmpty_map, hEmpty, if_neg (by decide), if_neg (by decide)]
      simp only [indented_append, indented_eq_self hOpening, indented_eq_self hClosing,
        indented_feed, indented_spaces, spaces_add n indent, Nat.add_assoc n indent 2,
        String.append_assoc, hText]

def Holds (text part : String) : Prop := ∃ front back, text = front ++ part ++ back

namespace Holds

variable {text part : String}

theorem self (text : String) : Holds text text := ⟨"", "", by simp⟩

theorem append_left (h : Holds text part) (front : String) : Holds (front ++ text) part := by
  obtain ⟨before, behind, rfl⟩ := h
  exact ⟨front ++ before, behind, by simp only [String.append_assoc]⟩

theorem append_right (h : Holds text part) (back : String) : Holds (text ++ back) part := by
  obtain ⟨before, behind, rfl⟩ := h
  exact ⟨before, behind ++ back, by simp only [String.append_assoc]⟩

theorem join {texts : List String} (hMem : text ∈ texts) (h : Holds text part) :
    Holds (String.join texts) part := by
  induction texts with
  | nil => cases hMem
  | cons first rest ih =>
      rw [String.join_cons]
      rcases List.mem_cons.1 hMem with rfl | hMem
      · exact h.append_right _
      · exact (ih hMem).append_left _

/-- What an entry holds stands in the container. -/
theorem enclose {opening closing entry : String} {entries : List String} (indent : Nat)
    (hMem : entry ∈ entries) (h : Holds entry part) :
    Holds (Script.enclose opening closing indent entries) part := by
  have hLine : Holds (entryLine (indent + 2) entry) part := (h.append_left _).append_right _
  have hLines := join (List.mem_map_of_mem hMem) hLine
  rw [Script.enclose, if_neg (by simpa using List.ne_nil_of_mem hMem)]
  exact ((hLines.append_left _).append_right _).append_right _

end Holds

namespace Literal

mutual

/-- The paths of the references in a literal. -/
def references : Literal → List String
  | .reference path => [path]
  | .record fields => fieldReferences fields
  | .sequence items => itemReferences items
  | .text _ => []
  | .flag _ => []
  | .json _ => []

def fieldReferences : List (String × Literal) → List String
  | [] => []
  | (_, value) :: rest => references value ++ fieldReferences rest

def itemReferences : List Literal → List String
  | [] => []
  | item :: rest => references item ++ itemReferences rest

end

def OneLineReferences (literal : Literal) : Prop :=
  ∀ path ∈ literal.references, '\n' ∉ path.toList

mutual

/-- A literal that stands deeper is the literal, indented. -/
theorem render_add : (literal : Literal) → literal.OneLineReferences → (n indent : Nat) →
    literal.render (n + indent) = indented n (literal.render indent)
  | .text value, _, n, _ => (indented_eq_self (lineFeed_notMem_quote value)).symm
  | .flag true, _, n, _ => (indented_eq_self (show '\n' ∉ "true".toList by decide)).symm
  | .flag false, _, n, _ => (indented_eq_self (show '\n' ∉ "false".toList by decide)).symm
  | .json value, _, n, _ => (indented_eq_self (lineFeed_notMem_compact value)).symm
  | .reference path, h, n, _ => (indented_eq_self (h path (List.mem_singleton_self path))).symm
  | .record fields, h, n, indent => by
      rw [render, render, Nat.add_assoc, renderFields_add fields h n (indent + 2)]
      exact enclose_add (by decide) (by decide) n indent _
  | .sequence items, h, n, indent => by
      rw [render, render, Nat.add_assoc, renderItems_add items h n (indent + 2)]
      exact enclose_add (by decide) (by decide) n indent _

theorem renderFields_add : (fields : List (String × Literal)) →
    (∀ path ∈ fieldReferences fields, '\n' ∉ path.toList) → (n indent : Nat) →
    renderFields (n + indent) fields = (renderFields indent fields).map (indented n)
  | [], _, _, _ => rfl
  | (key, value) :: rest, h, n, indent => by
      have hValue := render_add value (fun path hMem => h path (List.mem_append_left _ hMem))
        n indent
      have hRest := renderFields_add rest (fun path hMem => h path (List.mem_append_right _ hMem))
        n indent
      have hKey : indented n (writeKey key ++ ": ") = writeKey key ++ ": " :=
        indented_eq_self (by simpa using lineFeed_notMem_writeKey key)
      rw [renderFields, renderFields, List.map_cons, indented_append, hKey, hValue, hRest]

theorem renderItems_add : (items : List Literal) →
    (∀ path ∈ itemReferences items, '\n' ∉ path.toList) → (n indent : Nat) →
    renderItems (n + indent) items = (renderItems indent items).map (indented n)
  | [], _, _, _ => rfl
  | item :: rest, h, n, indent => by
      have hItem := render_add item (fun path hMem => h path (List.mem_append_left _ hMem)) n indent
      have hRest := renderItems_add rest (fun path hMem => h path (List.mem_append_right _ hMem))
        n indent
      rw [renderItems, renderItems, List.map_cons, hItem, hRest]

end

mutual

/--
The strings, keys and documents of a literal, as they are written. They are what indentation
must not reach into.
-/
def inscriptions : Literal → List String
  | .text value => [quote value]
  | .json value => [value.compact]
  | .record fields => fieldInscriptions fields
  | .sequence items => itemInscriptions items
  | .flag _ => []
  | .reference _ => []

/-- The keys of some fields, each with what is written in its value. -/
def fieldInscriptions : List (String × Literal) → List String
  | [] => []
  | (key, value) :: rest => writeKey key :: inscriptions value ++ fieldInscriptions rest

def itemInscriptions : List Literal → List String
  | [] => []
  | item :: rest => inscriptions item ++ itemInscriptions rest

end

mutual

/-- Strings, keys and documents stand on one line. -/
theorem lineFeed_notMem_inscriptions : (literal : Literal) →
    ∀ part ∈ literal.inscriptions, '\n' ∉ part.toList
  | .text value, part, hMem => by
      rw [List.mem_singleton.1 hMem]
      exact lineFeed_notMem_quote value
  | .json value, part, hMem => by
      rw [List.mem_singleton.1 hMem]
      exact lineFeed_notMem_compact value
  | .record fields, part, hMem => lineFeed_notMem_fieldInscriptions fields part hMem
  | .sequence items, part, hMem => lineFeed_notMem_itemInscriptions items part hMem
  | .flag _, _, hMem => nomatch hMem
  | .reference _, _, hMem => nomatch hMem

theorem lineFeed_notMem_fieldInscriptions : (fields : List (String × Literal)) →
    ∀ part ∈ fieldInscriptions fields, '\n' ∉ part.toList
  | [], _, hMem => nomatch hMem
  | (key, value) :: rest, part, hMem => by
      rcases List.mem_append.1 hMem with hMem | hMem
      · rcases List.mem_cons.1 hMem with rfl | hMem
        · exact lineFeed_notMem_writeKey key
        · exact lineFeed_notMem_inscriptions value part hMem
      · exact lineFeed_notMem_fieldInscriptions rest part hMem

theorem lineFeed_notMem_itemInscriptions : (items : List Literal) →
    ∀ part ∈ itemInscriptions items, '\n' ∉ part.toList
  | [], _, hMem => nomatch hMem
  | item :: rest, part, hMem => by
      rcases List.mem_append.1 hMem with hMem | hMem
      · exact lineFeed_notMem_inscriptions item part hMem
      · exact lineFeed_notMem_itemInscriptions rest part hMem

end

mutual

/-- The strings, keys and documents of a literal stand in its text. -/
theorem holds_render : (literal : Literal) → (indent : Nat) →
    ∀ part ∈ literal.inscriptions, Holds (literal.render indent) part
  | .text value, indent, part, hMem => by
      rw [List.mem_singleton.1 hMem]
      exact .self _
  | .json value, indent, part, hMem => by
      rw [List.mem_singleton.1 hMem]
      exact .self _
  | .record fields, indent, part, hMem => by
      obtain ⟨entry, hEntry, hPart⟩ := exists_holds_renderFields fields (indent + 2) part hMem
      exact .enclose indent hEntry hPart
  | .sequence items, indent, part, hMem => by
      obtain ⟨entry, hEntry, hPart⟩ := exists_holds_renderItems items (indent + 2) part hMem
      exact .enclose indent hEntry hPart
  | .flag _, _, _, hMem => nomatch hMem
  | .reference _, _, _, hMem => nomatch hMem

theorem exists_holds_renderFields : (fields : List (String × Literal)) → (indent : Nat) →
    ∀ part ∈ fieldInscriptions fields, ∃ entry ∈ renderFields indent fields, Holds entry part
  | [], _, _, hMem => nomatch hMem
  | (key, value) :: rest, indent, part, hMem => by
      rcases List.mem_append.1 hMem with hMem | hMem
      · refine ⟨_, List.mem_cons_self .., ?_⟩
        rcases List.mem_cons.1 hMem with rfl | hMem
        · exact ((Holds.self _).append_right _).append_right _
        · exact (holds_render value indent part hMem).append_left _
      · obtain ⟨entry, hEntry, hPart⟩ := exists_holds_renderFields rest indent part hMem
        exact ⟨entry, List.mem_cons_of_mem _ hEntry, hPart⟩

theorem exists_holds_renderItems : (items : List Literal) → (indent : Nat) →
    ∀ part ∈ itemInscriptions items, ∃ entry ∈ renderItems indent items, Holds entry part
  | [], _, _, hMem => nomatch hMem
  | item :: rest, indent, part, hMem => by
      rcases List.mem_append.1 hMem with hMem | hMem
      · exact ⟨_, List.mem_cons_self .., holds_render item indent part hMem⟩
      · obtain ⟨entry, hEntry, hPart⟩ := exists_holds_renderItems rest indent part hMem
        exact ⟨entry, List.mem_cons_of_mem _ hEntry, hPart⟩

end

/-- How deep a literal stands says how it is laid out, and nothing else. -/
structure LaidOut (literal : Literal) : Prop where
  /-- The text at a depth is the text at depth zero, indented. -/
  render_eq : ∀ n, literal.render n = indented n (literal.render 0)
  /-- Strings, keys and documents stand in the text. -/
  holds : ∀ part ∈ literal.inscriptions, Holds (literal.render 0) part
  /-- Wherever one of them stands, the text around it is indented and it is not. -/
  kept : ∀ n, ∀ part ∈ literal.inscriptions, ∀ front back : String,
    literal.render 0 = front ++ part ++ back →
      literal.render n = indented n front ++ part ++ indented n back

/-- A literal is laid out if its references have no line feeds. -/
theorem laidOut_of_oneLineReferences {literal : Literal} (h : literal.OneLineReferences) :
    literal.LaidOut := by
  have hRender : ∀ n, literal.render n = indented n (literal.render 0) := by
    intro n
    rw [← literal.render_add h n 0, Nat.add_zero]
  refine ⟨hRender, fun part hPart => literal.holds_render 0 part hPart, ?_⟩
  intro n part hPart front back hText
  have hLine : '\n' ∉ part.toList := literal.lineFeed_notMem_inscriptions part hPart
  rw [hRender, hText, indented_append, indented_append, indented_eq_self hLine]

theorem fieldReferences_append (fields others : List (String × Literal)) :
    fieldReferences (fields ++ others) = fieldReferences fields ++ fieldReferences others := by
  induction fields with
  | nil => rfl
  | cons field rest ih =>
      rw [List.cons_append, fieldReferences, fieldReferences, ih, List.append_assoc]

theorem itemReferences_eq (items : List Literal) :
    itemReferences items = items.flatMap references := by
  induction items with
  | nil => rfl
  | cons item rest ih => rw [itemReferences, ih, List.flatMap_cons]

end Literal

end Script

open BlockExtension.Script (Literal indented indented_append indented_eq_self)

/-! ## Descriptors -/

namespace Descriptor

open BlockExtension.Script.Literal (references fieldReferences itemReferences
  fieldReferences_append itemReferences_eq)

/-- The host paths in the entry of a block. -/
def pathsOf : Block → List String
  | .separator => []
  | .label _ => [BlockShape.labelReference]
  | .operation operation =>
      operation.shape.reference :: operation.arguments.map fun argument => argument.kind.reference

private theorem fieldReferences_optionalField (name : String) (value : Option Literal) :
    fieldReferences (optionalField name value) = value.elim [] references := by
  cases value with
  | none => rfl
  | some found => exact List.append_nil _

private theorem references_ofArgument (argument : Argument) :
    (ofArgument argument).references = [argument.kind.reference] := by
  rw [ofArgument, references, fieldReferences_append, fieldReferences_optionalField]
  cases argument.defaultValue <;> rfl

private theorem references_ofArguments (arguments : List Argument) :
    (ofArguments arguments).elim [] references =
      arguments.map fun argument => argument.kind.reference := by
  have hFields : fieldReferences (arguments.map fun argument =>
      (argument.name, ofArgument argument)) =
      arguments.map fun argument => argument.kind.reference := by
    induction arguments with
    | nil => rfl
    | cons argument rest ih =>
        rw [List.map_cons, fieldReferences, references_ofArgument, ih, List.map_cons]
        rfl
  cases arguments with
  | nil => rfl
  | cons argument rest => exact hFields

private theorem references_ofOperation (operation : Operation) :
    (ofOperation operation).references = pathsOf (.operation operation) := by
  have hCode : (operation.code.map fun code => Literal.text code.interpolated).elim []
      references = [] := by
    cases operation.code <;> rfl
  have hReturns : (operation.returns.map fun kind => Literal.text kind.tag).elim []
      references = [] := by
    cases operation.returns <;> rfl
  have hAllow : (if operation.allowDropAnywhere then some (Literal.flag true) else none).elim []
      references = [] := by
    cases operation.allowDropAnywhere <;> rfl
  rw [ofOperation, references]
  simp only [fieldReferences_append, fieldReferences_optionalField, hCode, hReturns, hAllow,
    references_ofArguments]
  simp [pathsOf, fieldReferences, references]

/-- A descriptor refers to the host for the kinds of its blocks and arguments, in their order. -/
theorem references_ofBlocks (extension : Extension) (blocks : List Block) :
    (ofBlocks extension blocks).references = blocks.flatMap pathsOf := by
  have hColor : (extension.color.map Literal.text).elim [] references = [] := by
    cases extension.color <;> rfl
  have hEntry : ∀ block, (entry block).references = pathsOf block := by
    intro block
    cases block with
    | separator => rfl
    | label text => rfl
    | operation operation => exact references_ofOperation operation
  rw [ofBlocks, references]
  simp only [fieldReferences_append, fieldReferences_optionalField, hColor]
  simp [fieldReferences, references, itemReferences_eq, entries, List.flatMap_map, hEntry]

/-- The paths in a descriptor have no line feeds. -/
theorem oneLineReferences_ofBlocks (extension : Extension) (blocks : List Block) :
    (ofBlocks extension blocks).OneLineReferences := by
  have hShape : ∀ shape : BlockShape, '\n' ∉ shape.reference.toList := by
    intro shape
    cases shape <;> decide
  have hKind : ∀ kind : ArgumentKind, '\n' ∉ kind.reference.toList := by
    intro kind
    cases kind <;> decide
  intro path hPath
  rw [references_ofBlocks] at hPath
  obtain ⟨block, -, hPath⟩ := List.mem_flatMap.1 hPath
  cases block with
  | separator => cases hPath
  | label text =>
      rw [List.mem_singleton.1 hPath]
      decide
  | operation operation =>
      rcases List.mem_cons.1 hPath with rfl | hPath
      · exact hShape operation.shape
      · obtain ⟨argument, -, rfl⟩ := List.mem_map.1 hPath
        exact hKind argument.kind

end Descriptor

/-! ## Modules -/

namespace ModuleText

open BlockExtension.Script (quote)

/-- A module up to its descriptor, which stands behind `return` in the class. -/
def beforeInfo (extension : Extension) : String :=
  header extension.comment ++ opening ++ guard extension.id ++ "\n" ++ hostBindings ++ "\n" ++
    ofLines ["  class " ++ extension.id ++ " \x7b", "    getInfo() \x7b"] ++ "      return "

/-- A module behind its descriptor. -/
def behindInfo (extension : Extension) (tables : Dispatch.Tables) : String :=
  ofLines [
    ";",
    "    \x7d",
    "",
    "    " ++ Descriptor.dispatchMethod ++ "(args, util, blockJSON) \x7b",
    "      const err = " ++ quote uncompiledMessage ++ ";",
    "      runtime.visualReport(util.thread.isCompiled ? util.thread.peekStack() : " ++
      "util.thread.peekStackFrame().op.id, err);",
    "      return err;",
    "    \x7d",
    "  \x7d"] ++
  "\n" ++ "\n".intercalate [
    patchesId extension.id ++ patchInstaller,
    (Patch.ofTextTables tables).render 2,
    (Patch.ofTreeTables tables).render 2,
    closing extension.id]

/-- A module has its descriptor in it, six spaces deep. -/
theorem assemble_eq_info (extension : Extension) (info : Literal) (tables : Dispatch.Tables) :
    assemble extension info tables =
      beforeInfo extension ++ info.render 6 ++ behindInfo extension tables := by
  simp only [assemble, extensionClass, beforeInfo, behindInfo, ofLines, List.map_cons,
    List.map_nil, String.join_cons, String.join_nil, String.intercalate_cons_cons,
    String.append_assoc, String.append_empty]

/-- The descriptor in a module is the descriptor on its own, six spaces deeper. -/
theorem assemble_eq_indented (extension : Extension) {info : Literal}
    (h : info.OneLineReferences) (tables : Dispatch.Tables) :
    assemble extension info tables =
      beforeInfo extension ++ indented 6 (info.render 0) ++ behindInfo extension tables := by
  rw [assemble_eq_info, (Literal.laidOut_of_oneLineReferences h).render_eq 6]

end ModuleText

open ModuleText (assemble beforeInfo behindInfo assemble_eq_indented)

/--
A literal that stands deeper differs from the literal on its own by spaces behind line
feeds, and no string, key or document in it has any. The descriptor in a module is such
a literal, and the descriptor of a configuration always is.
-/
theorem render_isLayout :
    (∀ literal : Literal, literal.OneLineReferences → literal.LaidOut) ∧
      (∀ (extension : Extension) (info : Literal) (tables : Dispatch.Tables),
        info.OneLineReferences →
          assemble extension info tables =
            beforeInfo extension ++ indented 6 (info.render 0) ++ behindInfo extension tables) ∧
      ∀ (naming : Naming) (configuration : Configuration) (generated : Generated),
        generate naming configuration = .ok generated →
          generated.info.LaidOut ∧
            generated.source =
              beforeInfo configuration.extension ++ indented 6 (generated.info.render 0) ++
                behindInfo configuration.extension generated.tables := by
  refine ⟨fun literal h => Literal.laidOut_of_oneLineReferences h,
    fun extension info tables h => assemble_eq_indented extension h tables, ?_⟩
  intro naming configuration generated hGenerate
  rw [generate, map_eq_ok_iff] at hGenerate
  obtain ⟨resolution, -, rfl⟩ := hGenerate
  have hReferences :=
    Descriptor.oneLineReferences_ofBlocks configuration.extension resolution.blocks
  exact ⟨Literal.laidOut_of_oneLineReferences hReferences,
    assemble_eq_indented configuration.extension hReferences _⟩

/-- A record of one field, whose key, string and document all hold line feeds. -/
def feedingLiteral : Literal :=
  .record [("a\nb", .sequence [.text "c\n", .json (.object [("d\n", .string "\n  e")]),
    .reference "Scratch.BlockType.COMMAND"])]

/-- A palette of one label over two lines. -/
def feedingConfiguration : Configuration :=
  { extension := ⟨"ext", "two\nlines", none, none⟩, blocks := [.label "over\ntwo"] }

/-- Two spaces in front of a literal, and six in front of a descriptor, stay out of the strings. -/
theorem render_isLayout_feeding :
    feedingLiteral.OneLineReferences ∧ feedingLiteral.LaidOut ∧
      feedingLiteral.render 2 =
        "\x7b\n    \"a\\nb\": [\n      \"c\\n\",\n      \x7b\"d\\n\":\"\\n  e\"\x7d,\n" ++
          "      Scratch.BlockType.COMMAND,\n    ],\n  \x7d" ∧
      (∀ tables, assemble feedingConfiguration.extension feedingLiteral tables =
        beforeInfo feedingConfiguration.extension ++ indented 6 (feedingLiteral.render 0) ++
          behindInfo feedingConfiguration.extension tables) ∧
      ∃ generated, generate .ordinal feedingConfiguration = .ok generated ∧
        generated.source =
          beforeInfo feedingConfiguration.extension ++ indented 6 (generated.info.render 0) ++
            behindInfo feedingConfiguration.extension generated.tables := by
  have hReferences : feedingLiteral.OneLineReferences := by
    intro path hPath
    obtain rfl : path = "Scratch.BlockType.COMMAND" := by
      simpa [feedingLiteral, Literal.references, Literal.fieldReferences,
        Literal.itemReferences] using hPath
    decide
  have hResolve : resolve .ordinal feedingConfiguration.blocks =
      .ok ⟨[.label "over\ntwo"], []⟩ := by cbv
  have hGenerate := map_eq_ok_iff.2 ⟨_, hResolve,
    show Generated.ofResolution feedingConfiguration.extension _ = _ from rfl⟩
  obtain ⟨hLiteral, hAssemble, hGenerated⟩ := render_isLayout
  have hSource := (hGenerated .ordinal feedingConfiguration _ hGenerate).2
  refine ⟨hReferences, hLiteral _ hReferences, by decide, ?_, _, hGenerate, hSource⟩
  exact fun tables => hAssemble _ _ tables hReferences

end BlockExtension
