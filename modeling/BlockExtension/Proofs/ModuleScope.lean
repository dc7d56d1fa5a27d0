import Mathlib
import BlockExtension.Proofs.Containment
import BlockExtension.Proofs.Script.Scope

/-!
# The names that a module binds

A module is one function. What it takes from the host, the class of the extension and
the patches are all declared in the scope of that function, and strict code refuses
the whole module if two of these names are the same, if one is that of the
parameter, or if one is a word of the language. All but one of them are fixed; the
class is named by the id of the extension.

The names are read off the emitted text, part by part. The id is an identifier, so it
is read as one name, but nothing keeps it from being a word of the language or one of
the fixed names. The module can be loaded exactly if it is neither.

## Main results

* `ModuleText.reads_script`: the names bound in the scope of a module, in order.
* `generate_declarable_iff`: when these names can be bound together.
-/

namespace BlockExtension

open BlockExtension.Script (Literal spaces isIdentifier reservedWords Declarable)
open BlockExtension.Script.Lexer

/-! ## Patches -/

/-- A patch declares nothing. -/
theorem Patch.reads_render {stackedBlock input : Dispatch.Table}
    (hStackedBlock : Dispatch.AlikeTable stackedBlock stackedBlock)
    (hInput : Dispatch.AlikeTable input input) (target : HostObject) (indent : Nat) :
    Reads [] [] (.ofPlace .statement) (.ofPlace .statement)
      ((both target stackedBlock input).render indent) [] := by
  have hInstall : Reads [] [.round] (.ofPlace .statement) ⟨.phrase, 1, []⟩ "cst_patch(" [] :=
    reads_fixed (by decide)
  have hOpening : Reads [.round] [.curly, .round] ⟨.phrase, 1, []⟩ ⟨.phrase, 2, []⟩
      ", \x7b\n" [] := reads_fixed (by decide)
  have hClosing : Reads [.curly, .round] [] ⟨.phrase, 2, []⟩ (.ofPlace .statement)
      "\x7d);\n" [] := reads_fixed (by decide)
  have hText := (alike_methods hStackedBlock hInput target indent).hidden
    [.curly, .round] .phrase 1
  rw [render_both]
  exact (((((reads_spaces indent _ .statement 0).append hInstall).append
    ((alike_binding target).hidden _ .phrase 0)).append hOpening).append hText).append
    (reads_spaces indent _ .phrase 2) |>.append hClosing

namespace ModuleText

/-! ## Parts of a module -/

section Lines

variable {before middle after : List Bracket} {first last : Reader} {place : Place} {depth : Nat}
  {line : String} {lines : List String} {names more : List String}

theorem ofLines_cons (line : String) (lines : List String) :
    ofLines (line :: lines) = line ++ "\n" ++ ofLines lines := by
  rw [ofLines, List.map_cons, String.join_cons, ofLines]

theorem ofLines_append (front back : List String) :
    ofLines (front ++ back) = ofLines front ++ ofLines back := by
  rw [ofLines, List.map_append, String.join_append, ofLines, ofLines]

private theorem reads_ofLines_cons (hLine : Reads before middle first ⟨place, depth, []⟩ line names)
    (hRest : Reads middle after ⟨place, depth, []⟩ last (ofLines lines) more) :
    Reads before after first last (ofLines (line :: lines)) (names ++ more) := by
  have hWhole := (hLine.append (reads_feed place depth)).append hRest
  rwa [List.append_nil, ← ofLines_cons] at hWhole

/-- The last line of a part. -/
private theorem reads_ofLines_single
    (hLine : Reads before after first ⟨place, depth, []⟩ line names) :
    Reads before after first ⟨place, depth, []⟩ (ofLines [line]) names := by
  have hWhole : Reads before after first ⟨place, depth, []⟩ (ofLines [line]) (names ++ []) :=
    reads_ofLines_cons hLine reads_nil
  rwa [List.append_nil] at hWhole

/-- A part with further parts behind it, an empty line between them. -/
private theorem reads_intercalate_cons {part next : String} {parts : List String}
    (hPart : Reads before middle first ⟨place, depth, []⟩ part names)
    (hRest : Reads middle after ⟨place, depth, []⟩ last ("\n".intercalate (next :: parts)) more) :
    Reads before after first last ("\n".intercalate (part :: next :: parts)) (names ++ more) := by
  have hWhole := (hPart.append (reads_feed place depth)).append hRest
  rwa [List.append_nil, ← String.intercalate_cons_cons] at hWhole

/-- Fixed lines. -/
private theorem reads_fixedLines
    (h : (run ⟨.code, before⟩ ((lines.map String.toList).flatMap (· ++ ['\n']))).1 =
        ⟨.code, after⟩ ∧
      readPieces first (run ⟨.code, before⟩ ((lines.map String.toList).flatMap (· ++ ['\n']))).2 =
        (last, names.map String.toList)) :
    Reads before after first last (ofLines lines) names := by
  refine ⟨_, ?_, h.2⟩
  rw [toList_ofLines, ← h.1]

end Lines

/-- The names that the module takes from the host. -/
def hostNames : List String :=
  ["vm", "BlockType", "ArgumentType", "runtime", "iwnafhwtb", "JSGenerator",
    "ScriptTreeGenerator", "TYPE_NUMBER", "TYPE_STRING", "TYPE_BOOLEAN", "TYPE_UNKNOWN",
    "TYPE_NUMBER_NAN", "TypedInput", "ConstantInput", "VariableInput", "Frame", "sanitize", "JSGP",
    "STGP"]

/-- The function begins with its parameter. -/
private theorem reads_opening :
    Reads [] [.curly, .round] (.ofPlace .outside) (.ofPlace .statement) opening ["Scratch"] := by
  refine reads_fixedLines ?_
  simp only [List.map_cons, List.map_nil]
  repeat rw [String.toList_ofList]
  decide

set_option maxRecDepth 8000 in
private theorem reads_hostBindings :
    Reads [] [] (.ofPlace .statement) (.ofPlace .statement) hostBindings hostNames := by
  refine reads_fixedLines ?_
  simp only [hostNames, List.map_cons, List.map_nil]
  repeat rw [String.toList_ofList]
  decide

set_option maxRecDepth 8000 in
private theorem reads_patchInstaller :
    Reads [] [] (.ofPlace .statement) (.ofPlace .statement) patchInstaller ["cst_patch"] := by
  delta patchInstaller
  refine reads_fixedLines ?_
  simp only [List.map_cons, List.map_nil, String.toList_append]
  repeat rw [String.toList_ofList]
  decide

private theorem reads_guard (extensionId : String) :
    Reads [] [] (.ofPlace .statement) (.ofPlace .statement) (guard extensionId) [] := by
  have hTest : Reads [] [.curly] (.ofPlace .statement) ⟨.phrase, 1, []⟩
      "  if (!Scratch.extensions.unsandboxed) \x7b" [] := reads_fixed (by decide)
  have hThrow : Alike [] [.round] "    throw new Error(" "    throw new Error(" :=
    alike_fixed (by decide)
  have hClose : Alike [.round] [] ");" ");" := alike_fixed (by decide)
  have hEnd : Reads [.curly] [] ⟨.phrase, 1, []⟩ (.ofPlace .statement) "  \x7d" [] :=
    reads_fixed (by decide)
  exact reads_ofLines_cons hTest (reads_ofLines_cons
    (((hThrow.append alike_quote).append hClose).hidden _ .phrase 0) (reads_ofLines_single hEnd))

private theorem reads_patchesId (extensionId : String) :
    Reads [] [] (.ofPlace .statement) (.ofPlace .statement) (patchesId extensionId)
      ["PATCHES_ID"] := by
  have hName : Reads [] [] (.ofPlace .statement) (.ofPlace .bound) "  const PATCHES_ID = "
      ["PATCHES_ID"] := reads_fixedName (by decide)
  have hEnd : Reads [] [] (.ofPlace .bound) (.ofPlace .statement) ";" [] :=
    reads_fixed (by decide)
  exact reads_ofLines_single ((hName.append (reads_quote rfl _)).append hEnd)

/-- The class declares the id of the extension, and nothing else. -/
private theorem reads_extensionClass {extensionId : String} {info : Literal}
    (hId : isIdentifier extensionId) (h : AlikeLiteral info info) :
    Reads [] [] (.ofPlace .statement) (.ofPlace .statement) (extensionClass extensionId info)
      [extensionId] := by
  have hClass : Reads [] [] (.ofPlace .statement) (.ofPlace .title) "  class " [] :=
    reads_fixed (by decide)
  have hBody : Reads [] [.curly] (.ofPlace .phrase) ⟨.phrase, 1, []⟩ " \x7b" [] :=
    reads_fixed (by decide)
  have hEnd : Reads [.curly] [] ⟨.phrase, 1, []⟩ (.ofPlace .statement) "  \x7d" [] :=
    reads_fixed (by decide)
  have hHead := hClass.append (hBody.name hId (Reader.finishWord_name hId fun _ _ => rfl)
    (String.toList_ofList ..) (by decide) (by decide))
  rw [← String.append_assoc] at hHead
  have hMembers := (alike_ofLines (alike_classMembers h)).hidden [.curly] .phrase 0
  have hRest := hMembers.append (reads_ofLines_single hEnd)
  rw [← ofLines_append] at hRest
  rw [extensionClass_eq]
  exact reads_ofLines_cons hHead hRest

/-- The module registers an instance of the class and ends. -/
private theorem reads_closing {extensionId : String} (h : isIdentifier extensionId) :
    Reads [.curly, .round] [] (.ofPlace .statement) (.ofPlace .finished) (closing extensionId)
      [] := by
  have hRegister : Reads [.curly, .round] [.round, .curly, .round] (.ofPlace .statement)
      ⟨.phrase, 1, []⟩ "  Scratch.extensions.register(new " [] := reads_fixed (by decide)
  have hCall : Reads [.round, .curly, .round] [.curly, .round] ⟨.phrase, 1, []⟩
      (.ofPlace .statement) "());" [] := reads_fixed (by decide)
  have hEnd : Reads [.curly, .round] [] (.ofPlace .statement) (.ofPlace .finished)
      "\x7d)(Scratch);" [] := reads_fixed (by decide)
  exact reads_ofLines_cons ((hRegister.append ((alike_name h).hidden _ .phrase 0)).append hCall)
    (reads_ofLines_single hEnd)

def ownNames : List String := "Scratch" :: (hostNames ++ ["PATCHES_ID", "cst_patch"])

/-- The names bound in the scope of a module, in order. -/
def scope (extensionId : String) : List String :=
  "Scratch" :: (hostNames ++ [extensionId, "PATCHES_ID", "cst_patch"])

/-- The names that every module binds can be bound together. -/
theorem declarable_ownNames : Declarable ownNames := ⟨by decide, by decide⟩

/-- The names of a module can be bound together if the id is a name of its own. -/
theorem declarable_scope_iff {extensionId : String} (hId : isIdentifier extensionId) :
    Declarable (scope extensionId) ↔
      extensionId ∉ reservedWords ∧ extensionId ∉ ownNames := by
  have hPerm : (scope extensionId).Perm (extensionId :: ownNames) :=
    @List.perm_middle _ extensionId ("Scratch" :: hostNames) ["PATCHES_ID", "cst_patch"]
  have hNames : ∀ name, name ∈ scope extensionId ↔ name = extensionId ∨ name ∈ ownNames :=
    fun name => hPerm.mem_iff.trans List.mem_cons
  unfold Declarable
  rw [hPerm.nodup_iff, List.nodup_cons]
  constructor
  · rintro ⟨⟨hOther, _⟩, hBinding⟩
    exact ⟨(hBinding extensionId ((hNames _).2 (.inl rfl))).2, hOther⟩
  · rintro ⟨hWord, hOther⟩
    refine ⟨⟨hOther, declarable_ownNames.1⟩, fun name hMem => ?_⟩
    rcases (hNames name).1 hMem with rfl | hOwn
    · exact ⟨hId, hWord⟩
    · exact declarable_ownNames.2 name hOwn

/-- The names bound in the scope of a module are those of its parts. -/
theorem reads_script {extension : Extension} {info : Literal} {tables : Dispatch.Tables}
    (hId : isIdentifier extension.id) (hComment : extension.comment = none)
    (hInfo : AlikeLiteral info info) (hTables : Dispatch.AlikeTables tables tables) :
    Reads [] [] (.ofPlace .outside) (.ofPlace .finished) (assemble extension info tables)
      (scope extension.id) := by
  have hText := Patch.reads_render hTables.statement hTables.expression .scriptGenerator 2
  have hTree := Patch.reads_render hTables.treeBuild hTables.treeInput .treeGenerator 2
  have hClosing := reads_closing hId
  rw [← String.intercalate_singleton (s := "\n") (t := closing extension.id)] at hClosing
  have hParts := reads_intercalate_cons ((reads_guard extension.id).inside [.curly, .round])
    (reads_intercalate_cons (reads_hostBindings.inside [.curly, .round])
    (reads_intercalate_cons ((reads_extensionClass hId hInfo).inside [.curly, .round])
    (reads_intercalate_cons (((reads_patchesId extension.id).append reads_patchInstaller).inside
      [.curly, .round])
    (reads_intercalate_cons (hText.inside [.curly, .round])
    (reads_intercalate_cons (hTree.inside [.curly, .round]) hClosing)))))
  have hHeader : header none ++ opening = opening := String.empty_append ..
  unfold assemble
  rw [hComment, hHeader]
  exact reads_opening.append hParts

/-- A module is its header and a script that the header is no part of. -/
theorem assemble_eq (extension : Extension) (info : Literal) (tables : Dispatch.Tables) :
    assemble extension info tables =
      header extension.comment ++ assemble { extension with comment := none } info tables := by
  have hHeader : header none ++ opening = opening := String.empty_append ..
  simp only [assemble, hHeader, String.append_assoc]

end ModuleText

/-! ## From configurations to modules -/

/--
The names bound in the scope of a generated module, behind its header. They are those of the
host that the module takes, its own, and the class.
-/
theorem exists_script_of_generate {naming : Naming} {document : Json}
    {configuration : Configuration} {generated : Generated}
    (hRead : Configuration.ofJson document = .ok configuration)
    (hGenerate : generate naming configuration = .ok generated) :
    ∃ script, generated.source = ModuleText.header configuration.extension.comment ++ script ∧
      enclosedFunctionNames script = some (ModuleText.scope configuration.extension.id) := by
  have hWellFormed := Configuration.wellFormed_of_ofJson hRead
  rw [generate, map_eq_ok_iff] at hGenerate
  obtain ⟨resolution, hResolve, rfl⟩ := hGenerate
  have hBlocks := Resolution.forall₂_sameButText_self hWellFormed.blocks_wellFormed hResolve
  have hInfo := Descriptor.alike_ofBlocks
    (Configuration.SameButText.refl configuration).extension_same hBlocks
  have hTables : Dispatch.AlikeTables (Dispatch.tables configuration.extension resolution.blocks)
      (Dispatch.tables configuration.extension resolution.blocks) :=
    Dispatch.alike_tables rfl hBlocks
  generalize hDescriptor : Descriptor.ofBlocks configuration.extension resolution.blocks = info
    at hInfo
  generalize hDispatch : Dispatch.tables configuration.extension resolution.blocks = tables
    at hTables
  have hSource : (Generated.ofResolution configuration.extension resolution).source =
      ModuleText.assemble configuration.extension info tables := by
    rw [← hDescriptor, ← hDispatch, Generated.ofResolution]
  refine ⟨_, hSource.trans (ModuleText.assemble_eq ..), Reads.namesBetween_eq ?_⟩
  exact ModuleText.reads_script hWellFormed.id_isIdentifier rfl hInfo hTables

/--
The module of an accepted configuration is one function behind its header, in whose
scope the class of the extension is declared under the id, among names that are the
same in every module. All of these can be bound together exactly if the id is neither a
word of the language nor one of the other names.
-/
theorem generate_declarable_iff {naming : Naming} {document : Json}
    {configuration : Configuration} {generated : Generated}
    (hRead : Configuration.ofJson document = .ok configuration)
    (hGenerate : generate naming configuration = .ok generated) :
    ∃ script names,
      generated.source = ModuleText.header configuration.extension.comment ++ script ∧
        enclosedFunctionNames script = some names ∧
        names = ModuleText.scope configuration.extension.id ∧
        (Declarable names ↔ configuration.extension.id ∉ reservedWords ∧
          configuration.extension.id ∉ ModuleText.ownNames) := by
  obtain ⟨script, hSource, hNames⟩ := exists_script_of_generate hRead hGenerate
  have hId := (Configuration.wellFormed_of_ofJson hRead).id_isIdentifier
  exact ⟨script, _, hSource, hNames, rfl, ModuleText.declarable_scope_iff hId⟩

/-- A document that says the id of an extension and nothing else. -/
def bareDocument (id : String) : Json :=
  .object [("extension", .object [("id", .string id)]), ("blocks", .array [])]

def bareConfiguration (id : String) : Configuration := ⟨⟨id, id, none, none⟩, []⟩

/-- A name that differs from a word of the language in its first letter only. -/
theorem generate_declarable_capital :
    ∃ generated script, generate .ordinal (bareConfiguration "Class") = .ok generated ∧
      generated.source = ModuleText.header none ++ script ∧
      enclosedFunctionNames script = some (ModuleText.scope "Class") ∧
      Declarable (ModuleText.scope "Class") := by
  have hRead : Configuration.ofJson (bareDocument "Class") = .ok (bareConfiguration "Class") := by
    rfl
  obtain ⟨generated, hGenerate⟩ :
      ∃ generated, generate .ordinal (bareConfiguration "Class") = .ok generated := ⟨_, rfl⟩
  obtain ⟨script, _, hSource, hNames, rfl, hDeclarable⟩ :=
    generate_declarable_iff hRead hGenerate
  exact ⟨generated, script, hGenerate, hSource, hNames,
    hDeclarable.2 ⟨by decide, by decide⟩⟩

/-- A document is accepted, and the names of its module cannot be bound together. -/
def Clashes (id : String) : Prop :=
  Configuration.ofJson (bareDocument id) = .ok (bareConfiguration id) ∧
    ∃ generated names, generate .ordinal (bareConfiguration id) = .ok generated ∧
      enclosedFunctionNames generated.source = some names ∧ id ∈ names ∧ ¬ Declarable names

private theorem clashes_of_mem {id : String}
    (hRead : Configuration.ofJson (bareDocument id) = .ok (bareConfiguration id))
    (h : id ∈ reservedWords ++ ModuleText.ownNames) : Clashes id := by
  obtain ⟨generated, hGenerate⟩ :
      ∃ generated, generate .ordinal (bareConfiguration id) = .ok generated := ⟨_, rfl⟩
  obtain ⟨script, hSource, hNames⟩ := exists_script_of_generate hRead hGenerate
  have hId := (Configuration.wellFormed_of_ofJson hRead).id_isIdentifier
  have hHeader : generated.source = script := hSource.trans (String.empty_append ..)
  refine ⟨hRead, generated, _, hGenerate, hHeader ▸ hNames, ?_, ?_⟩
  · exact List.mem_cons_of_mem _ (List.mem_append_right _ (List.mem_cons_self ..))
  · intro hDeclarable
    obtain ⟨hWord, hOwn⟩ := (ModuleText.declarable_scope_iff hId).1 hDeclarable
    exact (List.mem_append.1 h).elim hWord hOwn

/-- Ids that are accepted: a word of the language, and a name that the module takes. -/
theorem clashes_word_and_name : Clashes "class" ∧ Clashes "vm" :=
  ⟨clashes_of_mem (by rfl) (by decide), clashes_of_mem (by rfl) (by decide)⟩

end BlockExtension
