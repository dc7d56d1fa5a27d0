import Mathlib
import BlockExtension.Generation
import BlockExtension.Proofs.DescriptorText
import BlockExtension.Proofs.TableText

/-!
# No text of a configuration escapes its literal

The parts of a module are put together here. What is fixed in them is read once and
for all; what depends on the configuration is either a name or a part that is alike
for configurations that differ in free text. So the whole module is: every literal
and every bracket of it is closed at its end, and apart from the contents of
literals it does not depend on free text.

## Main results

* `Patch.alike_render`, `ModuleText.alike_assemble`: patches and modules are read
  alike when their parts are.
* `generate_contains_freeText`: the module of an accepted configuration without a
  comment is complete, and free text only reaches the contents of its literals.
-/

namespace BlockExtension

open BlockExtension.Script (Literal quote spaces isIdentifier)
open BlockExtension.Script.Lexer

/-! ## Patches -/

namespace Patch

open BlockExtension.Dispatch (Table Tables AlikeTable AlikeTables alike_renderTable)

theorem alike_parameter (target : HostObject) :
    Alike [] [] target.parameter target.parameter := by
  cases target <;> exact alike_fixed (by decide)

theorem alike_scrutinee (target : HostObject) :
    Alike [] [] target.scrutinee target.scrutinee := by
  cases target <;> exact alike_fixed (by decide)

private theorem alike_blockLine (target : HostObject) (hook : Hook) (indent : Nat) :
    Alike [] [] (blockLine target hook indent) (blockLine target hook indent) := by
  have hBlock : Alike [] [] "const block = node.block;\n" "const block = node.block;\n" :=
    alike_fixed (by decide)
  unfold blockLine
  split
  · exact (alike_spaces indent).append hBlock
  · exact alike_nil

/-- Methods over tables that are read alike. -/
theorem alike_renderMethod {table other : Table} (h : AlikeTable table other) (target : HostObject)
    (indent : Nat) (hook : Hook) :
    Alike [] [] (renderMethod target indent hook table)
      (renderMethod target indent hook other) := by
  have hMethod : Alike [] [] hook.method hook.method := by
    cases hook <;> exact alike_fixed (by decide)
  have hParameters : Alike [] [.round] "(fn, " "(fn, " := alike_fixed (by decide)
  have hOpening : Alike [.round] [.curly] ", ...args) \x7b\n" ", ...args) \x7b\n" :=
    alike_fixed (by decide)
  have hSwitch : Alike [.curly] [.round, .curly] "switch (" "switch (" :=
    alike_fixed (by decide)
  have hCases : Alike [.round, .curly] [.curly, .curly] ") \x7b\n" ") \x7b\n" :=
    alike_fixed (by decide)
  have hDefault : Alike [.curly, .curly] [.curly, .curly] "  default:\n" "  default:\n" :=
    alike_fixed (by decide)
  have hCall : Alike [.curly, .curly] [.round, .curly, .curly] "    return fn(" "    return fn(" :=
    alike_fixed (by decide)
  have hArguments : Alike [.round, .curly, .curly] [.curly, .curly] ", ...args);\n"
      ", ...args);\n" := alike_fixed (by decide)
  have hEndSwitch : Alike [.curly, .curly] [.curly] "\x7d\n" "\x7d\n" :=
    alike_fixed (by decide)
  have hEnd : Alike [.curly] [] "\x7d,\n" "\x7d,\n" := alike_fixed (by decide)
  have hInner : ∀ opened, Alike opened opened (spaces (indent + 2)) (spaces (indent + 2)) :=
    fun _ => alike_spaces _
  have hBody : ∀ opened, Alike opened opened (spaces (indent + 4)) (spaces (indent + 4)) :=
    fun _ => alike_spaces _
  have hHead := ((((hInner _).append hMethod).append hParameters).append
    (alike_parameter target).anywhere).append hOpening
  have hBlock := (hHead.append (alike_blockLine target hook (indent + 4)).anywhere).append (hBody _)
  have hTable := (((hBlock.append hSwitch).append (alike_scrutinee target).anywhere).append
    hCases).append (alike_renderTable h (indent + 6)).anywhere
  have hOtherwise := (((((hTable.append (hBody _)).append hDefault).append (hBody _)).append
    hCall).append (alike_parameter target).anywhere).append hArguments
  exact (((hOtherwise.append (hBody _)).append hEndSwitch).append (hInner _)).append hEnd

def methods (target : HostObject) (stackedBlock input : Table) (indent : Nat) : String :=
  "\n".intercalate [renderMethod target indent .descendStackedBlock stackedBlock,
    renderMethod target indent .descendInput input]

/-- A patch of both hooks has one method for each. -/
theorem render_both (target : HostObject) (stackedBlock input : Table) (indent : Nat) :
    (both target stackedBlock input).render indent =
      spaces indent ++ "cst_patch(" ++ target.binding ++ ", \x7b\n" ++
        methods target stackedBlock input indent ++ spaces indent ++ "\x7d);\n" := rfl

theorem alike_binding (target : HostObject) : Alike [] [] target.binding target.binding := by
  cases target <;> exact alike_fixed (by decide)

/-- Methods over tables that are read alike, one behind the other. -/
theorem alike_methods {stackedBlock input otherStackedBlock otherInput : Table}
    (hStackedBlock : AlikeTable stackedBlock otherStackedBlock)
    (hInput : AlikeTable input otherInput) (target : HostObject) (indent : Nat) :
    Alike [] [] (methods target stackedBlock input indent)
      (methods target otherStackedBlock otherInput indent) := by
  have hFeed : Alike [] [] "\n" "\n" := alike_fixed (by decide)
  have hMethods : AlikeAll [] []
      [renderMethod target indent .descendStackedBlock stackedBlock,
        renderMethod target indent .descendInput input]
      [renderMethod target indent .descendStackedBlock otherStackedBlock,
        renderMethod target indent .descendInput otherInput] :=
    .cons (alike_renderMethod hStackedBlock target indent _)
      (.single (alike_renderMethod hInput target indent _))
  exact hMethods.intercalate fun _ => hFeed.anywhere

/-- Patches with tables that are read alike. -/
theorem alike_render {stackedBlock input otherStackedBlock otherInput : Table}
    (hStackedBlock : AlikeTable stackedBlock otherStackedBlock)
    (hInput : AlikeTable input otherInput) (target : HostObject) (indent : Nat) :
    Alike [] [] ((both target stackedBlock input).render indent)
      ((both target otherStackedBlock otherInput).render indent) := by
  have hInstall : Alike [] [.round] "cst_patch(" "cst_patch(" := alike_fixed (by decide)
  have hOpening : Alike [.round] [.curly, .round] ", \x7b\n" ", \x7b\n" :=
    alike_fixed (by decide)
  have hClosing : Alike [.curly, .round] [] "\x7d);\n" "\x7d);\n" := alike_fixed (by decide)
  have hText := alike_methods hStackedBlock hInput target indent
  have hHead := (((alike_spaces indent).append hInstall).append
    (alike_binding target).anywhere).append hOpening
  rw [render_both, render_both]
  exact ((hHead.append hText.anywhere).append (alike_spaces indent)).append hClosing

end Patch

/-! ## Modules -/

namespace ModuleText

open BlockExtension.Dispatch (Tables AlikeTables)

/-- Lines that are read alike, with a line feed after each. -/
theorem alike_ofLines {before after : List Bracket} {lines others : List String}
    (h : AlikeAll before after lines others) :
    Alike before after (ofLines lines) (ofLines others) := by
  have hFeed : Alike [] [] "\n" "\n" := alike_fixed (by decide)
  exact (h.map fun hLine => hLine.append hFeed.anywhere).join

theorem toList_ofLines (lines : List String) :
    (ofLines lines).toList = (lines.map String.toList).flatMap (· ++ ['\n']) := by
  rw [ofLines, String.toList_join, List.flatMap_map, List.flatMap_map]
  congr 1
  funext line
  simp

/-- Fixed lines that lead from code to code. -/
private theorem alike_fixedLines {before after : List Bracket} {lines : List String}
    (h : (run ⟨.code, before⟩ ((lines.map String.toList).flatMap (· ++ ['\n']))).1 =
      ⟨.code, after⟩) : Alike before after (ofLines lines) (ofLines lines) := by
  rw [← toList_ofLines] at h
  have hRun : run ⟨.code, before⟩ (ofLines lines).toList =
      (⟨.code, after⟩, (run ⟨.code, before⟩ (ofLines lines).toList).2) := by rw [← h]
  exact alike_of_run hRun

private theorem alike_opening : Alike [] [.curly, .round] opening opening := by
  refine alike_fixedLines ?_
  simp only [List.map_cons, List.map_nil]
  repeat rw [String.toList_ofList]
  decide

set_option maxRecDepth 8000 in
private theorem alike_hostBindings : Alike [] [] hostBindings hostBindings := by
  refine alike_fixedLines ?_
  simp only [List.map_cons, List.map_nil]
  repeat rw [String.toList_ofList]
  decide

set_option maxRecDepth 8000 in
private theorem alike_patchInstaller : Alike [] [] patchInstaller patchInstaller := by
  delta patchInstaller
  refine alike_fixedLines ?_
  simp only [List.map_cons, List.map_nil, String.toList_append]
  repeat rw [String.toList_ofList]
  decide

private theorem alike_guard (extensionId : String) :
    Alike [] [] (guard extensionId) (guard extensionId) := by
  have hTest : Alike [] [.curly] "  if (!Scratch.extensions.unsandboxed) \x7b"
      "  if (!Scratch.extensions.unsandboxed) \x7b" := alike_fixed (by decide)
  have hThrow : Alike [.curly] [.round, .curly] "    throw new Error(" "    throw new Error(" :=
    alike_fixed (by decide)
  have hClose : Alike [.round, .curly] [.curly] ");" ");" := alike_fixed (by decide)
  have hEnd : Alike [.curly] [] "  \x7d" "  \x7d" := alike_fixed (by decide)
  exact alike_ofLines (.cons hTest (.cons ((hThrow.append alike_quote).append hClose)
    (.single hEnd)))

private theorem alike_patchesId (extensionId : String) :
    Alike [] [] (patchesId extensionId) (patchesId extensionId) := by
  have hName : Alike [] [] "  const PATCHES_ID = " "  const PATCHES_ID = " :=
    alike_fixed (by decide)
  have hEnd : Alike [] [] ";" ";" := alike_fixed (by decide)
  exact alike_ofLines (.single ((hName.append alike_quote).append hEnd))

private theorem alike_closing {extensionId : String} (h : isIdentifier extensionId) :
    Alike [.curly, .round] [] (closing extensionId) (closing extensionId) := by
  have hRegister : Alike [.curly, .round] [.round, .curly, .round]
      "  Scratch.extensions.register(new " "  Scratch.extensions.register(new " :=
    alike_fixed (by decide)
  have hCall : Alike [.round, .curly, .round] [.curly, .round] "());" "());" :=
    alike_fixed (by decide)
  have hEnd : Alike [.curly, .round] [] "\x7d)(Scratch);" "\x7d)(Scratch);" :=
    alike_fixed (by decide)
  exact alike_ofLines (.cons ((hRegister.append (alike_name h)).append hCall) (.single hEnd))

/-- The lines between the first and the last line of the class. -/
def classMembers (info : Literal) : List String :=
  ["    getInfo() \x7b",
    "      return " ++ info.render 6 ++ ";",
    "    \x7d",
    "",
    "    " ++ Descriptor.dispatchMethod ++ "(args, util, blockJSON) \x7b",
    "      const err = " ++ quote uncompiledMessage ++ ";",
    "      runtime.visualReport(util.thread.isCompiled ? util.thread.peekStack() : " ++
      "util.thread.peekStackFrame().op.id, err);",
    "      return err;",
    "    \x7d"]

theorem extensionClass_eq (extensionId : String) (info : Literal) :
    extensionClass extensionId info =
      ofLines (("  class " ++ extensionId ++ " \x7b") :: (classMembers info ++ ["  \x7d"])) :=
  rfl

set_option maxRecDepth 1000 in
/-- The members of classes with descriptors that are read alike. -/
theorem alike_classMembers {info otherInfo : Literal} (h : AlikeLiteral info otherInfo) :
    AlikeAll [] [] (classMembers info) (classMembers otherInfo) := by
  have hInfo : Alike [] [.curly] "    getInfo() \x7b" "    getInfo() \x7b" :=
    alike_fixed (by decide)
  have hReturn : Alike [] [] "      return " "      return " := alike_fixed (by decide)
  have hStop : Alike [] [] ";" ";" := alike_fixed (by decide)
  have hEndMethod : Alike [.curly] [] "    \x7d" "    \x7d" := alike_fixed (by decide)
  have hIndent : Alike [] [] "    " "    " := alike_fixed (by decide)
  have hMethod : Alike [] [] Descriptor.dispatchMethod Descriptor.dispatchMethod :=
    alike_fixed (by decide)
  have hParameters : Alike [] [.curly] "(args, util, blockJSON) \x7b"
      "(args, util, blockJSON) \x7b" := alike_fixed (by decide)
  have hMessage : Alike [] [] "      const err = " "      const err = " :=
    alike_fixed (by decide)
  have hReport : Alike [] [.round]
      "      runtime.visualReport(util.thread.isCompiled ? util.thread.peekStack() : "
      "      runtime.visualReport(util.thread.isCompiled ? util.thread.peekStack() : " :=
    alike_fixed (by decide)
  have hFrame : Alike [.round] [] "util.thread.peekStackFrame().op.id, err);"
      "util.thread.peekStackFrame().op.id, err);" := alike_fixed (by decide)
  have hResult : Alike [] [] "      return err;" "      return err;" := alike_fixed (by decide)
  delta classMembers
  refine .cons hInfo ?_
  refine .cons ((hReturn.append (h 6 [])).append hStop).anywhere ?_
  refine .cons hEndMethod ?_
  refine .cons alike_nil ?_
  refine .cons ((hIndent.append hMethod).append hParameters) ?_
  refine .cons ((hMessage.append alike_quote).append hStop).anywhere ?_
  refine .cons (hReport.append hFrame).anywhere ?_
  refine .cons hResult.anywhere ?_
  exact .single hEndMethod

/-- Classes with descriptors that are read alike. -/
theorem alike_extensionClass {extensionId : String} {info otherInfo : Literal}
    (hId : isIdentifier extensionId) (h : AlikeLiteral info otherInfo) :
    Alike [] [] (extensionClass extensionId info) (extensionClass extensionId otherInfo) := by
  have hClass : Alike [] [] "  class " "  class " := alike_fixed (by decide)
  have hBody : Alike [] [.curly] " \x7b" " \x7b" := alike_fixed (by decide)
  have hEnd : Alike [.curly] [] "  \x7d" "  \x7d" := alike_fixed (by decide)
  rw [extensionClass_eq, extensionClass_eq]
  refine alike_ofLines (.cons ((hClass.append (alike_name hId)).append hBody) ?_)
  exact ((alike_classMembers h).inside [.curly]).append (.single hEnd)

/-- Modules without a comment whose parts are read alike. -/
theorem alike_assemble {extension other : Extension} {info otherInfo : Literal}
    {tables otherTables : Tables} (hId : isIdentifier extension.id)
    (hSameId : extension.id = other.id) (hComment : extension.comment = none)
    (hOtherComment : other.comment = none) (hInfo : AlikeLiteral info otherInfo)
    (hTables : AlikeTables tables otherTables) :
    Alike [] [] (assemble extension info tables) (assemble other otherInfo otherTables) := by
  have hFeed : Alike [] [] "\n" "\n" := alike_fixed (by decide)
  have hText := Patch.alike_render hTables.statement hTables.expression .scriptGenerator 2
  have hTree := Patch.alike_render hTables.treeBuild hTables.treeInput .treeGenerator 2
  have hParts : AlikeAll [.curly, .round] []
      [guard extension.id, hostBindings, extensionClass extension.id info,
        patchesId extension.id ++ patchInstaller, (Patch.ofTextTables tables).render 2,
        (Patch.ofTreeTables tables).render 2, closing extension.id]
      [guard extension.id, hostBindings, extensionClass extension.id otherInfo,
        patchesId extension.id ++ patchInstaller, (Patch.ofTextTables otherTables).render 2,
        (Patch.ofTreeTables otherTables).render 2, closing extension.id] :=
    .cons (alike_guard extension.id).anywhere
    (.cons alike_hostBindings.anywhere
    (.cons (alike_extensionClass hId hInfo).anywhere
    (.cons ((alike_patchesId extension.id).append alike_patchInstaller).anywhere
    (.cons hText.anywhere
    (.cons hTree.anywhere
    (.single (alike_closing hId)))))))
  have hHeader : header none = "" := rfl
  unfold assemble
  rw [hComment, hOtherComment, hHeader, ← hSameId]
  exact (alike_nil.append alike_opening).append (hParts.intercalate fun _ => hFeed.anywhere)

end ModuleText

/-! ## From configurations to modules -/

/-- Accepted configurations that differ in free text yield modules that are read alike. -/
theorem alike_generate {naming : Naming} {document otherDocument : Json}
    {configuration other : Configuration} {generated otherGenerated : Generated}
    (hRead : Configuration.ofJson document = .ok configuration)
    (hOtherRead : Configuration.ofJson otherDocument = .ok other)
    (hComment : configuration.extension.comment = none) (hSame : configuration.SameButText other)
    (hGenerate : generate naming configuration = .ok generated)
    (hOtherGenerate : generate naming other = .ok otherGenerated) :
    Alike [] [] generated.source otherGenerated.source := by
  have hWellFormed := Configuration.wellFormed_of_ofJson hRead
  have hOtherWellFormed := Configuration.wellFormed_of_ofJson hOtherRead
  rw [generate, map_eq_ok_iff] at hGenerate hOtherGenerate
  obtain ⟨resolution, hResolve, rfl⟩ := hGenerate
  obtain ⟨otherResolution, hOtherResolve, rfl⟩ := hOtherGenerate
  have hBlocks := Resolution.forall₂_sameButText hSame.blocks_same hWellFormed.blocks_wellFormed
    hOtherWellFormed.blocks_wellFormed hResolve hOtherResolve
  have hId := hSame.extension_same.id_eq
  have hOtherComment : other.extension.comment = none := by
    rw [← hSame.extension_same.comment_eq, hComment]
  exact ModuleText.alike_assemble hWellFormed.id_isIdentifier hId hComment hOtherComment
    (Descriptor.alike_ofBlocks hSame.extension_same hBlocks) (Dispatch.alike_tables hId hBlocks)

/--
The module of an accepted configuration without a comment is complete: at its end
every literal, comment and bracket is closed. And free text stays inside literals:
whatever else the configuration says in it, what is left of the module without the
contents of its literals is the same, character by character.
-/
theorem generate_contains_freeText {naming : Naming} {document : Json}
    {configuration : Configuration} {generated : Generated}
    (hRead : Configuration.ofJson document = .ok configuration)
    (hComment : configuration.extension.comment = none)
    (hGenerate : generate naming configuration = .ok generated) :
    (run start generated.source.toList).1 = start ∧
      ∀ otherDocument other otherGenerated,
        Configuration.ofJson otherDocument = .ok other → configuration.SameButText other →
        generate naming other = .ok otherGenerated →
        erase (run start generated.source.toList).2 =
          erase (run start otherGenerated.source.toList).2 := by
  refine ⟨?_, ?_⟩
  · exact (alike_generate hRead hRead hComment (.refl configuration) hGenerate hGenerate).closed.1
  · intro otherDocument other otherGenerated hOtherRead hSame hOtherGenerate
    exact (alike_generate hRead hOtherRead hComment hSame hGenerate hOtherGenerate).closed.2

/--
A configuration with a label and one operation, all of whose free text is given. It is used
to try what free text does to a module.
-/
def sampleDocument (name label text code default : String) : Json :=
  .object [("extension", .object [("id", .string "ext"), ("name", .string name)]),
    ("blocks", .array [.string label,
      .object [("opcode", .string "run"), ("blockType", .string "REPORTER"),
        ("text", .string text), ("code", .string code),
        ("arguments", .object [("x", .object [("type", .string "STRING"),
          ("defaultValue", .string default)])])]])]

/-- What the document declares. -/
def sampleConfiguration (name label text code default : String) : Configuration :=
  { extension := ⟨"ext", name, none, none⟩
    blocks := [.label label,
      .operation ⟨"run", .reporter, text, some code, none, false, none,
        [⟨"x", .string, some (.string default)⟩]⟩] }

private theorem exists_generate (naming : Naming) (configuration : Configuration)
    (h : (resolve naming configuration.blocks).isOk) :
    ∃ generated, generate naming configuration = .ok generated := by
  cases hResolve : resolve naming configuration.blocks with
  | ok resolution =>
      rw [generate, hResolve]
      exact ⟨_, rfl⟩
  | error failure => simp [hResolve, Except.isOk, Except.toBool] at h

/-- Plain words, and text that tries every mark at which a literal could end. -/
theorem generate_contains_freeText_marks :
    ∃ plain marked,
      generate .ordinal (sampleConfiguration "n" "l" "t [x]" "c [x]" "d") = .ok plain ∧
      generate .ordinal
        (sampleConfiguration "\"+(" "\"]\n" "[x] '" "\\\x60)$\x7b[x]\x7d" "\\\"") = .ok marked ∧
      (run start plain.source.toList).1 = start ∧
      erase (run start plain.source.toList).2 = erase (run start marked.source.toList).2 := by
  have hPlain : Configuration.ofJson (sampleDocument "n" "l" "t [x]" "c [x]" "d") =
      .ok (sampleConfiguration "n" "l" "t [x]" "c [x]" "d") := by rfl
  have hMarked : Configuration.ofJson
      (sampleDocument "\"+(" "\"]\n" "[x] '" "\\\x60)$\x7b[x]\x7d" "\\\"") =
      .ok (sampleConfiguration "\"+(" "\"]\n" "[x] '" "\\\x60)$\x7b[x]\x7d" "\\\"") := by rfl
  have hNames : Placeholder.names "c [x]" = Placeholder.names "\\\x60)$\x7b[x]\x7d" := by cbv
  have hSame : (sampleConfiguration "n" "l" "t [x]" "c [x]" "d").SameButText
      (sampleConfiguration "\"+(" "\"]\n" "[x] '" "\\\x60)$\x7b[x]\x7d" "\\\"") := by
    refine ⟨⟨rfl, rfl, rfl⟩, .cons (.label _ _) (.cons (.operation ?_) .nil)⟩
    exact ⟨rfl, rfl, .some hNames, rfl, rfl, rfl, .cons ⟨rfl, rfl, .some (.string _ _)⟩ .nil⟩
  obtain ⟨plain, hGenerate⟩ := exists_generate .ordinal
    (sampleConfiguration "n" "l" "t [x]" "c [x]" "d") (by cbv)
  obtain ⟨marked, hOther⟩ := exists_generate .ordinal
    (sampleConfiguration "\"+(" "\"]\n" "[x] '" "\\\x60)$\x7b[x]\x7d" "\\\"") (by cbv)
  have hBoth := generate_contains_freeText hPlain rfl hGenerate
  exact ⟨plain, marked, hGenerate, hOther, hBoth.1, hBoth.2 _ _ _ hMarked hSame hOther⟩

end BlockExtension
