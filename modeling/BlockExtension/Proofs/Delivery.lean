import BlockExtension.CommandLine.Session
import BlockExtension.Proofs.Resolution
import BlockExtension.Proofs.Writing

/-!
# What a session delivers

A session that succeeds has written the module to one path and, if asked to, the
descriptor to another. Each was put where its path led at that time. Whether it is found
there in the end is another question: the descriptor may have been put in the place of
the module, or a file in the place of a link that one of the paths leads through. These
are the only ways to lose something, and the session does not notice any of them.

## Main results

* `Tree.written_of_writeText`: what a successful write does to a tree.
* `Tree.Written.holds_iff`: when a path holds what was written to it.
* `Tree.Written.holds_of_later_iff`: when it still does after the next write.
* `CommandLine.run_delivers_iff`: what is delivered by a session that succeeds.
-/

namespace BlockExtension

namespace Files.Tree

/-! ## Written files -/

/-- A file takes the place of what is no directory. -/
theorem keptIn_put {tree : Tree} {goal : Location} {content : ByteArray} {mode : Nat}
    (hGoal : goal ≠ []) (hPlain : ∀ mode, tree.get? goal ≠ some (.directory mode)) :
    KeptIn tree (tree.put goal (.file content mode)) := by
  refine ⟨rfl, fun location entry hAt => ?_⟩
  by_cases hSame : location = goal
  · subst hSame
    refine .inr ⟨?_, content, mode, get?_put_self tree hGoal _⟩
    cases entry with
    | directory mode => exact absurd hAt (hPlain mode)
    | _ => rfl
  · rw [get?_put_of_ne tree hSame]
    exact .inl hAt

/--
A text was written to a path: directories were made as they were missing, and a file was
put where the path led then, through links at a list of locations.
-/
structure Written (before made after : Tree) (path text : String) (links : List Location)
    (goal : Location) : Prop where
  grows : Grows before made
  leads : made.LeadsTo path links goal
  not_directory : ∀ mode, made.get? goal ≠ some (.directory mode)
  after_eq : ∃ mode, after = made.put goal (.file text.toUTF8 mode)

section Outcomes

variable {storage : Storage} {tree after : Tree} {path text : String}

/-- A successful write makes directories, and then puts the file where its path leads. -/
theorem exists_prepared_of_writeText (h : tree.writeText storage path text = (after, .ok ())) :
    ∃ made links goal, Prepared tree path made ∧ Written tree made after path text links goal := by
  have hRun := Writing.run_writeText storage tree path text
  rw [h] at hRun
  obtain ⟨made, _, links, goal, hReplaced, hPut⟩ := Writing.sound_of_run hRun
  exact ⟨made, links, goal, hReplaced.prepared,
    ⟨hReplaced.prepared.enlarged.grows, hReplaced.leads, hReplaced.not_directory, hPut⟩⟩

theorem written_of_writeText (h : tree.writeText storage path text = (after, .ok ())) :
    ∃ made links goal, Written tree made after path text links goal := by
  obtain ⟨made, links, goal, _, hWritten⟩ := exists_prepared_of_writeText h
  exact ⟨made, links, goal, hWritten⟩

/-- A write that is refused leaves every file as it was, and at most new directories behind. -/
theorem prepared_of_refused {failure : WriteFailure}
    (h : tree.writeText storage path text = (after, .error failure)) :
    Prepared tree path after := by
  have hRun := Writing.run_writeText storage tree path text
  rw [h] at hRun
  exact Writing.sound_of_run hRun

end Outcomes

/-! ## What a path holds -/

/-- A path leads to a file with a text in it. -/
def Holds (tree : Tree) (path text : String) : Prop :=
  ∃ location mode, tree.find path = .ok (location, .file text.toUTF8 mode)

/--
A path that has led to a file holds a text exactly if the links on its way stay and the
file that is at its goal now has the text.
-/
theorem LeadsTo.holds_iff {before after : Tree} {path text : String} {links : List Location}
    {goal : Location} (h : before.LeadsTo path links goal) (hKept : KeptIn before after)
    {content : ByteArray} {mode : Nat} (hFile : after.get? goal = some (.file content mode)) :
    after.Holds path text ↔
      (∀ place ∈ links, after.get? place = before.get? place) ∧ content = text.toUTF8 := by
  constructor
  · rintro ⟨location, mode', hFind⟩
    have hSame : ∀ place ∈ links, after.get? place = before.get? place := by
      by_contra hChanged
      push Not at hChanged
      obtain ⟨error, hError⟩ := h.find_blocked hKept hChanged
      rw [hError] at hFind
      cases hFind
    refine ⟨hSame, ?_⟩
    rw [h.find_eq hKept hSame hFile rfl] at hFind
    cases hFind
    rfl
  · rintro ⟨hSame, rfl⟩
    exact ⟨goal, mode, h.find_eq hKept hSame hFile rfl⟩

namespace Written

variable {before made after : Tree} {path text : String} {links : List Location}
  {goal : Location}

theorem keptIn (h : Written before made after path text links goal) : KeptIn made after := by
  obtain ⟨mode, rfl⟩ := h.after_eq
  exact keptIn_put h.leads.goal_ne_nil h.not_directory

theorem get?_goal (h : Written before made after path text links goal) :
    ∃ mode, after.get? goal = some (.file text.toUTF8 mode) := by
  obtain ⟨mode, rfl⟩ := h.after_eq
  exact ⟨mode, get?_put_self made h.leads.goal_ne_nil _⟩

theorem get?_of_ne (h : Written before made after path text links goal) {place : Location}
    (hOther : place ≠ goal) : after.get? place = made.get? place := by
  obtain ⟨mode, rfl⟩ := h.after_eq
  exact get?_put_of_ne made hOther _

/-- A link on the way stays unless the file was put in its place, and also as the tree grows. -/
theorem links_same_of_grown_iff (h : Written before made after path text links goal)
    {grown : Tree} (hGrown : Grows after grown) :
    (∀ place ∈ links, grown.get? place = made.get? place) ↔ goal ∉ links := by
  constructor
  · intro hSame hMem
    obtain ⟨mode, hFile⟩ := h.get?_goal
    obtain ⟨_, hLink⟩ := h.leads.get?_link goal hMem
    have hGoal := hGrown.get?_eq goal _ hFile
    rw [hSame goal hMem, hLink] at hGoal
    cases hGoal
  · intro hNot place hMem
    obtain ⟨_, hLink⟩ := h.leads.get?_link place hMem
    have hAfter : after.get? place = made.get? place :=
      h.get?_of_ne (ne_of_mem_of_not_mem hMem hNot)
    rw [hLink]
    exact hGrown.get?_eq place _ (hAfter.trans hLink)

/-- As the tree grows, a path goes on to hold what was written to it, if it does. -/
theorem holds_of_grown_iff (h : Written before made after path text links goal)
    {grown : Tree} (hGrown : Grows after grown) : grown.Holds path text ↔ goal ∉ links := by
  obtain ⟨mode, hFile⟩ := h.get?_goal
  rw [h.leads.holds_iff (h.keptIn.trans hGrown.keptIn) (hGrown.get?_eq goal _ hFile),
    h.links_same_of_grown_iff hGrown, and_iff_left rfl]

/-- A path holds what was written to it unless the file took the place of a link on its way. -/
theorem holds_iff (h : Written before made after path text links goal) :
    after.Holds path text ↔ goal ∉ links := h.holds_of_grown_iff (.refl after)

section Later

variable {made' later : Tree} {path' text' : String} {links' : List Location} {goal' : Location}

/-- The next write takes the place of what was written, or leaves it alone. -/
private theorem get?_goal_later (h : Written before made after path text links goal)
    (hLater : Written after made' later path' text' links' goal') :
    ∃ mode, later.get? goal =
      some (.file (if goal' = goal then text'.toUTF8 else text.toUTF8) mode) := by
  by_cases hSame : goal' = goal
  · subst hSame
    simpa using hLater.get?_goal
  · obtain ⟨mode, hFile⟩ := h.get?_goal
    rw [hLater.get?_of_ne (Ne.symm hSame), if_neg hSame]
    exact ⟨mode, hLater.grows.get?_eq goal _ hFile⟩

/-- A link on the way stays unless one of the two files was put in its place. -/
private theorem links_same_later_iff (h : Written before made after path text links goal)
    (hLater : Written after made' later path' text' links' goal') :
    (∀ place ∈ links, later.get? place = made.get? place) ↔ goal ∉ links ∧ goal' ∉ links := by
  constructor
  · intro hSame
    have hNoFile {place : Location} (hMem : place ∈ links) {content : ByteArray} {mode : Nat} :
        later.get? place ≠ some (.file content mode) := by
      obtain ⟨_, hLink⟩ := h.leads.get?_link place hMem
      rw [hSame place hMem, hLink]
      nofun
    obtain ⟨_, hFile⟩ := h.get?_goal_later hLater
    obtain ⟨_, hFile'⟩ := hLater.get?_goal
    exact ⟨fun hMem => hNoFile hMem hFile, fun hMem => hNoFile hMem hFile'⟩
  · rintro ⟨hNot, hNot'⟩ place hMem
    obtain ⟨_, hLink⟩ := h.leads.get?_link place hMem
    have hAfter : after.get? place = made.get? place :=
      h.get?_of_ne (ne_of_mem_of_not_mem hMem hNot)
    rw [hLater.get?_of_ne (ne_of_mem_of_not_mem hMem hNot'), hLink]
    exact hLater.grows.get?_eq place _ (hAfter.trans hLink)

/--
After the next write a path still holds what was written to it, unless one of the two
files took the place of a link on its way, or the second that of the first.
-/
theorem holds_of_later_iff (h : Written before made after path text links goal)
    (hLater : Written after made' later path' text' links' goal') :
    later.Holds path text ↔
      goal ∉ links ∧ goal' ∉ links ∧ (goal' = goal → text' = text) := by
  obtain ⟨mode, hFile⟩ := h.get?_goal_later hLater
  have hKept : KeptIn made later :=
    (h.keptIn.trans hLater.grows.keptIn).trans hLater.keptIn
  rw [h.leads.holds_iff hKept hFile, h.links_same_later_iff hLater, and_assoc]
  refine and_congr_right fun _ => and_congr_right fun _ => ?_
  by_cases hSame : goal' = goal
  · simp [hSame, String.toByteArray_inj]
  · simp [hSame]

end Later

end Written

end Files.Tree

namespace CommandLine

open Files

variable {formatter : Formatter} {storage : Artefact → Storage} {naming : Naming}
  {arguments : Arguments} {tree : Tree} {success : Success}

/-- A session that succeeds has read its configuration and delivered what it generated. -/
theorem exists_deliver_of_run {path : String} (hPath : arguments.configuration = some path)
    (h : (run formatter storage naming arguments tree).result = .ok success) :
    ∃ source configuration generated text events laid, readText tree path = .ok source ∧
      Configuration.parse source = .ok configuration ∧
      generate naming configuration = .ok generated ∧
      layOut formatter arguments generated.source tree = (text, events, laid) ∧
      (deliver storage arguments generated.info (outputPath arguments configuration.extension) text
        laid).result = .ok success ∧
      (run formatter storage naming arguments tree).tree =
        (deliver storage arguments generated.info (outputPath arguments configuration.extension)
          text laid).tree := by
  simp only [run, hPath, Session.result_after, Session.tree_after] at h ⊢
  cases hSource : readText tree path with
  | error cause =>
      rw [hSource] at h
      cases h
  | ok source =>
      simp only [hSource, validate, Session.result_after, Session.tree_after] at h ⊢
      cases hParse : Configuration.parse source with
      | error cause =>
          rw [hParse] at h
          cases h
      | ok configuration =>
          simp only [hParse, emit, Session.result_after, Session.tree_after] at h ⊢
          cases hGenerate : generate naming configuration with
          | error cause =>
              rw [hGenerate] at h
              cases h
          | ok generated =>
              simp only [hGenerate, finish, Session.result_after, Session.tree_after] at h ⊢
              exact ⟨source, configuration, generated, _, _, _, rfl, hParse, hGenerate, rfl, h, rfl⟩

/--
What became of a module and a descriptor that were delivered: each was written to its
path, and whether the path holds it in the end depends on where the two files went.
-/
structure Delivered (arguments : Arguments) (info : Script.Literal) (output text : String)
    (laid final : Tree) : Prop where
  /-- Without a descriptor the module alone was written. -/
  alone : arguments.descriptor = none → ∃ made links goal,
    Tree.Written laid made final output text links goal ∧
      (final.Holds output text ↔ goal ∉ links)
  /-- The descriptor was written after the module. -/
  both : ∀ descriptor, arguments.descriptor = some descriptor →
    ∃ made middle made' links goal links' goal',
      Tree.Written laid made middle output text links goal ∧
      Tree.Written middle made' final descriptor (descriptorText info) links' goal' ∧
      (final.Holds output text ↔
        goal ∉ links ∧ goal' ∉ links ∧ (goal' = goal → descriptorText info = text)) ∧
      (final.Holds descriptor (descriptorText info) ↔ goal' ∉ links')

theorem delivered_of_deliver {info : Script.Literal} {output text : String} {laid : Tree}
    (h : (deliver storage arguments info output text laid).result = .ok success) :
    success = .written output ∧
      Delivered arguments info output text laid
        (deliver storage arguments info output text laid).tree := by
  unfold deliver at h ⊢
  rcases hModule : laid.writeText (storage .module) output text with ⟨middle, failure | _⟩
  · rw [hModule] at h
    cases h
  rw [hModule] at h
  simp only [Session.result_after, Session.tree_after, writeDescriptor] at h ⊢
  obtain ⟨made, links, goal, hWritten⟩ := Tree.written_of_writeText hModule
  cases hDescriptor : arguments.descriptor with
  | none =>
      rw [hDescriptor] at h
      cases h
      refine ⟨rfl, fun _ => ⟨made, links, goal, hWritten, hWritten.holds_iff⟩, ?_⟩
      intro descriptor hSome
      cases hDescriptor.symm.trans hSome
  | some path =>
      rw [hDescriptor] at h
      simp only at h ⊢
      rcases hLater : middle.writeText (storage .descriptor) path (descriptorText info) with
        ⟨final, failure | _⟩
      · rw [hLater] at h
        cases h
      rw [hLater] at h
      cases h
      obtain ⟨made', links', goal', hWritten'⟩ := Tree.written_of_writeText hLater
      refine ⟨rfl, fun hNone => ?_, fun descriptor hSome => ?_⟩
      · cases hDescriptor.symm.trans hNone
      · cases hDescriptor.symm.trans hSome
        exact ⟨made, middle, made', links, goal, links', goal', hWritten, hWritten',
          hWritten.holds_of_later_iff hWritten', hWritten'.holds_iff⟩

/--
A session that succeeds has written the module and the descriptor to their paths. The
module is still found at its path exactly if no file took the place of a link on its way
and the descriptor did not take its own place, and likewise for the descriptor.
-/
theorem run_delivers_iff {path : String} (hPath : arguments.configuration = some path)
    (hRun : (run formatter storage naming arguments tree).result = .ok success) :
    ∃ source configuration generated text events laid, readText tree path = .ok source ∧
      Configuration.parse source = .ok configuration ∧
      generate naming configuration = .ok generated ∧
      layOut formatter arguments generated.source tree = (text, events, laid) ∧
      success = .written (outputPath arguments configuration.extension) ∧
      Delivered arguments generated.info (outputPath arguments configuration.extension) text laid
        (run formatter storage naming arguments tree).tree := by
  obtain ⟨source, configuration, generated, text, events, laid, hSource, hParse, hGenerate, hLaid,
    hDeliver, hTree⟩ := exists_deliver_of_run hPath hRun
  obtain ⟨hSuccess, hDelivered⟩ := delivered_of_deliver hDeliver
  refine ⟨source, configuration, generated, text, events, laid, hSource, hParse, hGenerate, hLaid,
    hSuccess, ?_⟩
  rw [hTree]
  exact hDelivered

/-! ## One file for both -/

def emptyPalette : String := "\x7b\"extension\":\x7b\"id\":\"ext\"\x7d,\"blocks\":[]\x7d"

def workplace : Tree :=
  ⟨[(["work"], .directory Tree.newDirectoryMode),
    (["work", "c.json"], .file emptyPalette.toUTF8 Tree.newFileMode)], ["work"], []⟩

def workplaceWith (text : String) : Tree :=
  workplace.put ["work", "x.js"] (.file text.toUTF8 Tree.newFileMode)

def emptyModule : Generated := .ofResolution ⟨"ext", "ext", none, none⟩ ⟨[], []⟩

/-- Arguments that ask for an unformatted module and no descriptor. -/
def deliverAlone (output : String) : Arguments :=
  ⟨some "c.json", some output, false, true, "", none⟩

/-- Arguments that ask for an unformatted module and a descriptor. -/
def deliverTo (output descriptor : String) : Arguments :=
  ⟨some "c.json", some output, false, true, "", some descriptor⟩

/-- A formatter that has nothing to say, and that is not asked either. -/
def uncalled : Formatter := fun _ _ tree => (.finished 0 .empty .empty, tree)

/-- A system that refuses nothing of its own accord, whatever is written. -/
def unhindered : Artefact → Storage := fun _ => .steady

/-- The configuration is read wherever it is found. -/
theorem readText_of_find (tree : Tree) (h : tree.find "c.json" =
      .ok (["work", "c.json"], .file emptyPalette.toUTF8 Tree.newFileMode)) :
    readText tree "c.json" = .ok emptyPalette := by
  have hRead : tree.readFile "c.json" = .ok emptyPalette.toUTF8 := by
    rw [Tree.readFile, h]
    rfl
  have hDecode : Text.Utf8.decode emptyPalette.toUTF8 = .ok emptyPalette := by cbv
  have hNul : Path.hasNul "c.json" = false := by decide
  simp only [readText, hNul, hRead, hDecode, Bool.false_eq_true, if_false]
  rfl

theorem readText_workplace : readText workplace "c.json" = .ok emptyPalette :=
  readText_of_find workplace rfl

theorem parse_emptyPalette :
    Configuration.parse emptyPalette = .ok ⟨⟨"ext", "ext", none, none⟩, []⟩ := by cbv

/-- Where the configuration is read, a session that does not format comes to delivering. -/
theorem run_emptyPalette (storage : Artefact → Storage) (arguments : Arguments) {tree : Tree}
    {output : String} (hPath : arguments.configuration = some "c.json")
    (hOutput : arguments.output = some output) (hPlain : arguments.unformatted = true)
    (hRead : readText tree "c.json" = .ok emptyPalette) :
    (run uncalled storage .ordinal arguments tree).result =
        (deliver storage arguments emptyModule.info output emptyModule.source tree).result ∧
      (run uncalled storage .ordinal arguments tree).tree =
        (deliver storage arguments emptyModule.info output emptyModule.source tree).tree := by
  have hGenerate : generate .ordinal ⟨⟨"ext", "ext", none, none⟩, []⟩ = .ok emptyModule := rfl
  simp only [run, hPath, hRead, validate, parse_emptyPalette, emit, hGenerate, finish, layOut,
    hPlain, if_true, outputPath, hOutput, Option.getD_some, Session.result_after,
    Session.tree_after, and_self]

/-- A module starts otherwise than a descriptor. -/
theorem source_ne_descriptorText : emptyModule.source ≠ descriptorText emptyModule.info := by
  have hSource : emptyModule.source.toList.head? = some '(' := by
    rw [emptyModule, Generated.ofResolution, ModuleText.assemble]
    simp only [ModuleText.header, String.empty_append, String.toList_append, List.head?_append]
    rfl
  have hDescriptor : (descriptorText emptyModule.info).toList.head? = some '\x7b' := by
    obtain ⟨⟨key, value⟩, fields, hObject⟩ :
        ∃ field fields, emptyModule.info.toJson = .object (field :: fields) := ⟨_, _, rfl⟩
    rw [descriptorText, hObject, Json.pretty, Json.prettyAt, Json.prettyFields, Json.bracketed]
    simp [String.toList_append]
  intro hSame
  rw [hSame, hDescriptor] at hSource
  cases hSource

theorem writeText_workplace (text : String) :
    workplace.writeText .steady "x.js" text = (workplaceWith text, .ok ()) := rfl

/-- Two files side by side hold the module and the descriptor. -/
theorem run_delivers_sideBySide :
    (deliverTo "x.js" "d.json").configuration = some "c.json" ∧
      ∃ success, (run uncalled unhindered .ordinal (deliverTo "x.js" "d.json") workplace).result =
          .ok success ∧
        (∃ source configuration generated text events laid,
          readText workplace "c.json" = .ok source ∧
          Configuration.parse source = .ok configuration ∧
          generate .ordinal configuration = .ok generated ∧
          layOut uncalled (deliverTo "x.js" "d.json") generated.source workplace =
            (text, events, laid) ∧
          success = .written "x.js" ∧
          Delivered (deliverTo "x.js" "d.json") generated.info "x.js" text laid
            (run uncalled unhindered .ordinal (deliverTo "x.js" "d.json") workplace).tree) ∧
        (run uncalled unhindered .ordinal (deliverTo "x.js" "d.json") workplace).tree.Holds "x.js"
          emptyModule.source ∧
        (run uncalled unhindered .ordinal (deliverTo "x.js" "d.json") workplace).tree.Holds "d.json"
          (descriptorText emptyModule.info) := by
  have hSecond (text other : String) : (workplaceWith text).writeText .steady "d.json" other =
      ((workplaceWith text).put ["work", "d.json"] (.file other.toUTF8 Tree.newFileMode),
        .ok ()) := rfl
  obtain ⟨hResult, hTree⟩ :=
    run_emptyPalette unhindered (deliverTo "x.js" "d.json") rfl rfl rfl readText_workplace
  have hRun : (run uncalled unhindered .ordinal (deliverTo "x.js" "d.json") workplace).result =
      .ok (.written "x.js") := by
    rw [hResult]
    simp only [deliver, unhindered, writeText_workplace, writeDescriptor, deliverTo, hSecond,
      Session.result_after]
  refine ⟨rfl, _, hRun, run_delivers_iff rfl hRun, ?_⟩
  rw [hTree]
  simp only [deliver, unhindered, writeText_workplace, writeDescriptor, deliverTo, hSecond,
    Session.tree_after]
  exact ⟨⟨["work", "x.js"], Tree.newFileMode, rfl⟩, ⟨["work", "d.json"], Tree.newFileMode, rfl⟩⟩

/-- A descriptor that goes to the path of the module takes its place, and nobody is told. -/
theorem run_overwrites_module :
    (run uncalled unhindered .ordinal (deliverTo "x.js" "x.js") workplace).result =
        .ok (.written "x.js") ∧
      generate .ordinal ⟨⟨"ext", "ext", none, none⟩, []⟩ = .ok emptyModule ∧
      ¬ (run uncalled unhindered .ordinal (deliverTo "x.js" "x.js") workplace).tree.Holds "x.js"
        emptyModule.source := by
  have hSecond (text other : String) :
      (workplaceWith text).writeText .steady "x.js" other = (workplaceWith other, .ok ()) := rfl
  have hFind (text : String) : (workplaceWith text).find "x.js" =
      .ok (["work", "x.js"], .file text.toUTF8 Tree.newFileMode) := rfl
  obtain ⟨hResult, hTree⟩ :=
    run_emptyPalette unhindered (deliverTo "x.js" "x.js") rfl rfl rfl readText_workplace
  rw [hResult, hTree]
  simp only [deliver, unhindered, writeText_workplace, writeDescriptor, deliverTo, hSecond,
    Session.result_after, Session.tree_after]
  refine ⟨trivial, rfl, ?_⟩
  rintro ⟨location, mode, hHolds⟩
  rw [hFind, Except.ok.injEq, Prod.mk.injEq, Entry.file.injEq] at hHolds
  exact source_ne_descriptorText (String.toByteArray_inj.1 hHolds.2.1.symm)

end CommandLine

end BlockExtension
