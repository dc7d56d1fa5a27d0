import BlockExtension.Proofs.Delivery

/-!
# Writing happens as a whole or not at all

A write that took its place has put the whole text there; one that was refused has left
every file alone, whichever step it was that was refused. What is said here of one write
follows from the invariant of its steps, and what is said of many writes in a row, from
what each of them leaves.

Whether the path leads to the new file is a question about links: the file takes the
place of a link, so a path through that link leads elsewhere. And the bits of the file
are those of whatever the path led to when it was asked, which need not have been a
regular file.

## Main results

* `Tree.Replaced.keeps_iff`: when a path leads to its text with the bits it should have.
* `Tree.refused_of_writeText`, `Tree.done_of_writeText`: what is run is one of these writes.
* `Tree.holds_of_writes`: what a sequence of writes leaves at a location.
* `Tree.write_atomic`: a write happens as a whole or not at all.
-/

namespace BlockExtension.Files

namespace Tree

/-! ## What a path leads to -/

/--
The permission bits that a file should get: those that the file had to which the path
leads, and `644` if there was no such file.
-/
def Keeps (before seen : Tree) (path : String) (mode : Nat) : Prop :=
  (∃ location content, seen.find path = .ok (location, .file content mode) ∧
    before.get? location = some (.file content mode)) ∨
  mode = newFileMode ∧ ∀ location content bits,
    seen.find path = .ok (location, .file content bits) →
      before.get? location ≠ some (.file content bits)

/-- What a path leads to is a file that was there before, or has the bits of a new file. -/
def MeetsFile (before seen : Tree) (path : String) : Prop :=
  ∀ location entry, seen.find path = .ok (location, entry) →
    entry.mode = newFileMode ∨
      (∃ content bits, entry = .file content bits) ∧ before.get? location = some entry

/-- The bits that are read are the right ones unless the path leads to something else. -/
theorem keeps_modeFor_iff {before seen : Tree} {path : String} :
    Keeps before seen path (seen.modeFor path) ↔ MeetsFile before seen path := by
  unfold Keeps MeetsFile modeFor
  rcases seen.find path with error | ⟨location, entry⟩
  · simp
  · cases entry with
    | file content bits =>
        have hMode : (Entry.file content bits).mode = bits := rfl
        by_cases hThere : before.get? location = some (.file content bits)
        · simp [hMode, hThere]
        · simp [hMode, hThere]
    | directory bits => simp
    | link target => simp
    | device kind => simp

namespace Replaced

variable {before made seen after : Tree} {path text : String} {links : List Location}
  {goal : Location}

theorem exists_directory (h : Replaced before made seen after path text links goal) :
    ∃ bits, after.get? goal.dropLast = some (.directory bits) := by
  obtain ⟨bits, hAt⟩ := h.leads.exists_parent
  refine ⟨bits, h.keptIn.get?_directory hAt⟩

/-- The links on the way stay unless the file took the place of one. -/
theorem links_same_iff (h : Replaced before made seen after path text links goal) :
    (∀ place ∈ links, after.get? place = made.get? place) ↔ goal ∉ links := by
  constructor
  · intro hSame hMem
    obtain ⟨_, hLink⟩ := h.leads.get?_link goal hMem
    have hFile := h.get?_goal
    rw [hSame goal hMem, hLink] at hFile
    cases hFile
  · intro hNot place hMem
    exact h.get?_of_ne place (ne_of_mem_of_not_mem hMem hNot)

/--
The path leads to the text with the bits that it should have exactly if the file took the
place of no link on the way, and the path led to a file when the bits were read.
-/
theorem keeps_iff (h : Replaced before made seen after path text links goal) :
    (∃ location mode, after.find path = .ok (location, .file text.toUTF8 mode) ∧
        Keeps before seen path mode) ↔
      goal ∉ links ∧ MeetsFile before seen path := by
  rw [← h.links_same_iff, ← keeps_modeFor_iff]
  constructor
  · rintro ⟨location, mode, hFind, hKeeps⟩
    have hHolds : after.Holds path text := ⟨location, mode, hFind⟩
    obtain ⟨hSame, _⟩ := (h.leads.holds_iff h.keptIn h.get?_goal).1 hHolds
    rw [h.leads.find_eq h.keptIn hSame h.get?_goal rfl] at hFind
    cases hFind
    exact ⟨hSame, hKeeps⟩
  · rintro ⟨hSame, hKeeps⟩
    exact ⟨goal, _, h.leads.find_eq h.keptIn hSame h.get?_goal rfl, hKeeps⟩

end Replaced

/-! ## Writes that come to an end -/

/-- A text was written to a path: a write took its place, and the tree holds what it left. -/
def Done (before : Tree) (path text : String) (after : Tree) : Prop :=
  ∃ placed, Writing.Run path text (.preparing before) (.placed placed) ∧ Agrees placed after

/-- Writing a text to a path was refused, and the tree holds what the write left. -/
def Refused (before : Tree) (path text : String) (after : Tree) : Prop :=
  ∃ left, Writing.Run path text (.preparing before) (.refused left) ∧ Agrees left after

section Ends

variable {before after : Tree} {path text : String}

theorem Done.exists_replaced (h : Done before path text after) :
    ∃ made seen links goal, Replaced before made seen after path text links goal := by
  obtain ⟨placed, hRun, hAgrees⟩ := h
  obtain ⟨made, seen, links, goal, hReplaced, _⟩ := Writing.sound_of_run hRun
  exact ⟨made, seen, links, goal,
    { hReplaced with
      workingDirectory_eq := hAgrees.workingDirectory_eq.trans hReplaced.workingDirectory_eq
      get?_goal := (hAgrees.get?_eq goal).trans hReplaced.get?_goal
      get?_of_ne := fun other hOther =>
        (hAgrees.get?_eq other).trans (hReplaced.get?_of_ne other hOther) }⟩

theorem Refused.prepared (h : Refused before path text after) : Prepared before path after := by
  obtain ⟨left, hRun, hAgrees⟩ := h
  have hLeft : Prepared before path left := Writing.sound_of_run hRun
  refine ⟨hLeft.enlarged.trans hAgrees.enlarged, fun location hNone hNew => ?_⟩
  rw [hAgrees.get?_eq] at hNew
  obtain ⟨directory, hMem, hFind⟩ := hLeft.exists_path location hNone hNew
  exact ⟨directory, hMem, (hAgrees.find_eq directory).trans hFind⟩

end Ends

/-! ## What is run -/

section Ran

variable {storage : Storage} {tree after : Tree} {path text : String}

/-- What is refused is a write that is refused. -/
theorem refused_of_writeText {failure : WriteFailure}
    (h : tree.writeText storage path text = (after, .error failure)) :
    Refused tree path text after := by
  have hRun := Writing.run_writeText storage tree path text
  rw [h] at hRun
  exact ⟨after, hRun, .refl after⟩

/-- What is written is a write that took its place. -/
theorem done_of_writeText (h : tree.writeText storage path text = (after, .ok ())) :
    Done tree path text after := by
  have hRun := Writing.run_writeText storage tree path text
  rw [h] at hRun
  exact ⟨after, hRun, .refl after⟩

end Ran

/-! ## Sequences of writes -/

/--
Writes one after the other, with the places and the texts of those that were not
refused, the first one first.
-/
inductive Writes : Tree → List (Location × String) → Tree → Prop
  | done (tree : Tree) : Writes tree [] tree
  | placed {before made seen between after : Tree} {path text : String} {links : List Location}
      {goal : Location} {rest : List (Location × String)} (h : Done before path text between)
      (hReplaced : Replaced before made seen between path text links goal)
      (hRest : Writes between rest after) : Writes before ((goal, text) :: rest) after
  | refused {before between after : Tree} {path text : String} {rest : List (Location × String)}
      (h : Refused before path text between) (hRest : Writes between rest after) :
      Writes before rest after

/--
What a location holds after texts were written: the last one for it, or what it held, or a
directory that was made on the way.
-/
def HoldsLast (before : Tree) (written : List (Location × String)) (after : Tree)
    (location : Location) : Prop :=
  match written.reverse.lookup location with
  | some text => ∃ mode, after.get? location = some (.file text.toUTF8 mode)
  | none => EnlargedAt before after location

/-- After writes each location holds the last text written there, or what it held before. -/
theorem holds_of_writes {before after : Tree} {written : List (Location × String)}
    (h : Writes before written after) (location : Location) :
    HoldsLast before written after location := by
  induction h with
  | done tree => exact .inl rfl
  | @placed before made seen between after path text links goal rest _ hReplaced _ ih =>
      unfold HoldsLast at ih ⊢
      rw [List.reverse_cons, List.lookup_append]
      cases hLater : rest.reverse.lookup location with
      | some later =>
          rw [hLater] at ih
          exact ih
      | none =>
          rw [hLater] at ih
          by_cases hGoal : location = goal
          · subst hGoal
            rw [List.lookup_cons_self]
            obtain hSame | ⟨hNone, _⟩ := ih
            · exact ⟨_, hSame.trans hReplaced.get?_goal⟩
            · cases hNone.symm.trans hReplaced.get?_goal
          · have hOther : (location == goal) = false := by simpa using hGoal
            rw [List.lookup_cons, hOther]
            refine EnlargedAt.trans ?_ ih
            rw [EnlargedAt, hReplaced.get?_of_ne location hGoal]
            exact hReplaced.prepared.enlarged.enlargedAt location
  | refused hRefused _ ih =>
      have hFirst := hRefused.prepared.enlarged.enlargedAt location
      unfold HoldsLast at ih ⊢
      split at ih
      · exact ih
      · exact hFirst.trans ih

/-! ## Atomicity -/

/--
Writing a text to a path happens as a whole or not at all, whichever step is refused. A
write that is refused leaves at most new directories on the way; in the midst of a write
there is one more file besides; and a write that comes to its end has replaced what was
at its goal, and nothing else. What is run is one of these writes, and many of them in a
row leave the last text that was written to each place. All this holds for every system
behind the files.

The path then leads to the text with the bits that it should have exactly if the file
took the place of no link on the way, and the path led to a regular file, to nothing, or
to something with the bits of a new file, when the bits were read.
-/
theorem write_atomic (storage : Storage) (tree : Tree) (path text : String) :
    (∀ after, Refused tree path text after → Prepared tree path after) ∧
    (∀ stage now place,
      Writing.Run path text (.preparing tree) (.scratch stage now place) →
        ∃ made, Prepared tree path made ∧ Beside made now place) ∧
    (∀ after, Done tree path text after → ∃ made seen links goal,
      Replaced tree made seen after path text links goal ∧
      (∃ bits, after.get? goal.dropLast = some (.directory bits)) ∧
      ((∃ location mode, after.find path = .ok (location, .file text.toUTF8 mode) ∧
          Keeps tree seen path mode) ↔
        goal ∉ links ∧ MeetsFile tree seen path)) ∧
    (∀ after failure, tree.writeText storage path text = (after, .error failure) →
      Refused tree path text after) ∧
    (∀ after, tree.writeText storage path text = (after, .ok ()) →
      Done tree path text after) ∧
    (∀ written after, Writes tree written after →
      ∀ location, HoldsLast tree written after location) := by
  refine ⟨fun after hRefused => hRefused.prepared, ?_, ?_,
    fun after failure hRun => refused_of_writeText hRun, fun after hRun => done_of_writeText hRun,
    fun written after hWrites => holds_of_writes hWrites⟩
  · intro stage now place hRun
    obtain ⟨made, hMakes, _, hBeside, _⟩ := Writing.sound_of_run hRun
    exact ⟨made, hMakes.prepared (.refl made), hBeside⟩
  · intro after hDone
    obtain ⟨made, seen, links, goal, hReplaced⟩ := hDone.exists_replaced
    exact ⟨made, seen, links, goal, hReplaced, hReplaced.exists_directory, hReplaced.keeps_iff⟩

section Workplace

open CommandLine (workplace workplaceWith writeText_workplace)

/-- A write that is given up, one that is underway, one that succeeds and one that is refused. -/
theorem write_atomic_workplace :
    Refused workplace "x.js" "text" workplace ∧ Prepared workplace "x.js" workplace ∧
    (∃ now place, Writing.Run "x.js" "text" (.preparing workplace) (.scratch .drafting now place) ∧
      ∃ made, Prepared workplace "x.js" made ∧ Beside made now place) ∧
    workplace.writeText .steady "x.js" "text" = (workplaceWith "text", .ok ()) ∧
    (∃ made seen links goal,
      Replaced workplace made seen (workplaceWith "text") "x.js" "text" links goal ∧
      Writes workplace [(goal, "text")] (workplaceWith "text") ∧
      HoldsLast workplace [(goal, "text")] (workplaceWith "text") goal) ∧
    ∃ failure, workplace.writeText .steady "c.json/x.js" "text" = (workplace, .error failure) ∧
      Refused workplace "c.json/x.js" "text" workplace := by
  obtain ⟨hRefused, hUnderway, hDone, _, hOk, hWrites⟩ :=
    write_atomic .steady workplace "x.js" "text"
  obtain ⟨_, _, _, hError, _, _⟩ := write_atomic .steady workplace "c.json/x.js" "text"
  have hGivenUp : Refused workplace "x.js" "text" workplace :=
    ⟨workplace, .single .giveUp, .refl workplace⟩
  have hCreated : Writing.Run "x.js" "text" (.preparing workplace) (.scratch .drafting
      (workplace.put (["work"] ++ [".tmp" ++ "000000"]) (.file .empty scratchMode))
      (["work"] ++ [".tmp" ++ "000000"])) :=
    .single (.create rfl rfl rfl)
  have hWritten := hOk _ (writeText_workplace "text")
  obtain ⟨made, seen, links, goal, hReplaced, _⟩ := hDone _ hWritten
  have hSequence := Writes.placed hWritten hReplaced (.done _)
  have hFailed : workplace.writeText .steady "c.json/x.js" "text" =
      (workplace, .error (.directory "c.json" .alreadyExists)) := rfl
  exact ⟨hGivenUp, hRefused _ hGivenUp, ⟨_, _, hCreated, hUnderway _ _ _ hCreated⟩,
    writeText_workplace "text",
    ⟨made, seen, links, goal, hReplaced, hSequence, hWrites _ _ hSequence goal⟩,
    _, hFailed, hError _ _ hFailed⟩

/-- A working directory with a link in it that leads to nothing. -/
def danglingLink : Tree :=
  ⟨[(["work"], .directory newDirectoryMode), (["work", "l"], .link "n")], ["work"], []⟩

/--
A directory that is made on the way is what the link leads to when the bits are read, so
a new file gets those of a directory.
-/
theorem not_write_atomic_danglingLink :
    (∀ location content bits, danglingLink.get? location ≠ some (.file content bits)) ∧
      danglingLink.find "n/../l" = .error .notFound ∧
      ∃ after, danglingLink.writeText .steady "n/../l" "x" = (after, .ok ()) ∧
        after.find "n/../l" = .ok (["work", "l"], .file "x".toUTF8 0o755) ∧
        0o755 ≠ newFileMode := by
  have hFind : danglingLink.find "n/../l" = .error .notFound := rfl
  have hWritten : danglingLink.writeText .steady "n/../l" "x" =
      ((danglingLink.put ["work", "n"] (.directory newDirectoryMode)).put ["work", "l"]
        (.file "x".toUTF8 0o755), .ok ()) := by
    have hMade : danglingLink.makeDirectories .steady (Path.directory "n/../l") =
        (danglingLink.put ["work", "n"] (.directory newDirectoryMode), none) := rfl
    have hCreated : (danglingLink.put ["work", "n"] (.directory newDirectoryMode)).createScratch
        .steady (Path.directory "n/../l") =
      .ok ((danglingLink.put ["work", "n"] (.directory newDirectoryMode)).put
        ["work", ".tmp000000"] (.file .empty scratchMode), ["work", ".tmp000000"]) := rfl
    rw [writeText_eq "x" rfl hMade hCreated]
    rfl
  refine ⟨fun location content bits hAt => ?_, hFind, _, hWritten, rfl, by decide⟩
  by_cases hRoot : location = []
  · subst hRoot
    cases hAt
  · have hMem := mem_entries_of_get? hRoot hAt
    simp [danglingLink] at hMem

end Workplace

end Tree

end BlockExtension.Files
