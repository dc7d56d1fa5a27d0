import Mathlib
import BlockExtension.Files.Replace
import BlockExtension.Proofs.Ways

/-!
# Writing step by step

A write takes five steps: directories are made, a file is created beside the place it
goes to, the text is written into it, it gets its permission bits, and it takes its
place. The system may refuse each of them. Then the write gives up, and a file that was
created is taken out again. `Step` tells these steps one by one, whatever name the system
finds for the file that is prepared and however much of the text it takes at a time.

One invariant carries all that is said of a write. Apart from the file that is prepared,
every location holds what it held before, or a directory that was made on the way to the
directory of the path.

## Main results

* `Writing.sound_of_run`: the invariant holds at every moment of every write.
* `Writing.run_writeText`: what is run is one of these writes.
* `Grows.find_eq`: what a path led to it leads to while nothing is taken away.
-/

namespace BlockExtension.Files

namespace Tree

/-! ## Trees that grow -/

/-- Whatever was there is still there. -/
structure Grows (before after : Tree) : Prop where
  workingDirectory_eq : after.workingDirectory = before.workingDirectory
  get?_eq : ∀ location entry, before.get? location = some entry →
    after.get? location = some entry

theorem Grows.refl (tree : Tree) : Grows tree tree := ⟨rfl, fun _ _ h => h⟩

theorem Grows.keptIn {before after : Tree} (h : Grows before after) : KeptIn before after :=
  ⟨h.workingDirectory_eq, fun location entry hAt => .inl (h.get?_eq location entry hAt)⟩

theorem Grows.waysKept {before after : Tree} (h : Grows before after) : WaysKept before after :=
  ⟨h.workingDirectory_eq, fun _ _ hAt => h.get?_eq _ _ hAt, fun _ _ hAt => h.get?_eq _ _ hAt⟩

/-- A location holds what it held, or it held nothing and a directory was made there. -/
def EnlargedAt (before after : Tree) (location : Location) : Prop :=
  after.get? location = before.get? location ∨
    before.get? location = none ∧ after.get? location = some (.directory newDirectoryMode)

theorem EnlargedAt.trans {before after later : Tree} {location : Location}
    (hFirst : EnlargedAt before after location) (hSecond : EnlargedAt after later location) :
    EnlargedAt before later location := by
  obtain hSame | ⟨hNone, hNew⟩ := hSecond
  · rw [EnlargedAt, hSame]
    exact hFirst
  · obtain hBefore | ⟨_, hDirectory⟩ := hFirst
    · exact .inr ⟨hBefore ▸ hNone, hNew⟩
    · rw [hNone] at hDirectory
      cases hDirectory

/-- Whatever was there is still there, and what is new is a directory. -/
structure Enlarged (before after : Tree) : Prop where
  workingDirectory_eq : after.workingDirectory = before.workingDirectory
  enlargedAt : ∀ location, EnlargedAt before after location

theorem Enlarged.refl (tree : Tree) : Enlarged tree tree := ⟨rfl, fun _ => .inl rfl⟩

theorem Enlarged.trans {before after later : Tree} (hFirst : Enlarged before after)
    (hSecond : Enlarged after later) : Enlarged before later :=
  ⟨hSecond.workingDirectory_eq.trans hFirst.workingDirectory_eq,
    fun location => (hFirst.enlargedAt location).trans (hSecond.enlargedAt location)⟩

theorem Enlarged.grows {before after : Tree} (h : Enlarged before after) : Grows before after := by
  refine ⟨h.workingDirectory_eq, fun location entry hAt => ?_⟩
  obtain hSame | ⟨hNone, -⟩ := h.enlargedAt location
  · rw [hSame, hAt]
  · rw [hNone] at hAt
    cases hAt

/-- A directory is made where nothing is. -/
theorem enlarged_makeDirectory {tree made : Tree} {path : String}
    (h : tree.makeDirectory path = .ok made) : Enlarged tree made := by
  unfold makeDirectory at h
  split at h
  · cases h
  · cases h
  · next directory name _ _ =>
      split at h
      · cases h
      · next hNone =>
          split at h
          · cases h
            refine ⟨rfl, fun location => ?_⟩
            by_cases hNew : location = directory ++ [name]
            · subst hNew
              exact .inr ⟨hNone, get?_put_self tree (by simp) _⟩
            · exact .inl (get?_put_of_ne tree hNew _)
          · cases h

/-! ## Lookups in trees that grow -/

namespace Grows

variable {before after : Tree} {following : Following} {location : Location} {target : Target}
  {found : Location × Entry}

/-- What is found where a path has led is found there as the tree grows. -/
theorem arrived_eq (h : Grows before after) (hFound : before.arrived target = .ok found) :
    after.arrived target = .ok found := by
  cases target with
  | directory location =>
      simp only [arrived] at hFound ⊢
      cases hAt : before.get? location with
      | none =>
          rw [hAt] at hFound
          cases hFound
      | some entry =>
          rw [hAt] at hFound
          rw [h.get?_eq location entry hAt]
          exact hFound
  | name directory name slash =>
      simp only [arrived] at hFound ⊢
      cases hAt : before.get? (directory ++ [name]) with
      | none =>
          rw [hAt] at hFound
          cases hFound
      | some entry =>
          rw [hAt] at hFound
          rw [h.get?_eq _ entry hAt]
          exact hFound

/-- A last name that leads to something leads there as the tree grows, if links do. -/
theorem arrive_eq (h : Grows before after) {onLink onLater : String → Except OsError Target}
    (hLink : ∀ path, onLink path = .ok target → onLater path = .ok target) {last : String}
    {slash : Bool} (hArrive : before.arrive following onLink location last slash = .ok target)
    (hFound : before.arrived target = .ok found) :
    after.arrive following onLater location last slash = .ok target := by
  unfold arrive at hArrive ⊢
  split at hArrive
  · cases hArrive
  · next hSearch =>
      rw [h.waysKept.searchError? hSearch]
      simp only
      by_cases hDot : last = "."
      · rw [if_pos hDot] at hArrive ⊢
        exact hArrive
      by_cases hDots : last = ".."
      · rw [if_neg hDot, if_pos hDots] at hArrive ⊢
        exact hArrive
      rw [if_neg hDot, if_neg hDots] at hArrive ⊢
      by_cases hLong : Path.nameLimit < last.utf8ByteSize
      · rw [if_pos hLong] at hArrive
        cases hArrive
      rw [if_neg hLong] at hArrive ⊢
      cases hAt : before.get? (location ++ [last]) with
      | none =>
          rw [hAt] at hArrive
          cases hArrive
          rw [arrived, hAt] at hFound
          cases hFound
      | some entry =>
          rw [hAt] at hArrive
          rw [h.get?_eq _ entry hAt]
          cases entry with
          | link path =>
              simp only at hArrive ⊢
              split_ifs at hArrive ⊢
              · exact hLink path hArrive
              · exact hArrive
          | _ => exact hArrive

/-- Names that lead to something lead there as the tree grows, if links do. -/
theorem lead_eq (h : Grows before after)
    {onward later : Location → List String → Bool → Except OsError Target}
    (hOnward : ∀ location names slash, onward location names slash = .ok target →
      later location names slash = .ok target) {names : List String} {slash : Bool}
    (hLead : before.lead following onward location names slash = .ok target)
    (hFound : before.arrived target = .ok found) :
    after.lead following later location names slash = .ok target := by
  induction names generalizing location with
  | nil => exact hLead
  | cons name rest ih =>
      cases rest with
      | nil => exact h.arrive_eq (fun path hPath => hOnward _ _ _ hPath) hLead hFound
      | cons next rest =>
          rw [lead] at hLead ⊢
          cases hStep : before.step location name with
          | error error =>
              rw [hStep] at hLead
              cases hLead
          | ok step =>
              rw [hStep] at hLead
              rw [h.waysKept.step hStep]
              cases step with
              | directory inner => exact ih hLead
              | link path => exact hOnward _ _ _ hLead

/-- Through a limited number of links, names that lead to something go on to lead there. -/
theorem leadBy_eq (h : Grows before after) {limit : Nat} {names : List String} {slash : Bool}
    (hLead : before.leadBy following limit location names slash = .ok target)
    (hFound : before.arrived target = .ok found) :
    after.leadBy following limit location names slash = .ok target := by
  induction limit generalizing location names slash with
  | zero => exact h.lead_eq (fun _ _ _ hNever => hNever) hLead hFound
  | succ limit ih => exact h.lead_eq (fun _ _ _ hOnward => ih hOnward) hLead hFound

/-- A path that leads to something leads there as the tree grows. -/
theorem find_eq (h : Grows before after) {path : String} (hFind : before.find path = .ok found) :
    after.find path = .ok found := by
  unfold find arriveBy at hFind ⊢
  by_cases hEmpty : path.isEmpty
  · rw [if_pos hEmpty] at hFind
    cases hFind
  by_cases hLong : Path.pathLimit < path.utf8ByteSize
  · rw [if_neg hEmpty, if_pos hLong] at hFind
    cases hFind
  rw [if_neg hEmpty, if_neg hLong] at hFind ⊢
  rw [h.workingDirectory_eq]
  cases hLead : before.leadBy .all linkLimit
      (if Path.isAbsolute path then [] else before.workingDirectory) (Path.names path)
      (Path.endsInSlash path) with
  | error error =>
      simp only [hLead] at hFind
      cases hFind
  | ok target =>
      simp only [hLead] at hFind
      rw [h.leadBy_eq hLead hFind]
      exact h.arrived_eq hFind

end Grows

/-! ## Making directories -/

/-- The paths of the directories that may have to be made for a file. -/
def above (path : String) : List String :=
  Path.chain ((Path.directory path).length + 1) (Path.directory path)

/-- One directory of a list of paths is made. -/
def MakesOne (paths : List String) (tree made : Tree) : Prop :=
  ∃ path ∈ paths, tree.makeDirectory path = .ok made

/-- Some directories of a list of paths are made, one after the other. -/
abbrev Makes (paths : List String) : Tree → Tree → Prop := Relation.ReflTransGen (MakesOne paths)

theorem Makes.enlarged {paths : List String} {tree made : Tree} (h : Makes paths tree made) :
    Enlarged tree made := by
  induction h with
  | refl => exact .refl tree
  | tail _ hOne ih =>
      obtain ⟨path, _, hMade⟩ := hOne
      exact ih.trans (enlarged_makeDirectory hMade)

/-- A directory is made where its path leads, and there it is found as long as it stays. -/
theorem find_of_makeDirectory {tree made later : Tree} {path : String}
    (h : tree.makeDirectory path = .ok made) (hLater : Enlarged made later) :
    ∃ location, (∀ other, other ≠ location → made.get? other = tree.get? other) ∧
      later.find path = .ok (location, .directory newDirectoryMode) := by
  have hKept := ((enlarged_makeDirectory h).trans hLater).grows.waysKept
  unfold makeDirectory at h
  split at h
  · cases h
  · cases h
  · next directory name slash hTarget =>
      split at h
      · cases h
      · split at h
        · cases h
          refine ⟨directory ++ [name], fun other hOther => get?_put_of_ne tree hOther _, ?_⟩
          refine find_of_target hTarget hKept (hLater.grows.get?_eq _ _ ?_)
          exact get?_put_self tree (by simp) _
        · cases h

/--
What was made is found by one of the paths. The induction goes from the end backwards, so
that each directory is looked up in the same later tree.
-/
theorem Makes.exists_path {paths : List String} {tree made later : Tree}
    (h : Makes paths tree made) (hLater : Enlarged made later) {location : Location}
    (hNone : tree.get? location = none) (hNew : made.get? location ≠ none) :
    ∃ path ∈ paths, later.find path = .ok (location, .directory newDirectoryMode) := by
  induction h using Relation.ReflTransGen.head_induction_on with
  | refl => exact absurd hNone hNew
  | @head tree next hOne hRest ih =>
      obtain ⟨path, hMem, hMade⟩ := hOne
      obtain ⟨place, hOther, hFind⟩ :=
        find_of_makeDirectory hMade ((Makes.enlarged hRest).trans hLater)
      by_cases hSame : location = place
      · exact ⟨path, hMem, hSame ▸ hFind⟩
      · exact ih ((hOther location hSame).trans hNone)

theorem isDirectory_iff {tree : Tree} {path : String} : tree.isDirectory path ↔
    ∃ location bits, tree.find path = .ok (location, .directory bits) := by
  unfold isDirectory
  rcases tree.find path with error | ⟨location, _ | _ | _ | _⟩ <;> simp

/-- The first of a chain of directories is there once the chain is made. -/
theorem isDirectory_of_makeChain {storage : Storage} {tree made : Tree} {path : String}
    {rest : List String} (h : tree.makeChain storage (path :: rest) = (made, none)) :
    made.isDirectory path := by
  have hMade {before : Tree} (hOne : before.requestDirectory storage path = .ok made) :
      made.isDirectory path := by
    obtain ⟨location, _, hFind⟩ :=
      find_of_makeDirectory (Storage.eq_ok_of_ask hOne) (.refl made)
    rw [isDirectory, hFind]
  unfold makeChain at h
  split at h
  · next hOne =>
      cases h
      exact hMade hOne
  · split at h
    · cases h
    · split at h
      · next hOne =>
          cases h
          exact hMade hOne
      · split at h
        · next hThere =>
            cases h
            exact hThere
        · cases h
  · split at h
    · next hThere =>
        cases h
        exact hThere
    · cases h

/-- A chain of directories is made one by one, as far as it goes. -/
theorem makes_makeChain (storage : Storage) (tree : Tree) (paths : List String) :
    Makes paths tree (tree.makeChain storage paths).1 := by
  induction paths generalizing tree with
  | nil => exact .refl
  | cons path rest ih =>
      have hRest : Makes (path :: rest) tree (tree.makeChain storage rest).1 :=
        Relation.ReflTransGen.mono
          (fun _ _ ⟨other, hMem, hMade⟩ => ⟨other, List.mem_cons_of_mem _ hMem, hMade⟩) _ _
          (ih tree)
      have hFirst {before made : Tree} (hMade : before.requestDirectory storage path = .ok made) :
          MakesOne (path :: rest) before made :=
        ⟨path, List.mem_cons_self .., Storage.eq_ok_of_ask hMade⟩
      unfold makeChain
      split
      · next made hMade => exact .single (hFirst hMade)
      · split
        · next grown _ hChain =>
            rw [hChain] at hRest
            exact hRest
        · next grown hChain =>
            rw [hChain] at hRest
            split
            · next made hMade => exact hRest.tail (hFirst hMade)
            · split <;> exact hRest
      · split <;> exact .refl

/-! ## Trees that agree -/

/-- Two trees that hold the same at every location. -/
structure Agrees (first second : Tree) : Prop where
  workingDirectory_eq : second.workingDirectory = first.workingDirectory
  get?_eq : ∀ location, second.get? location = first.get? location

namespace Agrees

variable {first second : Tree}

theorem refl (tree : Tree) : Agrees tree tree := ⟨rfl, fun _ => rfl⟩

theorem enlarged (h : Agrees first second) : Enlarged first second :=
  ⟨h.workingDirectory_eq, fun location => .inl (h.get?_eq location)⟩

end Agrees

/-- Where an entry was taken out, nothing is left. -/
theorem get?_erase_self (tree : Tree) {location : Location} (h : location ≠ []) :
    (tree.erase location).get? location = none := by
  simp [get?, erase, h]

/-- Every other location holds what it held. -/
theorem get?_erase_of_ne (tree : Tree) {location other : Location} (h : other ≠ location) :
    (tree.erase location).get? other = tree.get? other := by
  unfold get? erase
  split
  · rfl
  · exact Association.lookup_erase_of_ne _ h

/-! ## Names that are new -/

def namesSaid (entry : Location × Entry) : List String :=
  entry.1 ++ match entry.2 with
    | .link path => Path.names path
    | _ => []

/-- The names that a tree and a path say. -/
def heard (tree : Tree) (path : String) : List String :=
  tree.workingDirectory ++ Path.names path ++ tree.entries.flatMap namesSaid

/-- There is always another name: one that is longer than all the names together. -/
theorem exists_notMem_names (names : List String) : ∃ name, name ∉ names := by
  refine ⟨String.ofList (List.replicate ((names.map String.length).sum + 1) '0'), fun hMem => ?_⟩
  have hLength := List.le_sum_of_mem (List.mem_map_of_mem (f := String.length) hMem)
  rw [String.length_ofList, List.length_replicate] at hLength
  omega

theorem mem_entries_of_get? {tree : Tree} {location : Location} {entry : Entry}
    (hRoot : location ≠ []) (h : tree.get? location = some entry) :
    (location, entry) ∈ tree.entries := by
  rw [get?, if_neg hRoot, List.lookup_eq_some_iff] at h
  obtain ⟨front, back, hEntries, _⟩ := h
  simp [hEntries]

section Heard

variable {tree : Tree} {path name : String} {location : Location}

theorem notMem_namesSaid (h : name ∉ heard tree path) {entry : Entry} (hRoot : location ≠ [])
    (hAt : tree.get? location = some entry) : name ∉ namesSaid (location, entry) := by
  intro hMem
  refine h (List.mem_append_right _ (List.mem_flatMap.2 ⟨_, ?_, hMem⟩))
  exact mem_entries_of_get? hRoot hAt

/-- Trees that differ only where a name is that was not heard are alike for lookups. -/
theorem unheard_of_not_heard {after : Tree} (h : name ∉ heard tree path)
    (hDirectory : after.workingDirectory = tree.workingDirectory)
    (hSame : ∀ location, name ∉ location → after.get? location = tree.get? location) :
    Unheard name tree after where
  workingDirectory_eq := hDirectory
  notMem_workingDirectory hMem := h (by simp [heard, hMem])
  get?_eq := hSame
  notMem_link location link _ hAt hMem := by
    by_cases hRoot : location = []
    · subst hRoot
      cases hAt
    · exact notMem_namesSaid h hRoot hAt (List.mem_append_right _ hMem)

theorem notMem_names (h : name ∉ heard tree path) : name ∉ Path.names path :=
  fun hMem => h (by simp [heard, hMem])

end Heard

/-- Trees that agree are alike for lookups. -/
theorem Agrees.lookups_eq {first second : Tree} (h : Agrees first second) (path : String) :
    second.target path = first.target path ∧ second.find path = first.find path := by
  obtain ⟨name, hNew⟩ := exists_notMem_names (heard first path)
  have hUnheard := unheard_of_not_heard hNew h.workingDirectory_eq fun location _ =>
    h.get?_eq location
  exact ⟨hUnheard.target_eq (notMem_names hNew), hUnheard.find_eq (notMem_names hNew)⟩

theorem Agrees.find_eq {first second : Tree} (h : Agrees first second) (path : String) :
    second.find path = first.find path := (h.lookups_eq path).2

/-! ## A file beside the others -/

/--
A tree is another one but for what is at a place where that one holds nothing. It is what a
tree is to itself while a file is prepared in it.
-/
structure Beside (made tree : Tree) (place : Location) : Prop where
  workingDirectory_eq : tree.workingDirectory = made.workingDirectory
  place_ne_nil : place ≠ []
  new : made.get? place = none
  get?_of_ne : ∀ other, other ≠ place → tree.get? other = made.get? other

namespace Beside

variable {made tree : Tree} {place : Location}

/-- Whatever is written at the place, nothing else changes. -/
theorem put (h : Beside made tree place) (entry : Entry) :
    Beside made (tree.put place entry) place where
  workingDirectory_eq := h.workingDirectory_eq
  place_ne_nil := h.place_ne_nil
  new := h.new
  get?_of_ne other hOther := (get?_put_of_ne tree hOther entry).trans (h.get?_of_ne other hOther)

/-- Without what is at the place, the tree is the other one. -/
theorem agrees_erase (h : Beside made tree place) : Agrees made (tree.erase place) := by
  refine ⟨h.workingDirectory_eq, fun location => ?_⟩
  by_cases hSame : location = place
  · rw [hSame, get?_erase_self tree h.place_ne_nil, h.new]
  · rw [get?_erase_of_ne tree hSame, h.get?_of_ne location hSame]

theorem of_agrees {other : Tree} (h : Beside made tree place) (hAgrees : Agrees made other) :
    Beside other tree place where
  workingDirectory_eq := h.workingDirectory_eq.trans hAgrees.workingDirectory_eq.symm
  place_ne_nil := h.place_ne_nil
  new := (hAgrees.get?_eq place).trans h.new
  get?_of_ne location hOther :=
    (h.get?_of_ne location hOther).trans (hAgrees.get?_eq location).symm

end Beside

/-- A file that is created where nothing is stands beside the others. -/
theorem beside_put {made : Tree} {directory : Location} {name : String}
    (hNew : made.get? (directory ++ [name]) = none) (entry : Entry) :
    Beside made (made.put (directory ++ [name]) entry) (directory ++ [name]) where
  workingDirectory_eq := rfl
  place_ne_nil := by simp
  new := hNew
  get?_of_ne _ hOther := get?_put_of_ne made hOther entry

/-! ## The steps of a write -/

/-- How far a file is that is prepared. -/
inductive Stage where
  /-- It holds a part of the text at most. -/
  | drafting
  | complete
  /-- It holds the text and has its permission bits. -/
  | sealed
  deriving DecidableEq, Repr

/--
Where a write stands. As long as directories are made there is no file; then there is one
beside the others; in the end it has its place, or it is gone.
-/
inductive Writing where
  | preparing (tree : Tree)
  /-- A file is prepared at a place beside the others. -/
  | scratch (stage : Stage) (tree : Tree) (place : Location)
  | placed (tree : Tree)
  | refused (tree : Tree)

namespace Writing

/--
One step of writing a text to a path. Until the file has its place the write may give up at
any time, and then a file that was prepared is taken out.
-/
inductive Step (path text : String) : Writing → Writing → Prop
  | makeDirectory {tree made : Tree} (h : MakesOne (above path) tree made) :
      Step path text (.preparing tree) (.preparing made)
  /-- An empty file is created in the directory of the path, with a name that is new there. -/
  | create {tree : Tree} {directory : Location} {bits : Nat} {suffix : String}
      (hFind : tree.find (Path.directory path) = .ok (directory, .directory bits))
      (hOpen : tree.isOpen directory)
      (hNew : tree.get? (directory ++ [scratchPrefix ++ suffix]) = none) :
      Step path text (.preparing tree)
        (.scratch .drafting
          (tree.put (directory ++ [scratchPrefix ++ suffix]) (.file .empty scratchMode))
          (directory ++ [scratchPrefix ++ suffix]))
  | writePart {tree : Tree} {place : Location} {part rest : ByteArray}
      (h : text.toUTF8 = part ++ rest) :
      Step path text (.scratch .drafting tree place)
        (.scratch .drafting (tree.put place (.file part scratchMode)) place)
  | writeAll {tree : Tree} {place : Location} :
      Step path text (.scratch .drafting tree place)
        (.scratch .complete (tree.put place (.file text.toUTF8 scratchMode)) place)
  /-- The file gets the permission bits of what the path leads to. -/
  | setMode {tree : Tree} {place : Location} :
      Step path text (.scratch .complete tree place)
        (.scratch .sealed (tree.put place (.file text.toUTF8 (tree.modeFor path))) place)
  | rename {tree after : Tree} {place : Location} {content : ByteArray} {mode : Nat}
      (hAt : tree.get? place = some (.file content mode))
      (h : (tree.erase place).place path content mode = .ok after) :
      Step path text (.scratch .sealed tree place) (.placed after)
  /-- A directory or the file to prepare cannot be made. -/
  | giveUp {tree : Tree} : Step path text (.preparing tree) (.refused tree)
  /-- A later step is refused, and the file that was prepared is taken out. -/
  | drop {stage : Stage} {tree : Tree} {place : Location} :
      Step path text (.scratch stage tree place) (.refused (tree.erase place))

/-- Any number of steps. -/
abbrev Run (path text : String) : Writing → Writing → Prop :=
  Relation.ReflTransGen (Step path text)

end Writing

/-! ## What a write leaves -/

/--
Whatever was there is still there, and what is new are directories on the way to the
directory of a path.
-/
structure Prepared (before : Tree) (path : String) (after : Tree) : Prop where
  enlarged : Enlarged before after
  exists_path : ∀ location, before.get? location = none → after.get? location ≠ none →
    ∃ directory ∈ above path, after.find directory = .ok (location, .directory newDirectoryMode)

theorem Makes.prepared {before made later : Tree} {path : String}
    (h : Makes (above path) before made) (hAgrees : Agrees made later) :
    Prepared before path later := by
  refine ⟨h.enlarged.trans hAgrees.enlarged, fun location hNone hNew => ?_⟩
  rw [hAgrees.get?_eq] at hNew
  exact h.exists_path hAgrees.enlarged hNone hNew

/--
A file with a text has taken the place that its path led to through links at a list of
locations, once the directories were made. It has the permission bits of what the path
led to when it was seen beside the file that was prepared.
-/
structure Replaced (before made seen after : Tree) (path text : String) (links : List Location)
    (goal : Location) : Prop where
  prepared : Prepared before path made
  /-- The directory of the path is there. -/
  parent : made.isDirectory (Path.directory path)
  /-- The tree in which the permission bits were read has one more file. -/
  beside : ∃ place, Beside made seen place
  leads : made.LeadsTo path links goal
  not_directory : ∀ bits, made.get? goal ≠ some (.directory bits)
  workingDirectory_eq : after.workingDirectory = made.workingDirectory
  get?_goal : after.get? goal = some (.file text.toUTF8 (seen.modeFor path))
  get?_of_ne : ∀ other, other ≠ goal → after.get? other = made.get? other

namespace Replaced

variable {before made seen after : Tree} {path text : String} {links : List Location}
  {goal : Location}

theorem keptIn (h : Replaced before made seen after path text links goal) : KeptIn made after := by
  refine ⟨h.workingDirectory_eq, fun location entry hAt => ?_⟩
  by_cases hSame : location = goal
  · subst hSame
    refine .inr ⟨?_, _, _, h.get?_goal⟩
    cases entry with
    | directory bits => exact absurd hAt (h.not_directory bits)
    | _ => rfl
  · exact .inl ((h.get?_of_ne location hSame).trans hAt)

end Replaced

/-! ## The invariant of a write -/

namespace Writing

/--
What is known at every moment of a write. Nothing that was there has changed, apart from
what the last step replaces.
-/
def Sound (before : Tree) (path text : String) : Writing → Prop
  | .preparing tree => Makes (above path) before tree
  | .scratch stage tree place => ∃ made, Makes (above path) before made ∧
      made.isDirectory (Path.directory path) ∧ Beside made tree place ∧
      (stage = .sealed → ∃ seen, Beside made seen place ∧
        tree.get? place = some (.file text.toUTF8 (seen.modeFor path)))
  | .placed after => ∃ made seen links goal,
      Replaced before made seen after path text links goal ∧
        ∃ mode, after = made.put goal (.file text.toUTF8 mode)
  | .refused after => Prepared before path after

variable {before : Tree} {path text : String} {state next : Writing}

/--
No step breaks the invariant. When the file takes its place, the tree without the file that
was prepared is the one that this file was created in.
-/
theorem Sound.step (h : state.Sound before path text) (hStep : Step path text state next) :
    next.Sound before path text := by
  cases hStep with
  | makeDirectory hOne => exact Relation.ReflTransGen.tail h hOne
  | create hFind hOpen hNew =>
      refine ⟨_, h, ?_, beside_put hNew _, nofun⟩
      rw [isDirectory, hFind]
  | writePart hPart =>
      obtain ⟨made, hMakes, hParent, hBeside, _⟩ := h
      exact ⟨made, hMakes, hParent, hBeside.put _, nofun⟩
  | writeAll =>
      obtain ⟨made, hMakes, hParent, hBeside, _⟩ := h
      exact ⟨made, hMakes, hParent, hBeside.put _, nofun⟩
  | @setMode tree place =>
      obtain ⟨made, hMakes, hParent, hBeside, _⟩ := h
      refine ⟨made, hMakes, hParent, hBeside.put _, fun _ => ⟨tree, hBeside, ?_⟩⟩
      exact get?_put_self tree hBeside.place_ne_nil _
  | @rename tree after place content mode hAt hPlace =>
      obtain ⟨made, hMakes, hParent, hBeside, hSealed⟩ := h
      obtain ⟨seen, hSeen, hFile⟩ := hSealed rfl
      cases hAt.symm.trans hFile
      have hAgrees := hBeside.agrees_erase
      obtain ⟨directory, name, hTarget, hPlain, rfl⟩ := exists_put_of_place hPlace
      obtain ⟨links, hLeads⟩ := exists_leadsTo hTarget
      exact ⟨tree.erase place, seen, links, directory ++ [name],
        { prepared := hMakes.prepared hAgrees
          parent := by rwa [isDirectory, hAgrees.find_eq]
          beside := ⟨place, hSeen.of_agrees hAgrees⟩
          leads := hLeads
          not_directory := hPlain
          workingDirectory_eq := rfl
          get?_goal := get?_put_self _ (by simp) _
          get?_of_ne := fun other hOther => get?_put_of_ne _ hOther _ }, _, rfl⟩
  | giveUp => exact Makes.prepared h (.refl _)
  | drop =>
      obtain ⟨made, hMakes, _, hBeside, _⟩ := h
      exact hMakes.prepared hBeside.agrees_erase

/-- The invariant holds at every moment of every write. -/
theorem sound_of_run (h : Run path text (.preparing before) state) :
    state.Sound before path text := by
  induction h with
  | refl => exact Relation.ReflTransGen.refl
  | tail _ hStep ih => exact ih.step hStep

end Writing

/-! ## What is run -/

/-- A file is always in some directory by its path. -/
theorem isEmpty_directory (path : String) : (Path.directory path).isEmpty = false := by
  unfold Path.directory
  split
  · rfl
  · rfl
  · next parent hNotEmpty _ => simpa using hNotEmpty

/-- The chain of the directories to make begins with that of the path. -/
theorem exists_above_eq (path : String) :
    ∃ rest, above path = Path.directory path :: rest := by
  rw [above, Path.chain, isEmpty_directory]
  exact ⟨_, rfl⟩

def Writing.ended : Tree × Except WriteFailure Unit → Writing
  | (tree, .ok ()) => .placed tree
  | (tree, .error _) => .refused tree

namespace Writing

variable {storage : Storage} {tree made : Tree} {path text : String}

/-- The directories of a path are made step by step. -/
theorem run_makeDirectories {error : Option OsError}
    (h : tree.makeDirectories storage (Path.directory path) = (made, error)) :
    Run path text (.preparing tree) (.preparing made) := by
  have hMakes := makes_makeChain storage tree (above path)
  rw [makeDirectories] at h
  rw [above, h] at hMakes
  exact hMakes.lift Writing.preparing fun _ _ hOne => .makeDirectory hOne

/-- The file to prepare is created in the directory that was made. -/
theorem step_createScratch {scratch : Tree} {place : Location}
    (hMade : tree.makeDirectories storage (Path.directory path) = (made, none))
    (h : made.createScratch storage (Path.directory path) = .ok (scratch, place)) :
    place ≠ [] ∧ Step path text (.preparing made) (.scratch .drafting scratch place) := by
  obtain ⟨rest, hAbove⟩ := exists_above_eq path
  have hChain : tree.makeChain storage (Path.directory path :: rest) = (made, none) := by
    rw [← hAbove]
    exact hMade
  obtain ⟨location, bits, hFind⟩ := isDirectory_iff.1 (isDirectory_of_makeChain hChain)
  replace h := Storage.eq_ok_of_ask h
  rw [hFind] at h
  simp only at h
  split at h
  · cases h
  · next hOpen =>
      split at h
      · cases h
      · next hNew =>
          cases h
          exact ⟨by simp,
            .create hFind (by simpa using hOpen) (Option.not_isSome_iff_eq_none.1 hNew)⟩

/-- A file that was created is filled and moved step by step, or taken out again. -/
theorem run_fillAndMove {place : Location} (hPlace : place ≠ []) (prepared : String) :
    Run path text (.scratch .drafting tree place)
      (ended (tree.fillAndMove storage place prepared path text)) := by
  unfold fillAndMove
  split
  · exact .single .drop
  · next filled hFilled =>
      cases Storage.eq_ok_of_ask hFilled
      refine .trans (.single .writeAll) ?_
      simp only
      split
      · exact .single .drop
      · next sealed hSealed =>
          cases Storage.eq_ok_of_ask hSealed
          refine .trans (.single .setMode) ?_
          split
          · exact .single .drop
          · next moved hMoved =>
              exact .single (.rename (get?_put_self _ hPlace _) (Storage.eq_ok_of_ask hMoved))

/-- What is run is a write that takes its place or is refused. -/
theorem run_writeText (storage : Storage) (tree : Tree) (path text : String) :
    Run path text (.preparing tree) (ended (tree.writeText storage path text)) := by
  simp only [writeText]
  split
  · exact .single .giveUp
  · split
    · next hMade => exact (run_makeDirectories hMade).tail .giveUp
    · next made hMade =>
        refine (run_makeDirectories hMade).trans ?_
        split
        · exact .single .giveUp
        · next scratch place hCreated =>
            obtain ⟨hPlace, hStep⟩ := step_createScratch hMade hCreated
            exact .trans (.single hStep) (run_fillAndMove hPlace _)

end Writing

end Tree

end BlockExtension.Files
