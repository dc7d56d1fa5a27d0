import BlockExtension.Files.Lookup

/-!
# The ways that paths take

A lookup says where a path leads, and not by which way. Here the way is told: the
directories that the names of the path lead through, the links that stand for other
names, and at the end the last name in its directory, which is not followed.

The way decides what becomes of a path when the tree changes. As long as directories
stay and nothing is changed but into a file, there are two cases only. Either all the
links on the way are still there, and the path leads to where it led before; or one of
them has become a file, and the path leads nowhere.

## Main results

* `Tree.exists_leads`: what a lookup finds, it finds by a way.
* `Tree.Leads.leadBy_eq`: while the links on the way stay, the path leads to its goal.
* `Tree.Leads.blocked`: when a link on the way has become a file, it leads nowhere.
* `Tree.Leads.transfer`, `Tree.find_of_target`: a way depends on the directories and the
  links of a tree only.
* `Tree.Unheard.find_eq`: a lookup does not see what has a name that nobody says.
-/

namespace BlockExtension.Files

def Target.location : Target → Location
  | .directory location => location
  | .name above last _ => above ++ [last]

namespace Tree

/-! ## One level of a lookup -/

/-- Names can be looked up where there is a directory that may be searched. -/
theorem searchError?_eq_none_iff {tree : Tree} {location : Location} :
    tree.searchError? location = none ↔ ∃ mode, tree.get? location = some (.directory mode) ∧
      (Entry.directory mode).isExecutable := by
  unfold searchError?
  rcases tree.get? location with _ | _ | _ | _ | _ <;> simp

section Levels

variable (tree : Tree) (following : Following)

theorem leadBy_last (links : Nat) (location : Location) (last : String) (slash : Bool) :
    ∃ onLink, tree.leadBy following links location [last] slash =
      tree.arrive following onLink location last slash := by
  cases links <;> exact ⟨_, rfl⟩

/-- A name with more behind it leads to a directory or puts other names in its place. -/
theorem leadBy_cons (links : Nat) (location : Location) (name next : String)
    (rest : List String) (slash : Bool) :
    tree.leadBy following links location (name :: next :: rest) slash =
      match tree.step location name with
      | .error error => .error error
      | .ok (.directory inner) => tree.leadBy following links inner (next :: rest) slash
      | .ok (.link path) =>
          match links with
          | 0 => .error .tooManyLinks
          | links + 1 =>
              tree.leadBy following links (lead.start location path)
                (Path.names path ++ next :: rest) slash := by
  cases hStep : tree.step location name with
  | error error => cases links <;> simp only [leadBy, lead, hStep]
  | ok step => cases step <;> cases links <;> simp only [leadBy, lead, hStep]

end Levels

/--
A last name that a lookup can end with: its directory can be searched, and the name is
neither `.` nor `..` nor too long.
-/
structure Final (tree : Tree) (location : Location) (last : String) : Prop where
  searchable : tree.searchError? location = none
  not_dot : last ≠ "."
  not_dots : last ≠ ".."
  short : ¬ Path.nameLimit < last.utf8ByteSize

/-- A last name that is not that of a link is where the lookup ends. -/
theorem arrive_eq_name {tree : Tree} {following : Following}
    {onLink : String → Except OsError Target} {location : Location} {last : String} {slash : Bool}
    (h : tree.Final location last)
    (hLink : ∀ path, tree.get? (location ++ [last]) ≠ some (.link path)) :
    tree.arrive following onLink location last slash = .ok (.name location last slash) := by
  rw [arrive, h.searchable]
  dsimp only
  rw [if_neg h.not_dot, if_neg h.not_dots, if_neg h.short]
  split
  · next path hPath => exact absurd hPath (hLink path)
  · rfl

/-- A lookup that does not follow its last name ends with that name. -/
theorem final_of_arrive {tree : Tree} {onLink : String → Except OsError Target}
    {location directory : Location} {last name : String} {slash flag : Bool}
    (h : tree.arrive .none onLink location last slash = .ok (.name directory name flag)) :
    tree.Final location last ∧ directory = location ∧ name = last ∧ flag = slash := by
  unfold arrive at h
  split at h
  · cases h
  · next hSearch =>
      split at h
      · cases h
      · next hDot =>
          split at h
          · cases h
          · next hDots =>
              split at h
              · cases h
              · next hShort =>
                  have hEnd : Except.ok (Target.name location last slash) =
                      (.ok (.name directory name flag) : Except OsError Target) := by
                    split at h <;> exact h
                  cases hEnd
                  exact ⟨⟨hSearch, hDot, hDots, hShort⟩, rfl, rfl, rfl⟩

/-! ## Ways -/

/--
The way from a directory along names to the last of them in its directory, through
links at a list of locations.
-/
inductive Leads (tree : Tree) :
    Location → List String → List Location → Location → String → Prop
  | last {location : Location} {last : String} (h : tree.Final location last) :
      Leads tree location [last] [] location last
  | directory {location inner directory : Location} {name next last : String}
      {rest : List String} {links : List Location}
      (hStep : tree.step location name = .ok (.directory inner))
      (hRest : Leads tree inner (next :: rest) links directory last) :
      Leads tree location (name :: next :: rest) links directory last
  | link {location directory : Location} {name next path last : String}
      {rest : List String} {links : List Location}
      (hStep : tree.step location name = .ok (.link path))
      (hRest : Leads tree (lead.start location path) (Path.names path ++ next :: rest) links
        directory last) :
      Leads tree location (name :: next :: rest) ((location ++ [name]) :: links) directory last

/--
What a lookup finds that does not follow the last name, it finds by a way. Each link on it
is one less that the path may lead through.
-/
theorem exists_leads {tree : Tree} {limit : Nat} {location directory : Location}
    {names : List String} {last : String} {slash flag : Bool}
    (h : tree.leadBy .none limit location names slash = .ok (.name directory last flag)) :
    flag = slash ∧
      ∃ links, links.length ≤ limit ∧ tree.Leads location names links directory last := by
  induction limit using Nat.strongRecOn generalizing location names with
  | ind limit ihLimit =>
  induction names generalizing location with
  | nil => cases limit <;> cases h
  | cons name names ih =>
      cases names with
      | nil =>
          obtain ⟨onLink, hArrive⟩ := leadBy_last tree .none limit location name slash
          obtain ⟨hFinal, rfl, rfl, rfl⟩ := final_of_arrive (hArrive.symm.trans h)
          exact ⟨rfl, [], Nat.zero_le _, .last hFinal⟩
      | cons next rest =>
          rw [leadBy_cons] at h
          cases hStep : tree.step location name with
          | error error =>
              rw [hStep] at h
              cases h
          | ok step =>
              rw [hStep] at h
              cases step with
              | directory inner =>
                  obtain ⟨hFlag, links, hFew, hLeads⟩ := ih h
                  exact ⟨hFlag, links, hFew, .directory hStep hLeads⟩
              | link path =>
                  cases limit with
                  | zero => cases h
                  | succ limit =>
                      obtain ⟨hFlag, links, hFew, hLeads⟩ := ihLimit limit (Nat.lt_succ_self _) h
                      exact ⟨hFlag, _ :: links, Nat.succ_le_succ hFew, .link hStep hLeads⟩

/-! ## What becomes of a way -/

/--
Directories stay, and whatever else is there stays or becomes a file. This is all that a
write ever does to what was there.
-/
structure KeptIn (before after : Tree) : Prop where
  workingDirectory_eq : after.workingDirectory = before.workingDirectory
  get?_eq : ∀ location entry, before.get? location = some entry →
    after.get? location = some entry ∨
      entry.isDirectory = false ∧ ∃ content mode, after.get? location = some (.file content mode)

namespace KeptIn

variable {before after later : Tree}

theorem refl (tree : Tree) : KeptIn tree tree := ⟨rfl, fun _ _ h => .inl h⟩

theorem trans (hFirst : KeptIn before after) (hSecond : KeptIn after later) :
    KeptIn before later where
  workingDirectory_eq := hSecond.workingDirectory_eq.trans hFirst.workingDirectory_eq
  get?_eq location entry h := by
    rcases hFirst.get?_eq location entry h with hSame | ⟨hPlain, content, mode, hFile⟩
    · exact hSecond.get?_eq location entry hSame
    · rcases hSecond.get?_eq location _ hFile with hFile | ⟨_, hFile⟩
      · exact .inr ⟨hPlain, content, mode, hFile⟩
      · exact .inr ⟨hPlain, hFile⟩

/-- A directory stays one. -/
theorem get?_directory (h : KeptIn before after) {location : Location} {mode : Nat}
    (hAt : before.get? location = some (.directory mode)) :
    after.get? location = some (.directory mode) := by
  rcases h.get?_eq location _ hAt with hSame | ⟨hPlain, _⟩
  · exact hSame
  · cases hPlain

theorem searchError? (h : KeptIn before after) {location : Location}
    (hSearch : before.searchError? location = none) : after.searchError? location = none := by
  obtain ⟨mode, hAt, hOpen⟩ := searchError?_eq_none_iff.1 hSearch
  exact searchError?_eq_none_iff.2 ⟨mode, h.get?_directory hAt, hOpen⟩

end KeptIn

/-- What a name leads to that more names are behind. -/
theorem step_eq_ok_iff {tree : Tree} {location : Location} {name : String} {step : Step} :
    tree.step location name = .ok step ↔ tree.searchError? location = none ∧
      (name = "." ∧ step = .directory location ∨
        name = ".." ∧ step = .directory location.dropLast ∨
        tree.Final location name ∧
          ((∃ mode, tree.get? (location ++ [name]) = some (.directory mode)) ∧
              step = .directory (location ++ [name]) ∨
            ∃ path, tree.get? (location ++ [name]) = some (.link path) ∧ step = .link path)) := by
  unfold Tree.step
  cases hSearch : tree.searchError? location with
  | some error => simp
  | none =>
      by_cases hDot : name = "."
      · subst hDot
        have hNot : ¬ tree.Final location "." := fun h => h.not_dot rfl
        simp [hNot, eq_comm]
      by_cases hDots : name = ".."
      · subst hDots
        have hNot : ¬ tree.Final location ".." := fun h => h.not_dots rfl
        simp [hNot, eq_comm]
      by_cases hShort : Path.nameLimit < name.utf8ByteSize
      · have hNot : ¬ tree.Final location name := fun h => h.short hShort
        simp [hDot, hDots, hShort, hNot]
      · have hFinal : tree.Final location name := ⟨hSearch, hDot, hDots, hShort⟩
        simp only [hDot, hDots, hShort, hFinal, if_false, false_and, false_or, true_and]
        rcases tree.get? (location ++ [name]) with _ | _ | _ | _ | _ <;> simp [eq_comm]

namespace KeptIn

variable {before after : Tree} {location : Location} {name : String}

theorem final (h : KeptIn before after) (hFinal : before.Final location name) :
    after.Final location name :=
  ⟨h.searchError? hFinal.searchable, hFinal.not_dot, hFinal.not_dots, hFinal.short⟩

/-- A step to a directory is taken as before. -/
theorem step_directory (h : KeptIn before after) {inner : Location}
    (hStep : before.step location name = .ok (.directory inner)) :
    after.step location name = .ok (.directory inner) := by
  rw [step_eq_ok_iff] at hStep ⊢
  obtain ⟨hSearch, hDot | hDots | ⟨hFinal, ⟨⟨mode, hAt⟩, hInner⟩ | ⟨path, _, hLink⟩⟩⟩ := hStep
  · exact ⟨h.searchError? hSearch, .inl hDot⟩
  · exact ⟨h.searchError? hSearch, .inr (.inl hDots)⟩
  · exact ⟨h.searchError? hSearch,
      .inr (.inr ⟨h.final hFinal, .inl ⟨⟨mode, h.get?_directory hAt⟩, hInner⟩⟩)⟩
  · cases hLink

/-- A step over a link is taken as before, or it cannot be taken any more. -/
theorem step_link (h : KeptIn before after) {path : String}
    (hStep : before.step location name = .ok (.link path)) :
    before.get? (location ++ [name]) = some (.link path) ∧
      (after.get? (location ++ [name]) = some (.link path) ∧
          after.step location name = .ok (.link path) ∨
        after.get? (location ++ [name]) ≠ some (.link path) ∧
          after.step location name = .error .notDirectory) := by
  rw [step_eq_ok_iff] at hStep
  obtain ⟨hSearch, ⟨_, hLink⟩ | ⟨_, hLink⟩ | ⟨hFinal, ⟨_, hLink⟩ | ⟨_, hAt, hLink⟩⟩⟩ := hStep
  · cases hLink
  · cases hLink
  · cases hLink
  · cases hLink
    refine ⟨hAt, ?_⟩
    rcases h.get?_eq _ _ hAt with hSame | ⟨_, content, mode, hFile⟩
    · refine .inl ⟨hSame, step_eq_ok_iff.2 ⟨h.searchError? hSearch, .inr (.inr ?_)⟩⟩
      exact ⟨h.final hFinal, .inr ⟨path, hSame, rfl⟩⟩
    · refine .inr ⟨by simp [hFile], ?_⟩
      rw [Tree.step, h.searchError? hSearch, hFile]
      simp [hFinal.not_dot, hFinal.not_dots, hFinal.short]

end KeptIn

namespace Leads

variable {before after : Tree} {location directory : Location} {names : List String}
  {links : List Location} {last : String}

/-- Links are on the way. -/
theorem get?_link (h : before.Leads location names links directory last) :
    ∀ place ∈ links, ∃ path, before.get? place = some (.link path) := by
  induction h with
  | last _ => simp
  | directory _ _ ih => exact ih
  | link hStep _ ih =>
      exact List.forall_mem_cons.2 ⟨⟨_, ((KeptIn.refl before).step_link hStep).1⟩, ih⟩

/-- While the links on the way stay and no link is at its end, the path leads there. -/
theorem leadBy_eq (h : before.Leads location names links directory last)
    (hKept : KeptIn before after) (following : Following) (slash : Bool) {limit : Nat}
    (hFew : links.length ≤ limit)
    (hSame : ∀ place ∈ links, after.get? place = before.get? place)
    (hLink : ∀ path, after.get? (directory ++ [last]) ≠ some (.link path)) :
    after.leadBy following limit location names slash = .ok (.name directory last slash) := by
  induction h generalizing limit with
  | @last location last hFinal =>
      obtain ⟨onLink, hArrive⟩ := leadBy_last after following limit location last slash
      rw [hArrive]
      exact arrive_eq_name (hKept.final hFinal) hLink
  | directory hStep _ ih =>
      rw [leadBy_cons, hKept.step_directory hStep]
      exact ih hFew hSame hLink
  | link hStep _ ih =>
      obtain ⟨hAt, ⟨_, hStep'⟩ | ⟨hOther, _⟩⟩ := hKept.step_link hStep
      · rw [leadBy_cons, hStep']
        cases limit with
        | zero => cases hFew
        | succ limit =>
            exact ih (Nat.le_of_succ_le_succ hFew)
              (fun place hPlace => hSame place (List.mem_cons_of_mem _ hPlace)) hLink
      · exact absurd ((hSame _ (List.mem_cons_self ..)).trans hAt) hOther

/--
When a link on the way is there no more, the path leads nowhere: where the link was, a file
is in the way.
-/
theorem blocked (h : before.Leads location names links directory last)
    (hKept : KeptIn before after) (following : Following) (slash : Bool) {limit : Nat}
    (hChanged : ∃ place ∈ links, after.get? place ≠ before.get? place) :
    ∃ error, after.leadBy following limit location names slash = .error error := by
  induction h generalizing limit with
  | last _ =>
      obtain ⟨_, hMem, _⟩ := hChanged
      cases hMem
  | directory hStep _ ih =>
      rw [leadBy_cons, hKept.step_directory hStep]
      exact ih hChanged
  | link hStep _ ih =>
      rw [leadBy_cons]
      obtain ⟨hAt, ⟨hThere, hStep'⟩ | ⟨_, hStep'⟩⟩ := hKept.step_link hStep
      · rw [hStep']
        cases limit with
        | zero => exact ⟨_, rfl⟩
        | succ limit =>
            refine ih ?_
            obtain ⟨place, hMem, hOther⟩ := hChanged
            rcases List.mem_cons.1 hMem with rfl | hMem
            · exact absurd (hThere.trans hAt.symm) hOther
            · exact ⟨place, hMem, hOther⟩
      · rw [hStep']
        exact ⟨_, rfl⟩

end Leads

/-! ## The way of a path -/

/--
A path leads through links at a list of locations to a goal, and no slash is behind it. The
links are those that are followed on the way, in order.
-/
structure LeadsTo (tree : Tree) (path : String) (links : List Location) (goal : Location) :
    Prop where
  not_empty : path.isEmpty = false
  short : ¬ Path.pathLimit < path.utf8ByteSize
  not_slashed : Path.endsInSlash path = false
  few_links : links.length ≤ linkLimit
  leads : ∃ directory last, goal = directory ++ [last] ∧
    tree.Leads (if Path.isAbsolute path then [] else tree.workingDirectory) (Path.names path)
      links directory last

/-- A path whose last name is in a directory leads there by a way. -/
theorem exists_leadsTo {tree : Tree} {path last : String} {directory : Location}
    (h : tree.target path = .ok (.name directory last false)) :
    ∃ links, tree.LeadsTo path links (directory ++ [last]) := by
  unfold target arriveBy at h
  split at h
  · cases h
  · next hEmpty =>
      split at h
      · cases h
      · next hShort =>
          obtain ⟨hSlash, links, hFew, hLeads⟩ := exists_leads h
          exact ⟨links, by simpa using hEmpty, hShort, hSlash.symm, hFew, _, _, rfl, hLeads⟩

namespace LeadsTo

variable {before after : Tree} {path : String} {links : List Location} {goal : Location}

theorem goal_ne_nil (h : before.LeadsTo path links goal) : goal ≠ [] := by
  obtain ⟨directory, last, rfl, _⟩ := h.leads
  simp

theorem get?_link (h : before.LeadsTo path links goal) :
    ∀ place ∈ links, ∃ path, before.get? place = some (.link path) := by
  obtain ⟨_, _, _, hLeads⟩ := h.leads
  exact hLeads.get?_link

/-- While the links on its way stay, a path finds what is at its goal. -/
theorem find_eq (h : before.LeadsTo path links goal) (hKept : KeptIn before after)
    (hSame : ∀ place ∈ links, after.get? place = before.get? place) {entry : Entry}
    (hAt : after.get? goal = some entry) (hLink : entry.isLink = false) :
    after.find path = .ok (goal, entry) := by
  obtain ⟨directory, last, rfl, hLeads⟩ := h.leads
  have hNoLink (path : String) : after.get? (directory ++ [last]) ≠ some (.link path) := by
    rw [hAt]
    rintro ⟨⟩
    cases hLink
  have hWay := hLeads.leadBy_eq hKept .all (Path.endsInSlash path) h.few_links hSame hNoLink
  rw [← hKept.workingDirectory_eq, h.not_slashed] at hWay
  simp only [find, arriveBy, h.not_empty, h.short, h.not_slashed, if_false, Bool.false_eq_true,
    hWay, Except.bind, arrived, hAt]
  cases entry <;> rfl

/-- When a link on its way is there no more, a path finds nothing. -/
theorem find_blocked (h : before.LeadsTo path links goal) (hKept : KeptIn before after)
    (hChanged : ∃ place ∈ links, after.get? place ≠ before.get? place) :
    ∃ error, after.find path = .error error := by
  obtain ⟨directory, last, rfl, hLeads⟩ := h.leads
  have hBlocked : ∃ error, after.leadBy .all linkLimit _ _ (Path.endsInSlash path) = .error error :=
    hLeads.blocked hKept .all (Path.endsInSlash path) hChanged
  obtain ⟨error, hError⟩ := hBlocked
  rw [← hKept.workingDirectory_eq] at hError
  refine ⟨error, ?_⟩
  simp only [find, arriveBy, h.not_empty, h.short, if_false, Bool.false_eq_true, hError,
    Except.bind]

end LeadsTo

/-! ## Ways in other trees -/

/--
The directories and the links of a tree are there in another. So a path that leads somewhere
by them leads there in the other tree too.
-/
structure WaysKept (before after : Tree) : Prop where
  workingDirectory_eq : after.workingDirectory = before.workingDirectory
  get?_directory : ∀ location mode, before.get? location = some (.directory mode) →
    after.get? location = some (.directory mode)
  get?_link : ∀ location path, before.get? location = some (.link path) →
    after.get? location = some (.link path)

namespace WaysKept

variable {before after : Tree} {location : Location} {name : String}

theorem searchError? (h : WaysKept before after) (hSearch : before.searchError? location = none) :
    after.searchError? location = none := by
  obtain ⟨mode, hAt, hOpen⟩ := searchError?_eq_none_iff.1 hSearch
  exact searchError?_eq_none_iff.2 ⟨mode, h.get?_directory location mode hAt, hOpen⟩

theorem final (h : WaysKept before after) (hFinal : before.Final location name) :
    after.Final location name :=
  ⟨h.searchError? hFinal.searchable, hFinal.not_dot, hFinal.not_dots, hFinal.short⟩

/-- Every step can be taken in the other tree. -/
theorem step (h : WaysKept before after) {step : Step}
    (hStep : before.step location name = .ok step) : after.step location name = .ok step := by
  rw [step_eq_ok_iff] at hStep ⊢
  obtain ⟨hSearch, hDot | hDots | ⟨hFinal, ⟨⟨mode, hAt⟩, hInner⟩ | ⟨path, hAt, hLink⟩⟩⟩ := hStep
  · exact ⟨h.searchError? hSearch, .inl hDot⟩
  · exact ⟨h.searchError? hSearch, .inr (.inl hDots)⟩
  · exact ⟨h.searchError? hSearch, .inr (.inr ⟨h.final hFinal,
      .inl ⟨⟨mode, h.get?_directory _ mode hAt⟩, hInner⟩⟩)⟩
  · exact ⟨h.searchError? hSearch, .inr (.inr ⟨h.final hFinal,
      .inr ⟨path, h.get?_link _ path hAt, hLink⟩⟩)⟩

end WaysKept

section Transfer

variable {before after : Tree} {location directory : Location} {names : List String}
  {links : List Location} {path last : String} {goal : Location}

/-- A way is a way in the other tree too. -/
theorem Leads.transfer (h : before.Leads location names links directory last)
    (hKept : WaysKept before after) : after.Leads location names links directory last := by
  induction h with
  | last hFinal => exact .last (hKept.final hFinal)
  | directory hStep _ ih => exact .directory (hKept.step hStep) ih
  | link hStep _ ih => exact .link (hKept.step hStep) ih

/-- At the end of a way there is a directory for the last name. -/
theorem Leads.final (h : before.Leads location names links directory last) :
    before.Final directory last := by
  induction h with
  | last hFinal => exact hFinal
  | directory _ _ ih => exact ih
  | link _ _ ih => exact ih

/-- The goal of a path is in a directory. -/
theorem LeadsTo.exists_parent (h : before.LeadsTo path links goal) :
    ∃ mode, before.get? goal.dropLast = some (.directory mode) := by
  obtain ⟨directory, last, rfl, hLeads⟩ := h.leads
  obtain ⟨mode, hAt, _⟩ := searchError?_eq_none_iff.1 hLeads.final.searchable
  rw [List.dropLast_concat]
  exact ⟨mode, hAt⟩

/-- A directory that was made where a path led is found by this path. -/
theorem find_of_target {slash : Bool} {mode : Nat}
    (h : before.target path = .ok (.name directory last slash)) (hKept : WaysKept before after)
    (hAt : after.get? (directory ++ [last]) = some (.directory mode)) :
    after.find path = .ok (directory ++ [last], .directory mode) := by
  unfold target arriveBy at h
  split at h
  · cases h
  · next hEmpty =>
      split at h
      · cases h
      · next hShort =>
          obtain ⟨rfl, links, hFew, hLeads⟩ := exists_leads h
          have hNoLink (path : String) : after.get? (directory ++ [last]) ≠ some (.link path) := by
            rw [hAt]
            nofun
          have hWay := (hLeads.transfer hKept).leadBy_eq (.refl after) .all
            (Path.endsInSlash path) hFew (fun _ _ => rfl) hNoLink
          rw [← hKept.workingDirectory_eq] at hWay
          simp only [find, arriveBy, hEmpty, hShort, if_false, Bool.false_eq_true, hWay,
            Except.bind, arrived, hAt]

end Transfer

/-! ## Names that nobody says -/

/--
Two trees that differ at most where a name occurs in the location, and the name is in
neither the working directory nor the path of a link.
-/
structure Unheard (name : String) (before after : Tree) : Prop where
  workingDirectory_eq : after.workingDirectory = before.workingDirectory
  notMem_workingDirectory : name ∉ before.workingDirectory
  get?_eq : ∀ location, name ∉ location → after.get? location = before.get? location
  notMem_link : ∀ location path, name ∉ location → before.get? location = some (.link path) →
    name ∉ Path.names path

def EndAlike (name : String) (first second : Except OsError Target) : Prop :=
  second = first ∧ ∀ target, first = .ok target → name ∉ target.location

namespace Unheard

variable {name : String} {before after : Tree} {following : Following} {location : Location}
  {slash : Bool}

theorem endAlike_error {error : OsError} : EndAlike name (.error error) (.error error) :=
  ⟨rfl, fun _ h => by cases h⟩

theorem endAlike_ok {target : Target} (h : name ∉ target.location) :
    EndAlike name (.ok target) (.ok target) := by
  refine ⟨rfl, ?_⟩
  rintro _ ⟨⟩
  exact h

theorem searchError?_eq (h : Unheard name before after) (hLocation : name ∉ location) :
    after.searchError? location = before.searchError? location := by
  rw [searchError?, searchError?, h.get?_eq location hLocation]

theorem notMem_dropLast (hLocation : name ∉ location) : name ∉ location.dropLast :=
  fun hMem => hLocation ((List.dropLast_sublist location).subset hMem)

theorem notMem_concat {last : String} (hLocation : name ∉ location) (hLast : name ≠ last) :
    name ∉ location ++ [last] := by
  simp [hLocation, hLast]

theorem notMem_start (hLocation : name ∉ location) (path : String) :
    name ∉ lead.start location path := by
  unfold lead.start
  split
  · exact List.not_mem_nil
  · exact hLocation

theorem step_eq (h : Unheard name before after) {next : String} (hLocation : name ∉ location)
    (hNext : name ≠ next) : after.step location next = before.step location next := by
  rw [step, step, h.searchError?_eq hLocation, h.get?_eq _ (notMem_concat hLocation hNext)]

/-- A step leads to no location with the name in it. -/
theorem notMem_inner {next : String} {inner : Location} (hLocation : name ∉ location)
    (hNext : name ≠ next) (hStep : before.step location next = .ok (.directory inner)) :
    name ∉ inner := by
  obtain ⟨_, ⟨_, hInner⟩ | ⟨_, hInner⟩ | ⟨_, ⟨_, hInner⟩ | ⟨_, _, hLink⟩⟩⟩ := step_eq_ok_iff.1 hStep
  · cases hInner
    exact hLocation
  · cases hInner
    exact notMem_dropLast hLocation
  · cases hInner
    exact notMem_concat hLocation hNext
  · cases hLink

/-- A step leads over no link with the name in its path. -/
theorem notMem_path (h : Unheard name before after) {next path : String}
    (hLocation : name ∉ location) (hNext : name ≠ next)
    (hStep : before.step location next = .ok (.link path)) : name ∉ Path.names path := by
  obtain ⟨hAt, _⟩ := (KeptIn.refl before).step_link hStep
  exact h.notMem_link _ path (notMem_concat hLocation hNext) hAt

theorem arrive_endAlike (h : Unheard name before after)
    {onLink onLink' : String → Except OsError Target} {last : String} (hLocation : name ∉ location)
    (hLast : name ≠ last)
    (hOnLink : ∀ path, before.get? (location ++ [last]) = some (.link path) →
      EndAlike name (onLink path) (onLink' path)) :
    EndAlike name (before.arrive following onLink location last slash)
      (after.arrive following onLink' location last slash) := by
  have hEnd := notMem_concat hLocation hLast
  rw [arrive, arrive, h.searchError?_eq hLocation, h.get?_eq _ hEnd]
  cases before.searchError? location with
  | some error => exact endAlike_error
  | none =>
      dsimp only
      by_cases hDot : last = "."
      · rw [if_pos hDot, if_pos hDot]
        exact endAlike_ok hLocation
      rw [if_neg hDot, if_neg hDot]
      by_cases hDots : last = ".."
      · rw [if_pos hDots, if_pos hDots]
        exact endAlike_ok (notMem_dropLast hLocation)
      rw [if_neg hDots, if_neg hDots]
      by_cases hShort : Path.nameLimit < last.utf8ByteSize
      · rw [if_pos hShort, if_pos hShort]
        exact endAlike_error
      rw [if_neg hShort, if_neg hShort]
      split
      · next path hLink =>
          split
          · exact hOnLink path hLink
          · exact endAlike_ok hEnd
      · exact endAlike_ok hEnd

/-- One level of a lookup ends alike if what links lead to does. -/
theorem lead_endAlike (h : Unheard name before after)
    {onward onward' : Location → List String → Bool → Except OsError Target}
    (hOnward : ∀ location names slash, name ∉ location → name ∉ names →
      EndAlike name (onward location names slash) (onward' location names slash))
    {names : List String} (hLocation : name ∉ location) (hNames : name ∉ names) :
    EndAlike name (before.lead following onward location names slash)
      (after.lead following onward' location names slash) := by
  induction names generalizing location with
  | nil => exact endAlike_ok hLocation
  | cons first names ih =>
      obtain ⟨hFirst, hRest⟩ := not_or.1 (fun hMem => hNames (List.mem_cons.2 hMem))
      cases names with
      | nil =>
          refine h.arrive_endAlike hLocation hFirst fun path hLink => ?_
          exact hOnward _ _ _ (notMem_start hLocation path)
            (h.notMem_link _ path (notMem_concat hLocation hFirst) hLink)
      | cons next rest =>
          rw [lead, lead, h.step_eq hLocation hFirst]
          cases hStep : before.step location first with
          | error error => exact endAlike_error
          | ok step =>
              cases step with
              | directory inner => exact ih (notMem_inner hLocation hFirst hStep) hRest
              | link path =>
                  refine hOnward _ _ _ (notMem_start hLocation path) ?_
                  rw [List.mem_append, not_or]
                  exact ⟨h.notMem_path hLocation hFirst hStep, hRest⟩

theorem leadBy_endAlike (h : Unheard name before after) (limit : Nat) {names : List String}
    (hLocation : name ∉ location) (hNames : name ∉ names) :
    EndAlike name (before.leadBy following limit location names slash)
      (after.leadBy following limit location names slash) := by
  induction limit generalizing location names slash with
  | zero => exact h.lead_endAlike (fun _ _ _ _ _ => endAlike_error) hLocation hNames
  | succ limit ih =>
      exact h.lead_endAlike (fun _ _ _ hStart hMore => ih hStart hMore) hLocation hNames

theorem arriveBy_endAlike (h : Unheard name before after) {path : String}
    (hPath : name ∉ Path.names path) (following : Following) :
    EndAlike name (before.arriveBy following path) (after.arriveBy following path) := by
  unfold arriveBy
  rw [h.workingDirectory_eq]
  split
  · exact endAlike_error
  · split
    · exact endAlike_error
    · refine h.leadBy_endAlike linkLimit ?_ hPath
      split
      · exact List.not_mem_nil
      · exact h.notMem_workingDirectory

/-- A path in which the name does not occur leads to the same place. -/
theorem target_eq (h : Unheard name before after) {path : String}
    (hPath : name ∉ Path.names path) : after.target path = before.target path :=
  (h.arriveBy_endAlike hPath .none).1

/-- A path in which the name does not occur finds the same. -/
theorem find_eq (h : Unheard name before after) {path : String} (hPath : name ∉ Path.names path) :
    after.find path = before.find path := by
  obtain ⟨hSame, hAvoids⟩ := h.arriveBy_endAlike hPath .all
  rw [find, find, hSame]
  cases hArrive : before.arriveBy .all path with
  | error error => rfl
  | ok target =>
      have hEnd := h.get?_eq _ (hAvoids target hArrive)
      cases target with
      | directory location =>
          change after.get? location = before.get? location at hEnd
          simp only [Except.bind, arrived, hEnd]
      | name above last slash =>
          change after.get? (above ++ [last]) = before.get? (above ++ [last]) at hEnd
          simp only [Except.bind, arrived, hEnd]

end Unheard

end Tree

end BlockExtension.Files
