import BlockExtension.Patch
import BlockExtension.Proofs.Indentation
import Mathlib.Data.List.Basic

/-!
# The first replacement of a hook stays

Replacements are installed by calls, one after another, and a patch is the outcome of a
run of calls. The run is described by the calls alone: which hooks they name, and in
which call each is named first. A patch is the list of those first calls, so a later
call for the same hook finds it taken, is answered with a refusal and changes nothing.

One call does one of two things (`install_of_mem`, `install_of_notMem`), and both leave
the patch with the hooks and the tables of a list to which the call was added in the end,
read from the front (`lookup_install`). Of a run this is said by induction on its calls.

The text of a patch is described by its lines, each with its depth. Between the lines
that open and close the patch stands one method for each replaced hook, and a method is
a switch with the cases of the hook's table and one default, which calls the hook that
is replaced.

## Main results

* `hooks_installAll`, `lookup_installAll`: the hooks of a run, and the table of each.
* `installAll_append`, `installAll_of_subset`: a run goes on where another ended, and
  changes nothing if all its hooks are replaced already.
* `renderMethod_eq`, `render_eq`: the text of a patch, line by line.
* `installAll_firstWins`: the outcome of a run, its answers and its text.
-/

namespace BlockExtension.Patch

open BlockExtension.Script (spaces spaces_add)

/-- A call for a replacement: the hook and its table. -/
abbrev Call := Hook × Dispatch.Table

/-! ## One call -/

section Install

variable {patch : Patch} {hook : Hook}

/-- A hook that is replaced stays as it is. -/
theorem install_of_mem (h : hook ∈ patch.hooks) (table : Dispatch.Table) :
    patch.install hook table = (patch, false) := if_pos h

/-- A hook that is not replaced yet is replaced, behind all others. -/
theorem install_of_notMem (h : hook ∉ patch.hooks) (table : Dispatch.Table) :
    patch.install hook table = (⟨patch.target, patch.replacements ++ [(hook, table)]⟩, true) :=
  if_neg h

/-- A call is answered by whether its hook was still free. -/
theorem answer_install (patch : Patch) (hook : Hook) (table : Dispatch.Table) :
    (patch.install hook table).2 = decide (hook ∉ patch.hooks) := by
  by_cases hMem : hook ∈ patch.hooks
  · rw [install_of_mem hMem, decide_eq_false (not_not_intro hMem)]
  · rw [install_of_notMem hMem, decide_eq_true hMem]

theorem target_install (patch : Patch) (hook : Hook) (table : Dispatch.Table) :
    (patch.install hook table).1.target = patch.target := by
  unfold install
  split <;> rfl

/-- A replaced hook has a table. -/
theorem lookup_ne_none_iff : patch.replacements.lookup hook ≠ none ↔ hook ∈ patch.hooks := by
  rw [ne_eq, List.lookup_eq_none_iff, hooks, List.mem_map]
  simp only [bne_iff_ne, not_forall, not_not, exists_prop]
  exact exists_congr fun call => and_congr_right fun _ => eq_comm

/-- After a call, tables are found as if the call had been added in the end. -/
theorem lookup_install (patch : Patch) (hook : Hook) (table : Dispatch.Table) (other : Hook) :
    (patch.install hook table).1.replacements.lookup other =
      (patch.replacements ++ [(hook, table)]).lookup other := by
  by_cases hMem : hook ∈ patch.hooks
  · rw [install_of_mem hMem, List.lookup_append]
    by_cases hOther : other = hook
    · obtain ⟨found, hFound⟩ := Option.ne_none_iff_exists'.1 (lookup_ne_none_iff.2 hMem)
      rw [hOther, hFound]
      rfl
    · have hNone : List.lookup other [(hook, table)] = none := by simp [hOther]
      rw [hNone, Option.or_none]
  · rw [install_of_notMem hMem]

end Install

/-! ## A run of calls -/

/--
Calls, one after another, with the answer to each. A call that is refused leaves the patch
as it is.
-/
def installAll (patch : Patch) : List Call → Patch × List Bool
  | [] => (patch, [])
  | call :: calls =>
      let first := patch.install call.1 call.2
      let rest := first.1.installAll calls
      (rest.1, first.2 :: rest.2)

section InstallAll

variable {patch : Patch}

theorem installAll_cons (patch : Patch) (call : Call) (calls : List Call) :
    patch.installAll (call :: calls) =
      (((patch.install call.1 call.2).1.installAll calls).1,
        (patch.install call.1 call.2).2 :: ((patch.install call.1 call.2).1.installAll calls).2) :=
  rfl

/-- A run goes on where another ended. -/
theorem installAll_append (patch : Patch) (earlier later : List Call) :
    patch.installAll (earlier ++ later) =
      (((patch.installAll earlier).1.installAll later).1,
        (patch.installAll earlier).2 ++ ((patch.installAll earlier).1.installAll later).2) := by
  induction earlier generalizing patch with
  | nil => rfl
  | cons call earlier ih => rw [List.cons_append, installAll_cons, ih, installAll_cons]; rfl

/-- Every call is answered. -/
theorem length_installAll (patch : Patch) (calls : List Call) :
    (patch.installAll calls).2.length = calls.length := by
  induction calls generalizing patch with
  | nil => rfl
  | cons call calls ih => rw [installAll_cons, List.length_cons, ih, List.length_cons]

theorem target_installAll (patch : Patch) (calls : List Call) :
    (patch.installAll calls).1.target = patch.target := by
  induction calls generalizing patch with
  | nil => rfl
  | cons call calls ih => rw [installAll_cons, ih, target_install]

/-- No run replaces a hook twice. -/
theorem nodup_installAll (h : patch.hooks.Nodup) (calls : List Call) :
    (patch.installAll calls).1.hooks.Nodup := by
  induction calls generalizing patch with
  | nil => exact h
  | cons call calls ih => exact ih (nodup_install h call.1 call.2)

/-- The hooks of a run are those of its calls, in the order of the first call for each. -/
theorem hooks_installAll (target : HostObject) (calls : List Call) :
    ((empty target).installAll calls).1.hooks = (calls.map Prod.fst).eraseDups := by
  induction calls using List.reverseRecOn with
  | nil => rfl
  | append_singleton calls call ih =>
      have hLast : ((empty target).installAll (calls ++ [call])).1 =
          (((empty target).installAll calls).1.install call.1 call.2).1 := by
        rw [installAll_append]
        rfl
      rw [hLast, hooks_install, ih, List.map_append, List.eraseDups_append]
      by_cases hNamed : call.1 ∈ calls.map Prod.fst
      · simp [hNamed, List.removeAll]
      · simp [hNamed, List.removeAll, List.eraseDups_cons]

theorem mem_hooks_installAll {target : HostObject} {calls : List Call} {hook : Hook} :
    hook ∈ ((empty target).installAll calls).1.hooks ↔ hook ∈ calls.map Prod.fst := by
  rw [hooks_installAll, List.mem_eraseDups]

/-- The table of a hook is that of the patch, or else that of the hook's first call. -/
theorem lookup_installAll (patch : Patch) (calls : List Call) (hook : Hook) :
    (patch.installAll calls).1.replacements.lookup hook =
      (patch.replacements ++ calls).lookup hook := by
  induction calls generalizing patch with
  | nil => rw [List.append_nil]; rfl
  | cons call calls ih =>
      rw [installAll_cons, ih, List.lookup_append, lookup_install, ← List.lookup_append,
        List.append_assoc, List.singleton_append]

/-- Calls for hooks that are replaced already change nothing. -/
theorem installAll_of_subset {calls : List Call} (h : ∀ call ∈ calls, call.1 ∈ patch.hooks) :
    (patch.installAll calls).1 = patch := by
  induction calls with
  | nil => rfl
  | cons call calls ih =>
      rw [installAll_cons, install_of_mem (h call (List.mem_cons_self ..))]
      exact ih fun other hOther => h other (List.mem_cons_of_mem _ hOther)

end InstallAll

/-! ## The text of a patch -/

/-- Lines, each with how much deeper than `indent` it stands. -/
def linesAt (indent : Nat) (lines : List (Nat × String)) : String :=
  String.join (lines.map fun (depth, line) => spaces (indent + depth) ++ line ++ "\n")

theorem linesAt_nil (indent : Nat) : linesAt indent [] = "" := rfl

theorem linesAt_cons (indent depth : Nat) (line : String) (lines : List (Nat × String)) :
    linesAt indent ((depth, line) :: lines) =
      spaces (indent + depth) ++ line ++ "\n" ++ linesAt indent lines := by
  rw [linesAt, List.map_cons, String.join_cons]
  rfl

theorem linesAt_append (indent : Nat) (front back : List (Nat × String)) :
    linesAt indent (front ++ back) = linesAt indent front ++ linesAt indent back := by
  rw [linesAt, List.map_append, String.join_append]
  rfl

/-- The lines of a method in front of the cases. -/
def linesBefore (target : HostObject) (hook : Hook) : List (Nat × String) :=
  (2, hook.method ++ "(fn, " ++ target.parameter ++ ", ...args) \x7b") ::
    (if target = .scriptGenerator ∧ hook = .descendStackedBlock then
      [(4, "const block = node.block;")] else []) ++
    [(4, "switch (" ++ target.scrutinee ++ ") \x7b")]

/-- The lines of a method behind the cases: the default, which calls the replaced hook. -/
def linesBehind (target : HostObject) : List (Nat × String) :=
  [(6, "default:"), (8, "return fn(" ++ target.parameter ++ ", ...args);"), (4, "\x7d"),
    (2, "\x7d,")]

def methodText (target : HostObject) (indent : Nat) (call : Call) : String :=
  linesAt indent (linesBefore target call.1) ++ call.2.render (indent + 6) ++
    linesAt indent (linesBehind target)

/-- A method is its lines around the cases. -/
theorem renderMethod_eq (target : HostObject) (indent : Nat) (call : Call) :
    renderMethod target indent call.1 call.2 = methodText target indent call := by
  have hTwo : "  " = spaces 2 := by decide
  have hFour : "    " = spaces 4 := by decide
  have hDefault : spaces (indent + 6) = spaces (indent + 4) ++ "  " := by
    rw [hTwo]
    exact spaces_add (indent + 4) 2
  have hReturn : spaces (indent + 8) = spaces (indent + 4) ++ "    " := by
    rw [hFour]
    exact spaces_add (indent + 4) 4
  have hBlock : blockLine target call.1 (indent + 4) =
      linesAt indent (if target = .scriptGenerator ∧ call.1 = .descendStackedBlock then
        [(4, "const block = node.block;")] else []) := by
    unfold blockLine
    split
    · rw [← String.toList_inj]
      simp [linesAt_cons, linesAt_nil]
    · rfl
  unfold renderMethod
  rw [← String.toList_inj, hBlock]
  simp [methodText, linesBefore, linesBehind, linesAt_cons, linesAt_append, linesAt_nil, hDefault,
    hReturn]

/-- Of the lines around the cases, one is a default. -/
theorem count_default (target : HostObject) (hook : Hook) :
    ((linesBefore target hook ++ linesBehind target).map Prod.snd).count "default:" = 1 := by
  cases target <;> cases hook <;> decide

/-- The lines of a patch in front of its methods. -/
def opening (target : HostObject) : List (Nat × String) :=
  [(0, "cst_patch(" ++ target.binding ++ ", \x7b")]

/-- The lines of a patch behind its methods. -/
def closing : List (Nat × String) := [(0, "\x7d);")]

/-- A patch is its methods, with a blank line between any two, and its lines around them. -/
theorem render_eq (patch : Patch) (indent : Nat) :
    patch.render indent =
      linesAt indent (opening patch.target) ++
        "\n".intercalate (patch.replacements.map (methodText patch.target indent)) ++
        linesAt indent closing := by
  have hMethods : (fun call : Call => renderMethod patch.target indent call.1 call.2) =
      methodText patch.target indent := funext (renderMethod_eq patch.target indent)
  unfold render
  rw [hMethods, ← String.toList_inj]
  simp [opening, closing, linesAt_cons, linesAt_nil]

/-! ## What a run comes to -/

/--
What calls come to, one after another, on a patch that replaces nothing: the first call for
a hook counts, and every later one is refused.
-/
structure FirstWins (target : HostObject) (calls : List Call) (patch : Patch)
    (answers : List Bool) : Prop where
  target_eq : patch.target = target
  /-- Each hook that was named is replaced, in the order of the first call for each. -/
  hooks_eq : patch.hooks = (calls.map Prod.fst).eraseDups
  /-- No hook is replaced twice. -/
  nodup_hooks : patch.hooks.Nodup
  /-- The table of a hook is that of its first call. -/
  lookup_eq : ∀ hook, patch.replacements.lookup hook = calls.lookup hook
  /-- A call succeeds if no earlier call named its hook, and only then. -/
  answer_eq : ∀ earlier call later, calls = earlier ++ call :: later →
    answers[earlier.length]? = some (decide (call.1 ∉ earlier.map Prod.fst))
  length_answers : answers.length = calls.length
  /-- A refused call leaves the patch as it is, and with it every text of the patch. -/
  refused : ∀ earlier call later, calls = earlier ++ call :: later →
    answers[earlier.length]? = some false →
      ((empty target).installAll (earlier ++ [call])).1 = ((empty target).installAll earlier).1
  /-- More calls for the same hooks change nothing. -/
  again : ∀ more, (∀ call ∈ more, call.1 ∈ calls.map Prod.fst) →
    ((empty target).installAll (calls ++ more)).1 = patch
  /-- The text has one method for each replaced hook, with a blank line between any two. -/
  render_eq : ∀ indent, patch.render indent =
    linesAt indent (opening target) ++
      "\n".intercalate (patch.replacements.map (methodText target indent)) ++
      linesAt indent closing
  /-- Around the cases of a method stands one default. -/
  count_default : ∀ call ∈ patch.replacements,
    ((linesBefore target call.1 ++ linesBehind target).map Prod.snd).count "default:" = 1

/-- The answer to a call in a run. -/
theorem getElem?_installAll (target : HostObject) (earlier : List Call) (call : Call)
    (later : List Call) :
    ((empty target).installAll (earlier ++ call :: later)).2[earlier.length]? =
      some (decide (call.1 ∉ earlier.map Prod.fst)) := by
  rw [installAll_append, List.getElem?_append_right (length_installAll ..).le, length_installAll,
    Nat.sub_self, installAll_cons, List.getElem?_cons_zero, answer_install]
  simp only [mem_hooks_installAll]

/-- The first replacement of a hook stays, whatever calls there are. -/
theorem installAll_firstWins (target : HostObject) (calls : List Call) :
    FirstWins target calls ((empty target).installAll calls).1
      ((empty target).installAll calls).2 where
  target_eq := target_installAll (empty target) calls
  hooks_eq := hooks_installAll target calls
  nodup_hooks := by
    have hEmpty : (empty target).hooks.Nodup := List.nodup_nil
    exact nodup_installAll hEmpty calls
  lookup_eq := lookup_installAll (empty target) calls
  answer_eq := by
    rintro earlier call later rfl
    exact getElem?_installAll target earlier call later
  length_answers := length_installAll (empty target) calls
  refused := by
    rintro earlier call later rfl hRefused
    rw [getElem?_installAll, Option.some_inj, decide_eq_false_iff_not, not_not] at hRefused
    rw [installAll_append]
    refine installAll_of_subset fun other hOther => ?_
    rw [List.mem_singleton.1 hOther]
    exact mem_hooks_installAll.2 hRefused
  again := by
    intro more hMore
    rw [installAll_append]
    exact installAll_of_subset fun call hCall => mem_hooks_installAll.2 (hMore call hCall)
  render_eq := by
    intro indent
    rw [render_eq, target_installAll]
    rfl
  count_default := fun call _ => count_default target call.1

/-- A patch of a module comes of two calls, neither of which is refused. -/
example (target : HostObject) (stackedBlock input : Dispatch.Table) :
    (empty target).installAll [(.descendStackedBlock, stackedBlock), (.descendInput, input)] =
      (both target stackedBlock input, [true, true]) := rfl

def sampleTable (pass : Dispatch.Pass) : Dispatch.Table :=
  ⟨pass, [⟨"run", "ext.run", ["return;"]⟩]⟩

def sampleCalls : List Call :=
  [(.descendInput, sampleTable .expression), (.descendInput, sampleTable .statement),
    (.descendStackedBlock, sampleTable .statement)]

/-- The second call is refused, and its table is nowhere. -/
theorem installAll_firstWins_sample :
    (empty .scriptGenerator).installAll sampleCalls =
        (⟨.scriptGenerator, [(.descendInput, sampleTable .expression),
          (.descendStackedBlock, sampleTable .statement)]⟩, [true, false, true]) ∧
      FirstWins .scriptGenerator sampleCalls
        ((empty .scriptGenerator).installAll sampleCalls).1 [true, false, true] := by
  have hRun : (empty .scriptGenerator).installAll sampleCalls =
      (⟨.scriptGenerator, [(.descendInput, sampleTable .expression),
        (.descendStackedBlock, sampleTable .statement)]⟩, [true, false, true]) := by decide
  have hFirst := installAll_firstWins .scriptGenerator sampleCalls
  rw [hRun] at hFirst ⊢
  exact ⟨rfl, hFirst⟩

end BlockExtension.Patch
