import BlockExtension.Dispatch

/-!
# Patches of the host

A patch replaces hooks of one host object. Each replacement is a switch over the
cases of a dispatch table whose default hands the call on to the hook it
replaces. A hook is replaced at most once: the first replacement stays, and a
later one is refused.

## Main results

* `hooks_install`: what a patch replaces after one more installation.
* `nodup_install`: no hook is replaced twice.
-/

namespace BlockExtension

open BlockExtension.Script (spaces)

/-- A host object whose hooks can be replaced. -/
inductive HostObject where
  | scriptGenerator
  | treeGenerator
  deriving DecidableEq, Repr

namespace HostObject

/-- The name of the object in the emitted module. -/
def binding : HostObject → String
  | .scriptGenerator => "JSGP"
  | .treeGenerator => "STGP"

def parameter : HostObject → String
  | .scriptGenerator => "node"
  | .treeGenerator => "block"

/-- What a hook of the object looks at to find its case. -/
def scrutinee : HostObject → String
  | .scriptGenerator => "node.kind"
  | .treeGenerator => "block.opcode"

end HostObject

/-- A hook of a host object. -/
inductive Hook where
  | descendStackedBlock
  | descendInput
  deriving DecidableEq, Repr

def Hook.method : Hook → String
  | .descendStackedBlock => "descendStackedBlock"
  | .descendInput => "descendInput"

/-- The replacements for hooks of one host object, in the order of their installation. -/
structure Patch where
  target : HostObject
  replacements : List (Hook × Dispatch.Table)
  deriving DecidableEq, Repr

namespace Patch

def empty (target : HostObject) : Patch := ⟨target, []⟩

def hooks (patch : Patch) : List Hook := patch.replacements.map Prod.fst

/--
Replaces a hook unless it is replaced already; the second part says whether it was replaced
now.
-/
def install (patch : Patch) (hook : Hook) (table : Dispatch.Table) : Patch × Bool :=
  if hook ∈ patch.hooks then (patch, false)
  else (⟨patch.target, patch.replacements ++ [(hook, table)]⟩, true)

theorem hooks_install (patch : Patch) (hook : Hook) (table : Dispatch.Table) :
    (patch.install hook table).1.hooks =
      if hook ∈ patch.hooks then patch.hooks else patch.hooks ++ [hook] := by
  unfold install
  split <;> simp [hooks]

/-- No hook is replaced twice. -/
theorem nodup_install {patch : Patch} (h : patch.hooks.Nodup) (hook : Hook)
    (table : Dispatch.Table) : (patch.install hook table).1.hooks.Nodup := by
  rw [hooks_install]
  split
  · exact h
  · next hNew =>
      rw [List.nodup_append]
      exact ⟨h, List.pairwise_singleton .., by
        intro a ha b hb hab
        rw [List.mem_singleton] at hb
        exact hNew (hb ▸ hab ▸ ha)⟩

/-! ## The emitted text -/

/-- The line that names the block of a node, where the cases refer to it. -/
def blockLine (target : HostObject) (hook : Hook) (indent : Nat) : String :=
  if target = .scriptGenerator ∧ hook = .descendStackedBlock then
    spaces indent ++ "const block = node.block;\n"
  else ""

/--
A method that dispatches over a table and otherwise calls the hook it replaces. Whatever
arguments the hook gets, it gets them all.
-/
def renderMethod (target : HostObject) (indent : Nat) (hook : Hook) (table : Dispatch.Table) :
    String :=
  let inner := spaces (indent + 2)
  let body := spaces (indent + 4)
  inner ++ hook.method ++ "(fn, " ++ target.parameter ++ ", ...args) \x7b\n" ++
    blockLine target hook (indent + 4) ++
    body ++ "switch (" ++ target.scrutinee ++ ") \x7b\n" ++
    table.render (indent + 6) ++
    body ++ "  default:\n" ++
    body ++ "    return fn(" ++ target.parameter ++ ", ...args);\n" ++
    body ++ "\x7d\n" ++
    inner ++ "\x7d,\n"

/-- The call that installs a patch, `indent` spaces deep, with a blank line between methods. -/
def render (patch : Patch) (indent : Nat) : String :=
  spaces indent ++ "cst_patch(" ++ patch.target.binding ++ ", \x7b\n" ++
    "\n".intercalate (patch.replacements.map fun (hook, table) =>
      renderMethod patch.target indent hook table) ++
    spaces indent ++ "\x7d);\n"

def both (target : HostObject) (stackedBlock input : Dispatch.Table) : Patch :=
  (((empty target).install .descendStackedBlock stackedBlock).1.install .descendInput input).1

def ofTextTables (tables : Dispatch.Tables) : Patch :=
  both .scriptGenerator tables.statement tables.expression

def ofTreeTables (tables : Dispatch.Tables) : Patch :=
  both .treeGenerator tables.treeBuild tables.treeInput

end Patch

end BlockExtension
