import BlockExtension.ModuleText
import BlockExtension.Resolution

/-!
# From a configuration to a module

The whole way in one function: the declarations are resolved, the descriptor and
the tables are emitted from the resolved blocks, and the module is assembled
from them. Apart from the supply of random names, nothing but the configuration
goes in.

## Main results

* `generate_eq_error_iff`: a configuration is refused exactly when its
  declarations do not resolve, and for the same reason.
-/

namespace BlockExtension

/--
Everything that a configuration yields: the module and what it was assembled from, and the
warnings.
-/
structure Generated where
  source : String
  info : Script.Literal
  tables : Dispatch.Tables
  warnings : List Warning
  blocks : List Block
  deriving Repr

/-- What resolved blocks yield. -/
def Generated.ofResolution (extension : Extension) (resolution : Resolution) : Generated :=
  let info := Descriptor.ofBlocks extension resolution.blocks
  let tables := Dispatch.tables extension resolution.blocks
  { source := ModuleText.assemble extension info tables
    info := info
    tables := tables
    warnings := resolution.warnings
    blocks := resolution.blocks }

/-- The module and all that belongs to it. -/
def generate (naming : Naming) (configuration : Configuration) :
    Except Resolution.Failure Generated :=
  (resolve naming configuration.blocks).map (Generated.ofResolution configuration.extension)

theorem generate_eq_error_iff {naming : Naming} {configuration : Configuration}
    {failure : Resolution.Failure} :
    generate naming configuration = .error failure ↔
      resolve naming configuration.blocks = .error failure := by
  unfold generate
  cases resolve naming configuration.blocks <;> simp [Except.map]

end BlockExtension
