import BlockExtension.Block.Declaration
import BlockExtension.Descriptor
import BlockExtension.HeaderComment
import BlockExtension.Patch

/-!
# The emitted module

A module is one function applied to the host. It refuses a host that keeps it
away from the compiler, names what it needs of the host, declares the
extension's class, installs the patches and registers an instance of the class.
The comment of the extension, if it has one, stands in front.

The fixed parts are given line by line; between them stand the parts that depend
on the extension.
-/

namespace BlockExtension.ModuleText

open BlockExtension.Script (Literal quote)

def ofLines (lines : List String) : String := String.join (lines.map (· ++ "\n"))

def opening : String := ofLines ["(function (Scratch) \x7b", "  'use strict';", ""]

/--
The refusal of a host that keeps extensions away from the compiler: the module throws an
error with the identifier of the extension.
-/
def guard (extensionId : String) : String :=
  ofLines [
    "  if (!Scratch.extensions.unsandboxed) \x7b",
    "    throw new Error(" ++ quote (extensionId ++ " needs to be run unsandboxed.") ++ ");",
    "  \x7d"]

/-- The names that the module takes from the host. -/
def hostBindings : String :=
  ofLines [
    "  const \x7b vm, BlockType, ArgumentType \x7d = Scratch;",
    "  const \x7b runtime \x7d = vm;",
    "  const iwnafhwtb = vm.exports.i_will_not_ask_for_help_when_these_break();",
    "  const \x7b JSGenerator, ScriptTreeGenerator \x7d = iwnafhwtb;",
    "  const \x7b",
    "    TYPE_NUMBER,",
    "    TYPE_STRING,",
    "    TYPE_BOOLEAN,",
    "    TYPE_UNKNOWN,",
    "    TYPE_NUMBER_NAN,",
    "    TypedInput,",
    "    ConstantInput,",
    "    VariableInput,",
    "    Frame,",
    "    sanitize,",
    "  \x7d = JSGenerator.unstable_exports;",
    "  const JSGP = JSGenerator.prototype,",
    "    STGP = ScriptTreeGenerator.prototype;"]

/-- What a block shows when it runs without the compiler. -/
def uncompiledMessage : String :=
  "This block only runs in compiled projects; enable the compiler and try again."

/--
The class of the extension, which answers for its descriptor. It has one method besides,
which every block calls that runs without the compiler.
-/
def extensionClass (extensionId : String) (info : Literal) : String :=
  ofLines [
    "  class " ++ extensionId ++ " \x7b",
    "    getInfo() \x7b",
    "      return " ++ info.render 6 ++ ";",
    "    \x7d",
    "",
    "    " ++ Descriptor.dispatchMethod ++ "(args, util, blockJSON) \x7b",
    "      const err = " ++ quote uncompiledMessage ++ ";",
    "      runtime.visualReport(util.thread.isCompiled ? util.thread.peekStack() : " ++
      "util.thread.peekStackFrame().op.id, err);",
    "      return err;",
    "    \x7d",
    "  \x7d"]

/-- The name under which the host remembers what the extension has replaced. -/
def patchesId (extensionId : String) : String :=
  ofLines ["  const PATCHES_ID = " ++ quote (extensionId ++ "_patches") ++ ";"]

/--
The function that installs a patch, once for each hook. A hook that the extension has
replaced before, in another copy of the module, stays as it is.
-/
def patchInstaller : String :=
  ofLines [
    "  const cst_patch = (obj, functions) => \x7b",
    "    const installed = obj[PATCHES_ID] || (obj[PATCHES_ID] = \x7b\x7d);",
    "    for (const name in functions) \x7b",
    "      if (Object.prototype.hasOwnProperty.call(installed, name)) continue;",
    "      const original = obj[name];",
    "      installed[name] = original;",
    "      obj[name] = function (...args) \x7b",
    "        const callOriginal = original ? (...rest) => original.call(this, ...rest) " ++
      ": () => \x7b\x7d;",
    "        return functions[name].call(this, callOriginal, ...args);",
    "      \x7d;",
    "    \x7d",
    "  \x7d;"]

def closing (extensionId : String) : String :=
  ofLines ["  Scratch.extensions.register(new " ++ extensionId ++ "());", "\x7d)(Scratch);"]

/-- The comment in front of the module, with an empty line after it. -/
def header (comment : Option String) : String :=
  match comment with
  | some comment => HeaderComment.write comment ++ "\n\n"
  | none => ""

/--
The module of an extension with this descriptor and these tables. The comment stands in
front, and the parts behind the opening have an empty line between them.
-/
def assemble (extension : Extension) (info : Literal) (tables : Dispatch.Tables) : String :=
  header extension.comment ++ opening ++
    "\n".intercalate [
      guard extension.id,
      hostBindings,
      extensionClass extension.id info,
      patchesId extension.id ++ patchInstaller,
      (Patch.ofTextTables tables).render 2,
      (Patch.ofTreeTables tables).render 2,
      closing extension.id]

def defaultFile (extension : Extension) : String := extension.id ++ ".js"

end BlockExtension.ModuleText
