/-!
# The closed sets of tags

What shape a block has, what an argument takes and what a block returns. Each is
a small closed set whose members are written as upper-case tags in a
configuration and as paths of the host in the emitted script.

## Main results

* `BlockShape.ofTag?_tag`, `ArgumentKind.ofTag?_tag`, `ReturnKind.ofTag?_tag`: a
  tag names the member that it was taken from.
-/

namespace BlockExtension

/-! ## Shapes of blocks -/

/--
The shape of an operation in the palette. It says where the block fits in a script, and so
by which hook it is compiled.
-/
inductive BlockShape where
  | command
  | reporter
  | boolean
  | conditional
  deriving DecidableEq, Repr

namespace BlockShape

/-- The tag of a shape. -/
def tag : BlockShape → String
  | .command => "COMMAND"
  | .reporter => "REPORTER"
  | .boolean => "BOOLEAN"
  | .conditional => "CONDITIONAL"

def all : List BlockShape := [.command, .reporter, .boolean, .conditional]

def ofTag? (tag : String) : Option BlockShape := all.find? (·.tag = tag)

theorem ofTag?_tag (shape : BlockShape) : ofTag? shape.tag = some shape := by
  cases shape <;> decide

def reference (shape : BlockShape) : String := "Scratch.BlockType." ++ shape.tag

/-- The host's name for a label, which is a block without a shape. -/
def labelReference : String := "Scratch.BlockType.LABEL"

/-- Statements stand in a script for themselves; the other shapes stand for a value. -/
def isStatement : BlockShape → Bool
  | .command => true
  | .conditional => true
  | .reporter => false
  | .boolean => false

end BlockShape

/-! ## Kinds of arguments -/

/--
What an argument takes. It says what the palette shows in the place of the argument, and how
emitted code reads its input.
-/
inductive ArgumentKind where
  | string
  | boolean
  | number
  | color
  | angle
  deriving DecidableEq, Repr

namespace ArgumentKind

/-- The tag of a kind. -/
def tag : ArgumentKind → String
  | .string => "STRING"
  | .boolean => "BOOLEAN"
  | .number => "NUMBER"
  | .color => "COLOR"
  | .angle => "ANGLE"

def all : List ArgumentKind := [.string, .boolean, .number, .color, .angle]

def ofTag? (tag : String) : Option ArgumentKind := all.find? (·.tag = tag)

theorem ofTag?_tag (kind : ArgumentKind) : ofTag? kind.tag = some kind := by
  cases kind <;> decide

def reference (kind : ArgumentKind) : String := "Scratch.ArgumentType." ++ kind.tag

/-- The method that turns an input into code of this kind; colors and angles are read as text. -/
def accessor : ArgumentKind → String
  | .number => "asNumber"
  | .boolean => "asBoolean"
  | .string => "asString"
  | .color => "asString"
  | .angle => "asString"

end ArgumentKind

/-! ## Kinds of returned values -/

/-- What a block returns, as far as the host is told. A block need not say it. -/
inductive ReturnKind where
  | string
  | boolean
  | number
  deriving DecidableEq, Repr

namespace ReturnKind

/-- The tag of a kind. -/
def tag : ReturnKind → String
  | .string => "STRING"
  | .boolean => "BOOLEAN"
  | .number => "NUMBER"

def all : List ReturnKind := [.string, .boolean, .number]

def ofTag? (tag : String) : Option ReturnKind := all.find? (·.tag = tag)

theorem ofTag?_tag (kind : ReturnKind) : ofTag? kind.tag = some kind := by
  cases kind <;> decide

/-- The host's constant for a block that returns this kind, or does not say what it returns. -/
def inputType : Option ReturnKind → String
  | some .string => "TYPE_STRING"
  | some .boolean => "TYPE_BOOLEAN"
  | some .number => "TYPE_NUMBER"
  | none => "TYPE_UNKNOWN"

end ReturnKind

end BlockExtension
