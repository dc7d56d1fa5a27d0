import BlockExtension.CommandLine.Arguments

/-!
# Progress

The stages that a run goes through, which depend on what is asked for, and the
line that is shown when a stage begins: its label, its number, and a bar that
grows in proportion.
-/

namespace BlockExtension.CommandLine

/-- What a run is busy with. -/
inductive Stage where
  | reading
  | validating
  | emitting
  | formatting
  | writingModule
  | writingDescriptor
  deriving DecidableEq, Repr

/-- What the user is told about a stage. -/
def Stage.label : Stage → String
  | .reading => "Reading config"
  | .validating => "Validating block declarations"
  | .emitting => "Emitting descriptor and compiler patches"
  | .formatting => "Formatting"
  | .writingModule => "Writing module"
  | .writingDescriptor => "Writing descriptor"

def Arguments.stages (arguments : Arguments) : List Stage :=
  [.reading, .validating, .emitting] ++
    (if arguments.unformatted then [] else [.formatting]) ++
    [.writingModule] ++
    (if arguments.descriptor.isSome then [.writingDescriptor] else [])

namespace Progress

def width : Nat := 14

/-- The filled part of the bar at a step: its share of the width, rounded to the nearest. -/
def filled (step total : Nat) : Nat := (step * width + total / 2) / total

/-- The bar at a step. -/
def bar (step total : Nat) : String :=
  let done := filled step total
  "[" ++ String.ofList (List.replicate done '=' ++ List.replicate (width - done) '-') ++ "]"

def line (stages : List Stage) (stage : Stage) : String :=
  let step := stages.idxOf stage + 1
  let total := stages.length
  s!"[Generate] {stage.label}... ({step}/{total}) {bar step total}"

end Progress

end BlockExtension.CommandLine
