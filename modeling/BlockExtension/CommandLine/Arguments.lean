import BlockExtension.Association

/-!
# Command-line arguments

What a command line asks for, and how it is read. There are four slots for
values, two of them filled by position and two by name, and two switches. A text
that starts with two hyphens names a slot or a switch, and a value may follow
the name in the next text or behind an equals sign; a lone `--` says that every
text after it goes into a slot by position. A lone hyphen is a text like any
other.

A value waits until it is certain that its slot is complete, that is until the
next slot or switch is begun or the command line ends. Only then is it looked
at, so of two things wrong the one noticed first need not be the one that stands
first.
-/

namespace BlockExtension.CommandLine

/-- What a command line asks for. -/
structure Arguments where
  configuration : Option String
  /-- The path that the module is written to. -/
  output : Option String
  randomNames : Bool
  /-- The module is written as it is generated. -/
  unformatted : Bool
  /-- The program that formats the module; no program has an empty name. -/
  formatter : String
  descriptor : Option String
  deriving DecidableEq, Repr

def defaultFormatter : String := "prettier"

/-! ## Slots and switches -/

/-- A place for a value. -/
inductive Slot where
  | configuration
  | output
  | formatter
  | descriptor
  deriving DecidableEq, Repr

def Slot.positional : List Slot := [.configuration, .output]

def Slot.shown : Slot → String
  | .configuration => "[CONFIG]"
  | .output => "[OUTPUT]"
  | .formatter => "--prettier <PROGRAM>"
  | .descriptor => "--emit-descriptor <PATH>"

def Slot.isPath : Slot → Bool
  | .formatter => false
  | _ => true

/-- Something that is asked for by its name alone. -/
inductive Switch where
  | randomNames
  | unformatted
  deriving DecidableEq, Repr

def Switch.shown : Switch → String
  | .randomNames => "--random-ids"
  | .unformatted => "--no-format"

/-- What a name behind two hyphens means: one of the slots, one of the two switches, or help. -/
inductive Choice where
  | help
  | switch (switch : Switch)
  | slot (slot : Slot)
  deriving DecidableEq, Repr

/-- The options by their names. -/
def Choice.ofName? : String → Option Choice
  | "help" => some .help
  | "random-ids" => some (.switch .randomNames)
  | "no-format" => some (.switch .unformatted)
  | "prettier" => some (.slot .formatter)
  | "emit-descriptor" => some (.slot .descriptor)
  | _ => none

/-! ## What stops reading -/

/-- Why reading stops before there is anything to do. Help is the only reason that is no error. -/
inductive Stop where
  | help
  | unknown (text : String)
  | valueMissing (slot : Slot)
  | pathEmpty (slot : Slot)
  /-- A value stands behind the name of something that takes none. -/
  | valueUnwanted (name value : String)
  | slotRepeated (slot : Slot)
  | switchRepeated (switch : Switch)
  deriving DecidableEq, Repr

def Stop.exitStatus : Stop → Nat
  | .help => 0
  | _ => 2

/-! ## Single texts -/

/-- What one text of a command line is. -/
inductive Token where
  | divider
  /-- Two hyphens and a name, perhaps with a value behind an equals sign. -/
  | named (name : String) (value : Option String)
  | letters (first : Char)
  | plain (text : String)
  deriving DecidableEq, Repr

def Token.ofNamed (text : List Char) : Token :=
  let name := String.ofList (text.takeWhile (· ≠ '='))
  match text.dropWhile (· ≠ '=') with
  | [] => .named name none
  | _ :: value => .named name (some (String.ofList value))

def Token.ofText (text : String) : Token :=
  match text.toList with
  | ['-', '-'] => .divider
  | '-' :: '-' :: rest => .ofNamed rest
  | '-' :: first :: _ => .letters first
  | _ => .plain text

/-! ## Reading -/

/--
How far a command line is read: what has been asked for by now, and the slot that may still
be given a value.
-/
structure Reader where
  values : List (Slot × String)
  switches : List Switch
  /-- The slot that was begun last, with its value as far as there is one. -/
  waiting : Option (Slot × Option String)
  /-- The slots that are still to be filled by position. -/
  places : List Slot
  divided : Bool

namespace Reader

def start : Reader := ⟨[], [], none, Slot.positional, false⟩

/-- Puts a value into a slot. -/
def fill (reader : Reader) (slot : Slot) (value : String) : Except Stop Reader :=
  if (reader.values.lookup slot).isSome then .error (.slotRepeated slot)
  else if slot.isPath && value.isEmpty then .error (.pathEmpty slot)
  else .ok { reader with values := Association.put reader.values slot value }

/-- Completes the slot that was begun last. -/
def settle (reader : Reader) : Except Stop Reader :=
  match reader.waiting with
  | none => .ok reader
  | some (slot, none) => .error (.valueMissing slot)
  | some (slot, some value) => { reader with waiting := none }.fill slot value

def turnOn (reader : Reader) (switch : Switch) : Except Stop Reader :=
  if reader.switches.contains switch then .error (.switchRepeated switch)
  else .ok { reader with switches := switch :: reader.switches }

/-- Puts a text into the next slot that is filled by position. -/
def place (reader : Reader) (text : String) : Except Stop Reader :=
  match reader.places with
  | [] => .error (.unknown text)
  | slot :: places =>
      reader.settle.map fun reader =>
        { reader with waiting := some (slot, some text), places := places }

def askForHelp (reader : Reader) : Except Stop Reader :=
  reader.settle.bind fun _ => .error .help

def bareOption (reader : Reader) : Choice → Except Stop Reader
  | .help => reader.askForHelp
  | .switch switch => reader.settle.bind (·.turnOn switch)
  | .slot slot => reader.settle.map fun reader => { reader with waiting := some (slot, none) }

def valuedOption (reader : Reader) (name value : String) : Choice → Except Stop Reader
  | .slot slot => reader.settle.bind (·.fill slot value)
  | _ => .error (.valueUnwanted ("--" ++ name) value)

/-- Reads one text. -/
def step (reader : Reader) (text : String) : Except Stop Reader :=
  if reader.divided then reader.place text
  else
    match Token.ofText text with
    | .divider => .ok { reader with divided := true }
    | .named name value =>
        match Choice.ofName? name, value with
        | none, _ => .error (.unknown ("--" ++ name))
        | some option, none => reader.bareOption option
        | some option, some value => reader.valuedOption name value option
    | .letters 'h' => reader.askForHelp
    | .letters first => .error (.unknown (String.ofList ['-', first]))
    | .plain text =>
        match reader.waiting with
        | some (slot, none) => .ok { reader with waiting := some (slot, some text) }
        | _ => reader.place text

/-- Reads texts in order. -/
def steps (reader : Reader) : List String → Except Stop Reader
  | [] => .ok reader
  | text :: rest => (reader.step text).bind (·.steps rest)

/-- What has been asked for, with the defaults for all else. -/
def arguments (reader : Reader) : Arguments :=
  { configuration := reader.values.lookup .configuration
    output := reader.values.lookup .output
    randomNames := reader.switches.contains .randomNames
    unformatted := reader.switches.contains .unformatted
    formatter := (reader.values.lookup .formatter).getD defaultFormatter
    descriptor := reader.values.lookup .descriptor }

end Reader

def Arguments.ofTexts (texts : List String) : Except Stop Arguments :=
  ((Reader.start.steps texts).bind Reader.settle).map Reader.arguments

end BlockExtension.CommandLine
