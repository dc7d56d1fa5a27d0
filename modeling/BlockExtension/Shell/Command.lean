import BlockExtension.Shell.Octets

/-!
# Shell commands

What a script is once it has been read: commands made of words, and words made
of stretches that stand for themselves or for something that is put in their
place when the command runs. Commands and words contain each other, since the
output of a command may be put into a word.
-/

namespace BlockExtension.Shell

/-- Which language a script is in: the standard one, or the one with extensions. -/
inductive Dialect where
  | standard
  | extended
  deriving DecidableEq, Repr

/-- When a word stands in for the value of a parameter. -/
inductive Fallback where
  /-- In place of a missing value. -/
  | default
  /-- In place of a missing value, which it becomes. -/
  | assign
  /-- In place of a missing value, as the reason for which the script ends. -/
  | complain
  /-- In place of a value that is there. -/
  | alternative
  deriving DecidableEq, Repr

/-- An end of a text. -/
inductive Side where
  | front
  | back
  deriving DecidableEq, Repr

/-- What becomes of letters. -/
inductive Recasing where
  | raise
  | lower
  | swap
  deriving DecidableEq, Repr

/-- How a choice goes on behind one of its cases. -/
inductive Onward where
  /-- It ends. -/
  | stop
  | next
  /-- The next cases are tried, too. -/
  | retry
  deriving DecidableEq, Repr

/-- Which places of a text a pattern is sought at. -/
inductive Reach where
  | first
  | all
  | atFront
  | atBack
  deriving DecidableEq, Repr

/-- What a file is opened for. -/
inductive Access where
  | read
  | write
  /-- Writing, even if the script asks for files to be kept. -/
  | overwrite
  | append
  | both
  deriving DecidableEq, Repr

mutual

/-- A stretch of a word. -/
inductive Part where
  /-- Characters outside quotation marks, which may make up a pattern. -/
  | literal (text : Octets)
  /-- Characters that stand for themselves. -/
  | quoted (text : Octets)
  | parameter (name : Octets) (subscript : Option (List Part)) (use : Use) (quoted : Bool)
  /-- What a command writes. -/
  | output (body : Command) (quoted : Bool)
  | value (expression : List Part) (quoted : Bool)
  /-- A file from which what a command writes is read, or which a command reads. -/
  | passage (reads : Bool) (body : Command)

/-- What is made of the value of a parameter. -/
inductive Use where
  | plain
  | length
  /-- With a colon an empty value counts as missing. -/
  | fallback (kind : Fallback) (colon : Bool) (word : List Part)
  | without (side : Side) (longest : Bool) (pattern : List Part)
  | slice (start : List Part) (count : Option (List Part))
  | replace (reach : Reach) (pattern replacement : List Part)
  /-- The letters that a pattern matches change their case: the first one or all. -/
  | recase (change : Recasing) (all : Bool) (pattern : List Part)
  /-- Something made of the value of the parameter that the value names. -/
  | indirect (use : Use)
  /-- What the texts of the value are found by. -/
  | keys
  | names (joins : Bool)
  | form (letter : Char)
  | meaningless (text : Octets)

/-- Something that is done to a descriptor before a command runs. -/
inductive Redirection where
  | file (descriptor : Nat) (access : Access) (name : List Part)
  /-- The descriptor goes where another one goes, or nowhere for a hyphen. -/
  | duplicate (descriptor : Nat) (source : List Part)
  /-- The descriptor reads a text that stands in the script. -/
  | document (descriptor : Nat) (index : Nat)
  | word (descriptor : Nat) (text : List Part)
  /-- The descriptor is a new one, or the one that a variable holds. -/
  | held (name : Octets) (inner : Redirection)

/-- A value for a variable. -/
inductive Assignment where
  | single (name : Octets) (adds : Bool) (value : List Part)
  | element (name : Octets) (subscript : List Part) (adds : Bool) (value : List Part)
  | list (name : Octets) (adds : Bool) (items : List Item)

/-- An item of a list that is assigned. -/
inductive Item where
  | plain (value : List Part)
  | placed (subscript : List Part) (adds : Bool) (value : List Part)

/-- A piece of a condition between double brackets. -/
inductive Term where
  | operator (text : String)
  | word (parts : List Part)

/-- A command. -/
inductive Command where
  | nothing
  /-- What is declared are lists that stand among the words. -/
  | simple (line : Nat) (assignments : List Assignment) (words : List (List Part))
      (declared : List Assignment) (redirections : List Redirection)
  /-- The second one reads what the first one writes. -/
  | pipe (first second : Command)
  | negation (body : Command)
  /-- The second one runs if the first one succeeds. -/
  | both (first second : Command)
  /-- The second one runs if the first one fails. -/
  | either (first second : Command)
  | sequence (first second : Command)
  | background (body : Command)
  | subshell (line : Nat) (body : Command) (redirections : List Redirection)
  | redirected (line : Nat) (body : Command) (redirections : List Redirection)
  | branch (condition consequence alternative : Command)
  /-- The body runs again as long as the condition succeeds, or fails, as `wanted` says. -/
  | loop (wanted : Bool) (condition body : Command)
  /-- The body runs for each item, by default for each positional parameter. -/
  | each (line : Nat) (name : Octets) (items : Option (List (List Part))) (body : Command)
  /-- The body runs as long as an expression is not zero. -/
  | count (line : Nat) (start condition step : List Part) (body : Command)
  /-- The body runs for each item that the user picks. -/
  | menu (line : Nat) (name : Octets) (items : Option (List (List Part))) (body : Command)
  | choice (line : Nat) (subject : List Part)
      (cases : List (List (List Part) × Command × Onward))
  | function (name : Octets) (line : Nat) (body : Command)
  /-- It is told how long the body takes, perhaps in the standard form. -/
  | timed (plainly : Bool) (body : Command)
  | condition (line : Nat) (terms : List Term)
  | calculation (line : Nat) (expression : List Part)

end

instance : Inhabited Command := ⟨.nothing⟩

abbrev Word := List Part

namespace Word

/-- The text of a word in which nothing is quoted and nothing is put in place of anything. -/
def bare? : Word → Option Octets
  | [] => some []
  | .literal text :: rest => (bare? rest).map (text ++ ·)
  | _ :: _ => none

/-- The text of a word whose quotation marks are taken away, and whether there were any. -/
def unquoted : Word → Octets × Bool
  | [] => ([], false)
  | .literal text :: rest =>
      let (more, marked) := unquoted rest
      (text ++ more, marked)
  | .quoted text :: rest => (text ++ (unquoted rest).1, true)
  | _ :: rest => unquoted rest

/-- Adds a character outside quotation marks to a word that is kept backwards. -/
def addLiteral (c : Char) : Word → Word
  | .literal text :: before => .literal (c :: text) :: before
  | before => .literal [c] :: before

/-- Adds a character that stands for itself to a word that is kept backwards. -/
def addQuoted (c : Char) : Word → Word
  | .quoted text :: before => .quoted (c :: text) :: before
  | before => .quoted [c] :: before

def turned (backwards : Word) : Word :=
  backwards.reverse.map fun
    | .literal text => .literal text.reverse
    | .quoted text => .quoted text.reverse
    | part => part

end Word

end BlockExtension.Shell
