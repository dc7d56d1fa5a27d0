import BlockExtension.Script.Identifier

/-!
# How the host reads a script

The emitted module is read by the host's own lexical rules. This file states
those rules as one machine that takes a text character by character: comments,
strings in either quotation mark, template literals with substitutions inside
them, and the three kinds of brackets. What the machine hands over is a list of
**pieces**: a character of the code itself, a comment, or the beginning, a
character of the content, and the end of a literal. The content is *cooked*, so
an escape sequence is one piece, the character it stands for, and a line end of
a template is a line feed however it was written.

The rules are those of strict code. There an octal escape is an error, and so
is a raw line end in a string. A surrogate has no character of its own and is
refused, and so is anything else that leaves the machine without a rule: it then
stays `broken`. A slash that opens no comment is a character of the code, since
the module writes no regular expressions.

## Main results

* `run_append`: a text is read part by part.
* `run_frame`: brackets that are open around a text do not change how it is read.
-/

namespace BlockExtension.Script

/-! ## Classes of characters -/

def isLineEnd (c : Char) : Bool :=
  c = '\n' || c = '\r' || c = '\u2028' || c = '\u2029'

/-- The ranges of white space within a line: tabs, form feed, byte-order mark and the spaces. -/
def spaceRanges : List (Nat × Nat) :=
  [(0x9, 0x9), (0xB, 0xC), (0x20, 0x20), (0xA0, 0xA0), (0x1680, 0x1680), (0x2000, 0x200A),
   (0x202F, 0x202F), (0x205F, 0x205F), (0x3000, 0x3000), (0xFEFF, 0xFEFF)]

/-- A character that is white space of the script within a line. -/
def isSpace (c : Char) : Bool :=
  spaceRanges.any fun range => range.1 ≤ c.toNat && c.toNat ≤ range.2

namespace Lexer

/-! ## States and pieces -/

/-- The marks that a literal text stands between. -/
inductive Delimiter where
  | double
  | single
  | template
  deriving DecidableEq, Repr

def Delimiter.mark : Delimiter → Char
  | .double => '"'
  | .single => '\''
  | .template => '\x60'

/--
Where the machine stands inside a literal text. All phases but the plain one wait for a
character that may belong to what has begun.
-/
inductive Phase where
  | plain
  /-- Behind a `$` that a brace may follow. -/
  | dollar
  /-- Behind a carriage return, to whose line end a line feed still belongs. -/
  | carriage
  | escape
  /-- Behind the escape of the null character, which no digit may follow. -/
  | zero
  | digits (left value : Nat)
  /-- Behind the `u` of an escape. -/
  | unicode
  /-- Inside an escape in braces; no value before its first digit. -/
  | braced (value : Option Nat)
  deriving DecidableEq, Repr

/--
Where the machine stands: in the code, in a comment or in a literal text. From a text that
is no script it comes to a mode that it never leaves.
-/
inductive Mode where
  | code
  /-- Behind a slash of the code, which may open a comment. -/
  | slash
  | lineComment
  | blockComment (star : Bool)
  | literal (delimiter : Delimiter) (phase : Phase)
  | broken
  deriving DecidableEq, Repr

/-- A bracket that is open. -/
inductive Bracket where
  | round
  | square
  | curly
  | substitution
  deriving DecidableEq, Repr

/-- Where the machine stands, and the brackets around that place, innermost first. -/
structure State where
  mode : Mode
  opened : List Bracket
  deriving DecidableEq, Repr

/--
What a text consists of. The content of a literal is what the literal stands for, whatever
escapes spell it.
-/
inductive Piece where
  | code (c : Char)
  | comment
  | opens (delimiter : Delimiter)
  /-- A character that a literal stands for. -/
  | content (c : Char)
  | closes (delimiter : Delimiter)
  | substitutes
  /-- The template literal goes on behind a substitution. -/
  | resumes
  deriving DecidableEq, Repr

/-- The state before a text and behind a complete one. -/
def start : State := ⟨.code, []⟩

/-- What a character of the code is there for. -/
inductive Role where
  | quotes (delimiter : Delimiter)
  | slash
  | opens (bracket : Bracket)
  | closes (bracket : Bracket)
  | plain
  deriving DecidableEq, Repr

/-- The role of a character. -/
def role (c : Char) : Role :=
  if c = '"' then .quotes .double
  else if c = '\'' then .quotes .single
  else if c = '\x60' then .quotes .template
  else if c = '/' then .slash
  else if c = '(' then .opens .round
  else if c = '[' then .opens .square
  else if c = '\x7b' then .opens .curly
  else if c = ')' then .closes .round
  else if c = ']' then .closes .square
  else if c = '\x7d' then .closes .curly
  else .plain

/-! ## One character -/

/--
A closing bracket: it matches the innermost open one, or ends a substitution. Behind a
substitution the template literal goes on.
-/
def close (bracket : Bracket) (opened : List Bracket) (c : Char) : State × List Piece :=
  match opened with
  | [] => (⟨.broken, []⟩, [.code c])
  | found :: rest =>
      if found = bracket then (⟨.code, rest⟩, [.code c])
      else if found = .substitution ∧ bracket = .curly then
        (⟨.literal .template .plain, rest⟩, [.resumes])
      else (⟨.broken, opened⟩, [.code c])

/-- A character of the code. -/
def codeStep (opened : List Bracket) (c : Char) : State × List Piece :=
  match role c with
  | .quotes delimiter => (⟨.literal delimiter .plain, opened⟩, [.opens delimiter])
  | .slash => (⟨.slash, opened⟩, [])
  | .opens bracket => (⟨.code, bracket :: opened⟩, [.code c])
  | .closes bracket => close bracket opened c
  | .plain => (⟨.code, opened⟩, [.code c])

def slashStep (opened : List Bracket) (c : Char) : State × List Piece :=
  if c = '/' then (⟨.lineComment, opened⟩, [.comment])
  else if c = '*' then (⟨.blockComment false, opened⟩, [.comment])
  else ((codeStep opened c).1, .code '/' :: (codeStep opened c).2)

/-- A character of a line comment; the end of the line is not part of the comment. -/
def lineCommentStep (c : Char) : Mode × List Piece :=
  if isLineEnd c then (.code, [.code c]) else (.lineComment, [])

def blockCommentStep (star : Bool) (c : Char) : Mode × List Piece :=
  if star ∧ c = '/' then (.code, []) else (.blockComment (c = '*'), [])

/--
A character of a literal text that nothing before it bears on. A carriage return of a
template literal counts as a line feed; no other literal may hold a line end.
-/
def plainStep (delimiter : Delimiter) (c : Char) : Mode × List Piece :=
  if c = delimiter.mark then (.code, [.closes delimiter])
  else if c = '\\' then (.literal delimiter .escape, [])
  else if delimiter = .template then
    if c = '$' then (.literal .template .dollar, [])
    else if c = '\r' then (.literal .template .carriage, [.content '\n'])
    else (.literal .template .plain, [.content c])
  else if c = '\n' ∨ c = '\r' then (.broken, [])
  else (.literal delimiter .plain, [.content c])

def letterEscapes : List (Char × Char) :=
  [('n', '\n'), ('r', '\r'), ('t', '\t'), ('b', '\x08'), ('f', '\x0c'), ('v', '\x0b')]

/-- The value of a hexadecimal digit. -/
def hexValue? (c : Char) : Option Nat :=
  if c.isDigit then some (c.toNat - 48)
  else if 'a' ≤ c ∧ c ≤ 'f' then some (c.toNat - 87)
  else if 'A' ≤ c ∧ c ≤ 'F' then some (c.toNat - 55)
  else none

/-- The character with a code point, if there is one. -/
def scalar (delimiter : Delimiter) (value : Nat) : Mode × List Piece :=
  if value.isValidChar then (.literal delimiter .plain, [.content (Char.ofNat value)])
  else (.broken, [])

/-- A digit of an escape with a fixed number of digits. -/
def digitStep (delimiter : Delimiter) (left value : Nat) (c : Char) : Mode × List Piece :=
  match hexValue? c with
  | none => (.broken, [])
  | some digit =>
      if left ≤ 1 then scalar delimiter (16 * value + digit)
      else (.literal delimiter (.digits (left - 1) (16 * value + digit)), [])

/-- A character of an escape in braces. -/
def bracedStep (delimiter : Delimiter) (value : Option Nat) (c : Char) : Mode × List Piece :=
  match hexValue? c, value with
  | some digit, value =>
      let value := 16 * value.getD 0 + digit
      if value ≤ 0x10FFFF then (.literal delimiter (.braced (some value)), []) else (.broken, [])
  | none, some value => if c = '\x7d' then scalar delimiter value else (.broken, [])
  | none, none => (.broken, [])

/--
A character behind a backslash. A line end there stands for nothing, and a letter without a
meaning of its own stands for itself.
-/
def escapeStep (delimiter : Delimiter) (c : Char) : Mode × List Piece :=
  match letterEscapes.lookup c with
  | some meant => (.literal delimiter .plain, [.content meant])
  | none =>
      if c = '0' then (.literal delimiter .zero, [.content '\x00'])
      else if c.isDigit then (.broken, [])
      else if c = 'x' then (.literal delimiter (.digits 2 0), [])
      else if c = 'u' then (.literal delimiter .unicode, [])
      else if c = '\r' then (.literal delimiter .carriage, [])
      else if isLineEnd c then (.literal delimiter .plain, [])
      else (.literal delimiter .plain, [.content c])

/-- A character of a literal text that begins no substitution. -/
def literalStep (delimiter : Delimiter) (phase : Phase) (c : Char) : Mode × List Piece :=
  match phase with
  | .plain => plainStep delimiter c
  | .dollar => ((plainStep delimiter c).1, .content '$' :: (plainStep delimiter c).2)
  | .carriage =>
      if c = '\n' then (.literal delimiter .plain, []) else plainStep delimiter c
  | .escape => escapeStep delimiter c
  | .zero => if c.isDigit then (.broken, []) else plainStep delimiter c
  | .digits left value => digitStep delimiter left value c
  | .unicode =>
      if c = '\x7b' then (.literal delimiter (.braced none), []) else digitStep delimiter 4 0 c
  | .braced value => bracedStep delimiter value c

/-- A result that leaves the brackets as they are. -/
def keeping (opened : List Bracket) (result : Mode × List Piece) : State × List Piece :=
  (⟨result.1, opened⟩, result.2)

/--
What one character does, and the pieces that it completes. A run of these steps reads a text
from its start, once.
-/
def step (state : State) (c : Char) : State × List Piece :=
  match state.mode with
  | .code => codeStep state.opened c
  | .slash => slashStep state.opened c
  | .lineComment => keeping state.opened (lineCommentStep c)
  | .blockComment star => keeping state.opened (blockCommentStep star c)
  | .literal delimiter phase =>
      if phase = .dollar ∧ c = '\x7b' then
        (⟨.code, .substitution :: state.opened⟩, [.substitutes])
      else keeping state.opened (literalStep delimiter phase c)
  | .broken => (state, [])

/-! ## Whole texts -/

def after (pieces : List Piece) (result : State × List Piece) : State × List Piece :=
  (result.1, pieces ++ result.2)

/-- What a text does, and the pieces it consists of. -/
def run (state : State) : List Char → State × List Piece
  | [] => (state, [])
  | c :: rest => after (step state c).2 (run (step state c).1 rest)

@[simp] theorem after_nil (result : State × List Piece) : after [] result = result := rfl

@[simp] theorem after_after (front back : List Piece) (result : State × List Piece) :
    after front (after back result) = after (front ++ back) result := by
  simp [after]

@[simp] theorem run_nil (state : State) : run state [] = (state, []) := rfl

theorem run_cons (state : State) (c : Char) (rest : List Char) :
    run state (c :: rest) = after (step state c).2 (run (step state c).1 rest) := rfl

/-- A text is read part by part. -/
theorem run_append (state : State) (front back : List Char) :
    run state (front ++ back) = after (run state front).2 (run (run state front).1 back) := by
  induction front generalizing state with
  | nil => rfl
  | cons c front ih => simp [run_cons, ih, after]

theorem run_broken {state : State} (h : state.mode = .broken) (text : List Char) :
    run state text = (state, []) := by
  induction text with
  | nil => rfl
  | cons c text ih => rw [run_cons, show step state c = (state, []) by simp [step, h], ih]; rfl

/-! ## Brackets around a text

A text that is read with some brackets open is read in the same way with more of
them open further out, since the machine never looks below the brackets that the
text itself opened.
-/

/-- A result with more brackets open further out. -/
def within (outer : List Bracket) (result : State × List Piece) : State × List Piece :=
  (⟨result.1.mode, result.1.opened ++ outer⟩, result.2)

private theorem close_frame {bracket : Bracket} {opened : List Bracket} {c : Char}
    (outer : List Bracket) (h : (close bracket opened c).1.mode ≠ .broken) :
    close bracket (opened ++ outer) c = within outer (close bracket opened c) := by
  cases opened with
  | nil => exact absurd rfl h
  | cons found rest =>
      simp only [close, List.cons_append] at h ⊢
      split
      · rfl
      · split <;> rfl

private theorem codeStep_frame {opened : List Bracket} {c : Char} (outer : List Bracket)
    (h : (codeStep opened c).1.mode ≠ .broken) :
    codeStep (opened ++ outer) c = within outer (codeStep opened c) := by
  unfold codeStep at h ⊢
  cases hRole : role c with
  | closes bracket =>
      rw [hRole] at h
      exact close_frame outer h
  | quotes delimiter => rfl
  | slash => rfl
  | opens bracket => rfl
  | plain => rfl

private theorem slashStep_frame {opened : List Bracket} {c : Char} (outer : List Bracket)
    (h : (slashStep opened c).1.mode ≠ .broken) :
    slashStep (opened ++ outer) c = within outer (slashStep opened c) := by
  unfold slashStep at h ⊢
  by_cases hLine : c = '/'
  · simp only [hLine, if_true]
    rfl
  · by_cases hBlock : c = '*'
    · subst hBlock
      rfl
    · simp only [hLine, hBlock, if_false] at h ⊢
      rw [codeStep_frame outer h]
      rfl

private theorem step_frame {state : State} {c : Char} (outer : List Bracket)
    (h : (step state c).1.mode ≠ .broken) :
    step ⟨state.mode, state.opened ++ outer⟩ c = within outer (step state c) := by
  obtain ⟨mode, opened⟩ := state
  cases mode with
  | code => exact codeStep_frame outer h
  | slash => exact slashStep_frame outer h
  | lineComment => rfl
  | blockComment star => rfl
  | literal delimiter phase =>
      simp only [step]
      split <;> rfl
  | broken => exact absurd rfl h

/-- A text that is read with some brackets open is read in the same way inside more of them. -/
theorem run_frame {state : State} {text : List Char} (outer : List Bracket)
    (h : (run state text).1.mode ≠ .broken) :
    run ⟨state.mode, state.opened ++ outer⟩ text = within outer (run state text) := by
  induction text generalizing state with
  | nil => rfl
  | cons c text ih =>
      have hStep : (step state c).1.mode ≠ .broken := by
        intro hBroken
        rw [run_cons, run_broken hBroken] at h
        exact h hBroken
      rw [run_cons, run_cons, step_frame outer hStep]
      have hRest := @ih (step state c).1 h
      simp only [within] at hRest ⊢
      rw [hRest]
      rfl

end Lexer

end BlockExtension.Script
