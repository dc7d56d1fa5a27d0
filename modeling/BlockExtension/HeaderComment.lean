import BlockExtension.Text.Blank
import BlockExtension.Text.Lines

/-!
# The comment at the head of a module

A configuration may carry a comment that opens the emitted module. A comment
that already is one block comment, or that consists of line comments only, stands
there as it is, without the blank characters around it. Any other text is framed
as a block comment, one line of it on each line, and whatever would close the
comment early is pulled apart by a space.

## Main results

* `not_closes_loosened`: nothing in a loosened text closes a comment.
-/

namespace BlockExtension.HeaderComment

/-! ## Texts that are comments already -/

/-- A text with a closing mark in it, and what follows the first one. -/
def afterClosing : List Char → Option (List Char)
  | [] => none
  | '*' :: '/' :: rest => some rest
  | _ :: rest => afterClosing rest

/-- The text is one block comment from its first character to its last. -/
def isBlockComment : List Char → Bool
  | '/' :: '*' :: rest => afterClosing rest == some []
  | _ => false

def opensLineComment : List Char → Bool
  | '/' :: '/' :: _ => true
  | _ => false

/--
Every line of the text is blank or a line comment, and it starts with one. A line ends at a
line feed here, and nowhere else.
-/
def isLineComments (text : List Char) : Bool :=
  opensLineComment text &&
    (Text.lines text).all fun line =>
      let line := Text.trimStart line
      line.isEmpty || opensLineComment line

/-! ## Framing -/

/-- The text with a space inside every closing mark, so that it can stand in a block comment. -/
def loosen : List Char → List Char
  | [] => []
  | '*' :: '/' :: rest => '*' :: ' ' :: '/' :: loosen rest
  | c :: rest => c :: loosen rest

/-- A line of the frame; an empty line gets no space after its star. -/
def frameLine (line : List Char) : List Char :=
  let line := loosen line
  if line.isEmpty then [' ', '*', '\n'] else ' ' :: '*' :: ' ' :: line ++ ['\n']

/-- The text as a block comment of its own. -/
def frame (text : List Char) : List Char :=
  '/' :: '*' :: '\n' :: (Text.lines text).flatMap frameLine ++ [' ', '*', '/']

/-- The comment as it stands at the head of a module. -/
def write (comment : String) : String :=
  let text := Text.trim comment.toList
  String.ofList (if isBlockComment text || isLineComments text then text else frame text)

private theorem loosen_eq_slash {text rest : List Char} (h : loosen text = '/' :: rest) :
    ∃ more, text = '/' :: more := by
  unfold loosen at h
  split at h
  · cases h
  · cases h
  · injection h with hHead hTail
    exact ⟨_, by rw [hHead]⟩

/-- Nothing in a loosened text closes a comment. -/
theorem not_closes_loosened (text : List Char) : afterClosing (loosen text) = none := by
  fun_induction loosen text with
  | case1 => rfl
  | case2 rest ih => simpa [afterClosing] using ih
  | case3 c rest hOpen ih =>
      by_cases hStar : c = '*'
      · subst hStar
        cases hLoose : loosen rest with
        | nil => simp [afterClosing]
        | cons d more =>
            by_cases hSlash : d = '/'
            · subst hSlash
              obtain ⟨tail, hTail⟩ := loosen_eq_slash hLoose
              exact absurd hTail (hOpen tail rfl)
            · rw [hLoose] at ih
              rw [afterClosing.eq_def]
              split
              · simp_all
              · simp_all
              · next hEq =>
                  cases hEq
                  exact ih
      · rw [afterClosing.eq_def]
        split
        · simp_all
        · simp_all
        · next hEq =>
            cases hEq
            exact ih

end BlockExtension.HeaderComment
