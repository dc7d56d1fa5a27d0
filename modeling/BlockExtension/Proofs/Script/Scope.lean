import BlockExtension.Proofs.Script.Alike

/-!
# The names that a scope binds

Two declarations of one name in one scope keep the host from loading a script at
all, and so does a declaration of a word that the language keeps for itself. To say
that neither happens, the names have to be read off the script. `Reader` does that
over the pieces of `Lexer`: it follows the parameters of a function and the
declarations of its body, and skips whatever stands in brackets or in a literal,
where scopes of their own begin. A declaration that it has no rule for, such as one
with a nested pattern, leaves it `lost`, so it never overlooks a name in silence.
The emitted text declares nothing with `var` inside a block, the one case in which a
name would reach out of brackets.

## Main results

* `readPieces_append`: pieces are read part by part.
* `nested_run`, `Alike.hidden`: whatever stands inside brackets declares nothing.
* `Reads.append`, `Reads.name`: what texts that are put together declare.
-/

namespace BlockExtension.Script

/--
The words that strict code cannot bind: those that the language reserves, and `eval`
and `arguments`. `await` is not among them, since only modules reserve it and the
emitted text is a script.
-/
def reservedWords : List String :=
  ["break", "case", "catch", "class", "const", "continue", "debugger", "default", "delete", "do",
    "else", "enum", "export", "extends", "false", "finally", "for", "function", "if", "import",
    "in", "instanceof", "new", "null", "return", "super", "switch", "this", "throw", "true", "try",
    "typeof", "var", "void", "while", "with",
    "implements", "interface", "let", "package", "private", "protected", "public", "static",
    "yield", "eval", "arguments"]

def IsBindingName (name : String) : Prop := isIdentifier name ∧ name ∉ reservedWords

instance : DecidablePred IsBindingName := fun _ => inferInstanceAs (Decidable (_ ∧ _))

/-- Names that strict code can bind in one scope. -/
def Declarable (names : List String) : Prop :=
  names.Nodup ∧ ∀ name ∈ names, IsBindingName name

namespace Lexer

/-! ## What a piece is for a reader of names -/

/--
What a piece of a script is for a reader of names. Literals are a kind of brackets here,
whose content declares nothing.
-/
inductive Sign where
  | letter (c : Char)
  /-- What stands between words: white space or a comment. -/
  | blank
  | opens (bracket : Option Bracket)
  | closes (bracket : Option Bracket)
  | comma
  | dot
  | semicolon
  | other
  deriving DecidableEq, Repr

/-- What a piece is; a substitution stays inside its template literal. -/
def sign : Piece → Sign
  | .code c =>
      if isIdentifierPart c then .letter c
      else if isSpace c || isLineEnd c then .blank
      else if c = ',' then .comma
      else if c = '.' then .dot
      else if c = ';' then .semicolon
      else
        match role c with
        | .opens bracket => .opens (some bracket)
        | .closes bracket => .closes (some bracket)
        | _ => .other
  | .comment => .blank
  | .opens _ => .opens none
  | .closes _ => .closes none
  | .content _ => .other
  | .substitutes => .other
  | .resumes => .other

/-! ## The reader -/

/--
Where a reader stands in the function whose names it reads. It knows statements by their
first word, and skips whatever is in brackets.
-/
inductive Place where
  /-- Before the round bracket that the function stands in. -/
  | outside
  | heading
  | parameters
  | behindParameters
  | statement
  /-- Inside a statement that declares nothing more. -/
  | phrase
  /-- Where a declared name or a pattern stands. -/
  | binder
  | pattern
  /-- Behind a declared name or a pattern. -/
  | bound
  /-- Where the name of a class or a function stands. -/
  | title
  | finished
  | lost
  deriving DecidableEq, Repr

/-- A reader: its place, the brackets that it skips, and the word that it is in. -/
structure Reader where
  place : Place
  depth : Nat
  word : List Char
  deriving DecidableEq, Repr

namespace Reader

def ofPlace (place : Place) : Reader := ⟨place, 0, []⟩

def bindingWords : List (List Char) :=
  [['c', 'o', 'n', 's', 't'], ['l', 'e', 't'], ['v', 'a', 'r']]

/-- The words that begin a declaration of a class or a function. -/
def titleWords : List (List Char) :=
  [['c', 'l', 'a', 's', 's'], ['f', 'u', 'n', 'c', 't', 'i', 'o', 'n']]

/--
The end of a word, and the name that it declares. The first word of a statement says whether
names are declared behind it.
-/
def finishWord : Place → List Char → Place × List (List Char)
  | place, [] => (place, [])
  | .parameters, word => (.parameters, [word])
  | .statement, word =>
      (if word ∈ bindingWords then .binder else if word ∈ titleWords then .title else .phrase, [])
  | .binder, word => (.bound, [word])
  | .pattern, word => (.pattern, [word])
  | .title, word => (.phrase, [word])
  | place, _ => (place, [])

/-- A mark of a statement that goes on as `place` and may end. -/
def statementMark (place : Place) : Sign → Reader
  | .semicolon => ofPlace .statement
  | .opens _ => ⟨place, 1, []⟩
  | .closes (some .curly) => ofPlace .finished
  | .closes _ => ofPlace .lost
  | _ => ofPlace place

/--
A mark outside of brackets. Marks that may not stand where the reader is make it lose its
way for good.
-/
def mark : Place → Sign → Reader
  | place, .blank => ofPlace place
  | .outside, .opens (some .round) => ofPlace .heading
  | .heading, .opens (some .round) => ofPlace .parameters
  | .parameters, .comma => ofPlace .parameters
  | .parameters, .dot => ofPlace .parameters
  | .parameters, .closes (some .round) => ofPlace .behindParameters
  | .behindParameters, .opens (some .curly) => ofPlace .statement
  | .statement, sign => statementMark .phrase sign
  | .phrase, sign => statementMark .phrase sign
  | .binder, .opens (some .curly) => ofPlace .pattern
  | .pattern, .comma => ofPlace .pattern
  | .pattern, .closes (some .curly) => ofPlace .bound
  | .bound, .comma => ofPlace .binder
  | .bound, sign => statementMark .bound sign
  | .finished, _ => ofPlace .finished
  | _, _ => ofPlace .lost

/-- A mark inside brackets; a closed block ends its statement. -/
def skipMark (place : Place) (depth : Nat) : Sign → Reader
  | .opens _ => ⟨place, depth + 2, []⟩
  | .closes bracket =>
      if depth = 0 ∧ bracket = some .curly ∧ place = .phrase then ofPlace .statement
      else ⟨place, depth, []⟩
  | _ => ⟨place, depth + 1, []⟩

/-- What one sign does, and the names that it completes. -/
def step (reader : Reader) (sign : Sign) : Reader × List (List Char) :=
  match reader.depth with
  | depth + 1 => (skipMark reader.place depth sign, [])
  | 0 =>
      match sign with
      | .letter c => (⟨reader.place, 0, reader.word ++ [c]⟩, [])
      | sign =>
          (mark (finishWord reader.place reader.word).1 sign,
            (finishWord reader.place reader.word).2)

end Reader

/-- What pieces do, and the names that they declare, in order. -/
def readPieces (reader : Reader) : List Piece → Reader × List (List Char)
  | [] => (reader, [])
  | piece :: pieces =>
      let first := reader.step (sign piece)
      let rest := readPieces first.1 pieces
      (rest.1, first.2 ++ rest.2)

/-- The names that a complete text declares on the way from one place to another. -/
def namesBetween (first last : Place) (text : String) : Option (List String) :=
  let lexed := run start text.toList
  let reading := readPieces (.ofPlace first) lexed.2
  if lexed.1 = start ∧ reading.1 = .ofPlace last then some (reading.2.map String.ofList) else none

def blockNames : String → Option (List String) := namesBetween .statement .statement

/-- The names bound in a function: its parameters, and what the body declares. -/
def functionNames : String → Option (List String) := namesBetween .heading .finished

def enclosedFunctionNames : String → Option (List String) := namesBetween .outside .finished

/-! ## Parts of a text -/

@[simp] theorem readPieces_nil (reader : Reader) : readPieces reader [] = (reader, []) := rfl

theorem readPieces_cons (reader : Reader) (piece : Piece) (pieces : List Piece) :
    readPieces reader (piece :: pieces) =
      ((readPieces (reader.step (sign piece)).1 pieces).1,
        (reader.step (sign piece)).2 ++ (readPieces (reader.step (sign piece)).1 pieces).2) := rfl

/-- Pieces are read part by part. -/
theorem readPieces_append (reader : Reader) (front back : List Piece) :
    readPieces reader (front ++ back) =
      ((readPieces (readPieces reader front).1 back).1,
        (readPieces reader front).2 ++ (readPieces (readPieces reader front).1 back).2) := by
  induction front generalizing reader with
  | nil => rfl
  | cons piece front ih =>
      rw [List.cons_append, readPieces_cons, readPieces_cons, ih, List.append_assoc]

/-! ## What brackets hide

A reader that skips brackets only counts them. It counts what the lexer has open:
the brackets, and one more inside a literal.
-/

/-- A sign that is neither an opening nor a closing one. -/
def Sign.isFlat : Sign → Bool
  | .opens _ => false
  | .closes _ => false
  | _ => true

theorem isFlat_sign_of_plain {c : Char} (h : role c = .plain) : (sign (.code c)).isFlat := by
  simp only [sign, h]
  split_ifs <;> rfl

/-- An opening bracket of the code is read as one. -/
theorem sign_of_role_opens {c : Char} {bracket : Bracket} (h : role c = .opens bracket) :
    sign (.code c) = .opens (some bracket) := by
  revert h
  fun_cases role c <;> rintro ⟨⟩
  all_goals
    subst_vars
    decide

/-- A closing bracket of the code is read as one. -/
theorem sign_of_role_closes {c : Char} {bracket : Bracket} (h : role c = .closes bracket) :
    sign (.code c) = .closes (some bracket) := by
  revert h
  fun_cases role c <;> rintro ⟨⟩
  all_goals
    subst_vars
    decide

theorem eq_slash_of_role {c : Char} (h : role c = .slash) : c = '/' := by
  revert h
  fun_cases role c <;> rintro ⟨⟩
  assumption

theorem role_of_isLineEnd {c : Char} (h : isLineEnd c) : role c = .plain := by
  simp only [isLineEnd, Bool.or_eq_true, decide_eq_true_eq] at h
  obtain ((rfl | rfl) | rfl) | rfl := h <;> decide

/--
Pieces that lead from `n` open marks to `m` and close no mark that was open further out. A
reader inside brackets only counts over them.
-/
inductive Nested : Nat → Nat → List Piece → Prop where
  | nil {n : Nat} : Nested n n []
  | consFlat {n m : Nat} {piece : Piece} {pieces : List Piece} (first : (sign piece).isFlat)
      (rest : Nested n m pieces) : Nested n m (piece :: pieces)
  | consOpens {n m : Nat} {piece : Piece} {pieces : List Piece} {bracket : Option Bracket}
      (first : sign piece = .opens bracket) (rest : Nested (n + 1) m pieces) :
      Nested n m (piece :: pieces)
  | consCloses {n m : Nat} {piece : Piece} {pieces : List Piece} {bracket : Option Bracket}
      (first : sign piece = .closes bracket) (rest : Nested n m pieces) :
      Nested (n + 1) m (piece :: pieces)

namespace Nested

variable {n m k : Nat} {front back : List Piece} {piece : Piece}

theorem append (hFront : Nested n m front) (hBack : Nested m k back) :
    Nested n k (front ++ back) := by
  induction hFront with
  | nil => exact hBack
  | consFlat first _ ih => exact .consFlat first (ih hBack)
  | consOpens first _ ih => exact .consOpens first (ih hBack)
  | consCloses first _ ih => exact .consCloses first (ih hBack)

theorem flat (h : (sign piece).isFlat) : Nested n n [piece] := .consFlat h .nil

theorem opens {bracket : Option Bracket} (h : sign piece = .opens bracket) :
    Nested n (n + 1) [piece] := .consOpens h .nil

theorem closes {bracket : Option Bracket} (h : sign piece = .closes bracket) :
    Nested (n + 1) n [piece] := .consCloses h .nil

/-- Flat pieces open and close nothing. -/
theorem all (h : ∀ piece ∈ back, (sign piece).isFlat) : Nested n n back := by
  induction back with
  | nil => exact .nil
  | cons piece back ih =>
      exact .consFlat (h piece (List.mem_cons_self ..))
        (ih fun other hMem => h other (List.mem_cons_of_mem _ hMem))

private theorem step_skipMark (place : Place) (depth : Nat) (sign : Sign) :
    Reader.step ⟨place, depth + 1, []⟩ sign = (Reader.skipMark place depth sign, []) := rfl

/--
A reader inside brackets only counts, and finds no names. It is back where it was once it
has counted down.
-/
theorem readPieces_eq (h : Nested n m front) (place : Place) (depth : Nat) :
    readPieces ⟨place, depth + 1 + n, []⟩ front = (⟨place, depth + 1 + m, []⟩, []) := by
  induction h with
  | nil => rfl
  | consFlat first _ ih =>
      rw [Nat.add_right_comm] at ih ⊢
      rw [readPieces_cons, step_skipMark]
      revert first
      cases sign _ with
      | opens bracket => exact nofun
      | closes bracket => exact nofun
      | _ => exact fun _ => ih
  | @consOpens n m piece pieces bracket first _ ih =>
      have hCount : Reader.skipMark place (depth + n) (.opens bracket) =
          ⟨place, depth + 1 + (n + 1), []⟩ := by
        rw [Reader.skipMark]
        exact congrArg (Reader.mk place · []) (by omega)
      rw [Nat.add_right_comm, readPieces_cons, step_skipMark, first, hCount]
      exact ih
  | @consCloses n m piece pieces bracket first _ ih =>
      have hCount : Reader.skipMark place (depth + 1 + n) (.closes bracket) =
          ⟨place, depth + 1 + n, []⟩ := by
        simp [Reader.skipMark]
      rw [← Nat.add_assoc, readPieces_cons, step_skipMark, first, hCount]
      exact ih

end Nested

/-- The open marks of a mode: that of the literal, if the lexer is in one. -/
def Mode.marks : Mode → Nat
  | .literal _ _ => 1
  | _ => 0

def State.marks (state : State) : Nat := state.opened.length + state.mode.marks

section Literals

variable {delimiter : Delimiter} {n : Nat}

private theorem nested_plainStep {c : Char} (h : (plainStep delimiter c).1 ≠ .broken) :
    Nested (n + 1) (n + (plainStep delimiter c).1.marks) (plainStep delimiter c).2 := by
  unfold plainStep at h ⊢
  split_ifs at h ⊢
  · exact .closes rfl
  · exact .nil
  · exact .nil
  · exact .flat rfl
  · exact .flat rfl
  · exact absurd rfl h
  · exact .flat rfl

private theorem nested_scalar {value : Nat} (h : (scalar delimiter value).1 ≠ .broken) :
    Nested (n + 1) (n + (scalar delimiter value).1.marks) (scalar delimiter value).2 := by
  unfold scalar at h ⊢
  split_ifs at h ⊢
  · exact .flat rfl
  · exact absurd rfl h

private theorem nested_digitStep {left value : Nat} {c : Char}
    (h : (digitStep delimiter left value c).1 ≠ .broken) :
    Nested (n + 1) (n + (digitStep delimiter left value c).1.marks)
      (digitStep delimiter left value c).2 := by
  unfold digitStep at h ⊢
  split at h
  · exact absurd rfl h
  · split_ifs at h ⊢
    · exact nested_scalar h
    · exact .nil

private theorem nested_bracedStep {value : Option Nat} {c : Char}
    (h : (bracedStep delimiter value c).1 ≠ .broken) :
    Nested (n + 1) (n + (bracedStep delimiter value c).1.marks)
      (bracedStep delimiter value c).2 := by
  unfold bracedStep at h ⊢
  split at h
  · dsimp only at h ⊢
    split_ifs at h ⊢
    · exact .nil
    · exact absurd rfl h
  · split_ifs at h ⊢
    · exact nested_scalar h
    · exact absurd rfl h
  · exact absurd rfl h

private theorem nested_escapeStep {c : Char} (h : (escapeStep delimiter c).1 ≠ .broken) :
    Nested (n + 1) (n + (escapeStep delimiter c).1.marks) (escapeStep delimiter c).2 := by
  unfold escapeStep at h ⊢
  split at h
  · exact .flat rfl
  · split_ifs at h ⊢
    · exact .flat rfl
    · exact absurd rfl h
    · exact .nil
    · exact .nil
    · exact .nil
    · exact .nil
    · exact .flat rfl

/-- A literal opens nothing that it does not close. -/
private theorem nested_literalStep {phase : Phase} {c : Char}
    (h : (literalStep delimiter phase c).1 ≠ .broken) :
    Nested (n + 1) (n + (literalStep delimiter phase c).1.marks)
      (literalStep delimiter phase c).2 := by
  cases phase with
  | plain => exact nested_plainStep h
  | dollar => exact .consFlat rfl (nested_plainStep h)
  | carriage =>
      simp only [literalStep] at h ⊢
      split_ifs at h ⊢
      · exact .nil
      · exact nested_plainStep h
  | escape => exact nested_escapeStep h
  | zero =>
      simp only [literalStep] at h ⊢
      split_ifs at h ⊢
      · exact absurd rfl h
      · exact nested_plainStep h
  | digits left value => exact nested_digitStep h
  | unicode =>
      simp only [literalStep] at h ⊢
      split_ifs at h ⊢
      · exact .nil
      · exact nested_digitStep h
  | braced value => exact nested_bracedStep h

end Literals

private theorem nested_codeStep {opened : List Bracket} {c : Char}
    (h : (codeStep opened c).1.mode ≠ .broken) :
    Nested opened.length (codeStep opened c).1.marks (codeStep opened c).2 := by
  unfold codeStep at h ⊢
  cases hRole : role c with
  | quotes delimiter => exact .opens rfl
  | slash => exact .nil
  | opens bracket => exact .opens (sign_of_role_opens hRole)
  | plain => exact .flat (isFlat_sign_of_plain hRole)
  | closes bracket =>
      rw [hRole] at h
      dsimp only at h ⊢
      cases opened with
      | nil => exact absurd rfl h
      | cons found rest =>
          simp only [close] at h ⊢
          split_ifs at h ⊢
          · exact .closes (sign_of_role_closes hRole)
          · exact .flat rfl
          · exact absurd rfl h

/-- One character of the script keeps count of the open marks. -/
private theorem nested_step {state : State} {c : Char} (h : (step state c).1.mode ≠ .broken) :
    Nested state.marks (step state c).1.marks (step state c).2 := by
  obtain ⟨mode, opened⟩ := state
  cases mode with
  | code => exact nested_codeStep h
  | slash =>
      simp only [step, slashStep] at h ⊢
      split_ifs at h ⊢
      · exact .flat rfl
      · exact .flat rfl
      · exact .consFlat (by decide) (nested_codeStep h)
  | lineComment =>
      simp only [step, lineCommentStep]
      split_ifs with hEnd
      · exact .flat (isFlat_sign_of_plain (role_of_isLineEnd hEnd))
      · exact .nil
  | blockComment star =>
      simp only [step, blockCommentStep]
      split_ifs
      · exact .nil
      · exact .nil
  | literal delimiter phase =>
      simp only [step] at h ⊢
      split_ifs at h ⊢
      · exact .flat rfl
      · exact nested_literalStep h
  | broken => exact absurd rfl h

/-- Inside brackets, a text that breaks no rule declares nothing. -/
theorem nested_run {state : State} {text : List Char} (h : (run state text).1.mode ≠ .broken) :
    Nested state.marks (run state text).1.marks (run state text).2 := by
  induction text generalizing state with
  | nil => exact .nil
  | cons c text ih =>
      have hStep : (step state c).1.mode ≠ .broken := by
        intro hBroken
        rw [run_cons, run_broken hBroken] at h
        exact h hBroken
      rw [run_cons] at h ⊢
      exact (nested_step hStep).append (ih h)

/-! ## Words and literals outside of brackets -/

theorem Reader.finishWord_nil (place : Place) : finishWord place [] = (place, []) := by
  cases place <;> rfl

/-- Where words are names, an identifier is one. -/
theorem Reader.finishWord_name {place next : Place} {name : String} (hName : isIdentifier name)
    (hWord : ∀ c rest, finishWord place (c :: rest) = (next, [c :: rest])) :
    finishWord place name.toList = (next, [name].map String.toList) := by
  rw [isIdentifier] at hName
  cases hText : name.toList with
  | nil => simp [hText, isIdentifierText] at hName
  | cons c rest => rw [hWord, List.map_singleton, hText]

theorem Reader.finishWord_heading (word : List Char) :
    finishWord .heading word = (.heading, []) := by
  cases word <;> rfl

theorem Reader.finishWord_bound (word : List Char) : finishWord .bound word = (.bound, []) := by
  cases word <;> rfl

/-- Outside of brackets, what is no letter ends the word in front of it and is a mark. -/
theorem Reader.step_mark {sign : Sign} (h : ∀ c, sign ≠ .letter c) (place : Place)
    (word : List Char) :
    Reader.step ⟨place, 0, word⟩ sign =
      (mark (finishWord place word).1 sign, (finishWord place word).2) := by
  cases sign with
  | letter c => exact absurd rfl (h c)
  | _ => rfl

/-- The letters of a word are taken up. -/
theorem readPieces_word {word : List Char} (h : ∀ c ∈ word, isIdentifierPart c) (place : Place)
    (begun : List Char) :
    readPieces ⟨place, 0, begun⟩ (word.map .code) = (⟨place, 0, begun ++ word⟩, []) := by
  induction word generalizing begun with
  | nil => simp
  | cons c word ih =>
      have hSign : sign (.code c) = .letter c := by simp [sign, h c (List.mem_cons_self ..)]
      rw [List.map_cons, readPieces_cons, hSign]
      have hRest := ih (fun d hd => h d (List.mem_cons_of_mem _ hd)) (begun ++ [c])
      rw [List.append_assoc] at hRest
      exact Prod.ext (congrArg Prod.fst hRest) (congrArg Prod.snd hRest)

/-- What is no letter ends the word in front of it. -/
theorem readPieces_finishWord {piece : Piece} (h : ∀ c, sign piece ≠ .letter c) (place : Place)
    (word : List Char) (pieces : List Piece) :
    readPieces ⟨place, 0, word⟩ (piece :: pieces) =
      ((readPieces (.ofPlace (Reader.finishWord place word).1) (piece :: pieces)).1,
        (Reader.finishWord place word).2 ++
          (readPieces (.ofPlace (Reader.finishWord place word).1) (piece :: pieces)).2) := by
  rw [readPieces_cons, readPieces_cons, Reader.ofPlace, Reader.step_mark h, Reader.step_mark h,
    Reader.finishWord_nil, List.nil_append]

/-- A literal outside of brackets is skipped. -/
theorem readPieces_literal {place next : Place} {content : List Piece}
    (h : Reader.mark place (.opens none) = ⟨next, 1, []⟩)
    (hContent : ∀ piece ∈ content, (sign piece).isFlat) (delimiter : Delimiter) :
    readPieces (.ofPlace place) (.opens delimiter :: (content ++ [.closes delimiter])) =
      (.ofPlace next, []) := by
  have hOpens : (Reader.ofPlace place).step (sign (.opens delimiter)) = (⟨next, 1, []⟩, []) := by
    rw [Reader.ofPlace, Reader.step_mark (by simp [sign]), Reader.finishWord_nil, sign, h]
  have hCloses : readPieces ⟨next, 1, []⟩ [.closes delimiter] = (.ofPlace next, []) := by
    simp [readPieces, Reader.step, Reader.skipMark, sign, Reader.ofPlace]
  have hInside := (Nested.all (n := 0) hContent).readPieces_eq next 0
  rw [readPieces_cons, hOpens, readPieces_append, hInside, hCloses]
  rfl

/-! ## Texts -/

/--
A text that leads the lexer from code to code, from the brackets `before` to the
brackets `after`, and a reader from `first` to `last`, with the names that it declares.
-/
def Reads (before after : List Bracket) (first last : Reader) (text : String)
    (names : List String) : Prop :=
  ∃ pieces, run ⟨.code, before⟩ text.toList = (⟨.code, after⟩, pieces) ∧
    readPieces first pieces = (last, names.map String.toList)

section Reads

variable {before middle after opened : List Bracket} {first between last : Reader}
  {text front back : String} {names more : List String}

theorem Reads.append (hFront : Reads before middle first between front names)
    (hBack : Reads middle after between last back more) :
    Reads before after first last (front ++ back) (names ++ more) := by
  obtain ⟨p, hP, hNames⟩ := hFront
  obtain ⟨q, hQ, hMore⟩ := hBack
  refine ⟨p ++ q, ?_, ?_⟩
  · rw [String.toList_append, run_append, hP, hQ]
    rfl
  · rw [readPieces_append, hNames, hMore, List.map_append]

/-- Text that declares nothing may follow. -/
theorem Reads.appendSilent (hFront : Reads before middle first between front names)
    (hBack : Reads middle after between last back []) :
    Reads before after first last (front ++ back) names := by
  have hWhole := hFront.append hBack
  rwa [List.append_nil] at hWhole

/-- What a complete text declares between two places is read off it. -/
theorem Reads.namesBetween_eq {place next : Place}
    (h : Reads [] [] (.ofPlace place) (.ofPlace next) text names) :
    namesBetween place next text = some names := by
  obtain ⟨pieces, hRun, hNames⟩ := h
  rw [namesBetween, show run start text.toList = (start, pieces) from hRun, hNames]
  simp [Function.comp_def]

example : functionNames "f(a, ...b) \x7b const \x7b c \x7d = a, d = () => \x7b let x; \x7d; \x7d " =
    some ["a", "b", "c", "d"] := by
  decide +kernel

theorem reads_nil {reader : Reader} : Reads opened opened reader reader "" [] := ⟨[], rfl, rfl⟩

/-- Text that is written down character by character. -/
theorem reads_fixed {text : List Char}
    (h : (run ⟨.code, before⟩ text).1 = ⟨.code, after⟩ ∧
      readPieces first (run ⟨.code, before⟩ text).2 = (last, names.map String.toList)) :
    Reads before after first last (String.ofList text) names := by
  refine ⟨(run ⟨.code, before⟩ text).2, ?_, h.2⟩
  rw [String.toList_ofList, ← h.1]

/-- Text that is written down character by character and declares one name. -/
theorem reads_fixedName {text name : List Char}
    (h : (run ⟨.code, before⟩ text).1 = ⟨.code, after⟩ ∧
      readPieces first (run ⟨.code, before⟩ text).2 = (last, [name])) :
    Reads before after first last (String.ofList text) [String.ofList name] := by
  refine reads_fixed ⟨h.1, ?_⟩
  rw [List.map_singleton, String.toList_ofList]
  exact h.2

/-- Open brackets around a text do not change what it declares. -/
theorem Reads.inside (h : Reads before after first last text names) (outer : List Bracket) :
    Reads (before ++ outer) (after ++ outer) first last text names := by
  obtain ⟨pieces, hRun, hNames⟩ := h
  exact ⟨pieces, run_inside outer hRun, hNames⟩

/-- A text that is complete in itself closes every mark that it opens, and no other. -/
theorem Alike.exists_nested (h : Alike [] [] text text) :
    ∃ pieces, Nested 0 0 pieces ∧
      ∀ opened, run ⟨.code, opened⟩ text.toList = (⟨.code, opened⟩, pieces) := by
  obtain ⟨pieces, _, hRun, _, _⟩ := h
  have hUnbroken : (run start text.toList).1.mode ≠ .broken := by
    rw [start, hRun]
    exact fun hBroken => by cases hBroken
  have hNested := nested_run hUnbroken
  rw [start, hRun] at hNested
  exact ⟨pieces, hNested, fun opened => run_inside opened hRun⟩

/-- Where a reader skips brackets, a text that is complete in itself declares nothing. -/
theorem Alike.hidden (h : Alike [] [] text text) (opened : List Bracket) (place : Place)
    (depth : Nat) :
    Reads opened opened ⟨place, depth + 1, []⟩ ⟨place, depth + 1, []⟩ text [] := by
  obtain ⟨pieces, hNested, hRun⟩ := h.exists_nested
  exact ⟨pieces, hRun opened, hNested.readPieces_eq place depth⟩

/-- A quoted string outside of brackets declares nothing. -/
theorem reads_quote {place next : Place}
    (h : Reader.mark place (.opens none) = ⟨next, 1, []⟩) (content : String) :
    Reads opened opened (.ofPlace place) (.ofPlace next) (quote content) [] := by
  refine ⟨_, run_quote content opened, readPieces_literal h ?_ .double⟩
  intro piece hMem
  obtain ⟨c, _, rfl⟩ := List.mem_map.1 hMem
  rfl

/-- A blank between words changes nothing. -/
theorem reads_blank {c : Char} (hPlain : role c = .plain) (hBlank : sign (.code c) = .blank)
    (place : Place) (depth : Nat) :
    Reads opened opened ⟨place, depth, []⟩ ⟨place, depth, []⟩ (String.ofList [c]) [] := by
  refine ⟨[.code c], ?_, ?_⟩
  · rw [String.toList_ofList]
    exact run_plain (IsPlain.cons hPlain fun _ h => by cases h) opened
  · rw [readPieces_cons, hBlank]
    cases depth with
    | zero =>
        rw [Reader.step_mark (by simp), Reader.finishWord_nil]
        cases place <;> rfl
    | succ depth => rfl

/-- A line end between words changes nothing. -/
theorem reads_feed (place : Place) (depth : Nat) :
    Reads opened opened ⟨place, depth, []⟩ ⟨place, depth, []⟩ "\n" [] :=
  reads_blank (by decide) (by decide) place depth

theorem spaces_succ (n : Nat) : spaces (n + 1) = spaces n ++ " " := by
  rw [← String.toList_inj, spaces, spaces, String.pushn_eq_repeat_push,
    String.pushn_eq_repeat_push, Nat.repeat, String.toList_push, String.toList_append]
  rfl

/-- Spaces between words change nothing. -/
theorem reads_spaces (n : Nat) (opened : List Bracket) (place : Place) (depth : Nat) :
    Reads opened opened ⟨place, depth, []⟩ ⟨place, depth, []⟩ (spaces n) [] := by
  induction n with
  | zero => exact reads_nil
  | succ n ih =>
      rw [spaces_succ]
      exact ih.append (reads_blank (by decide) (by decide) place depth)

/-- Text in front of which a word ends begins with a piece that is no letter. -/
private theorem exists_head_of_ends {c : Char} (hPart : isIdentifierPart c = false)
    (hSlash : c ≠ '/') (opened : List Bracket) (rest : List Char) :
    ∃ piece tail, (run ⟨.code, opened⟩ (c :: rest)).2 = piece :: tail ∧
      ∀ d, sign piece ≠ .letter d := by
  have hCode : ∀ d, sign (.code c) ≠ .letter d := by
    intro d
    simp only [sign, hPart, Bool.false_eq_true, if_false]
    split_ifs
    · simp
    · simp
    · simp
    · simp
    · split <;> simp
  have hStep : ∃ piece, (codeStep opened c).2 = [piece] ∧ ∀ d, sign piece ≠ .letter d := by
    unfold codeStep
    cases hRole : role c with
    | quotes delimiter => exact ⟨_, rfl, fun d h => by cases h⟩
    | slash => exact absurd (eq_slash_of_role hRole) hSlash
    | opens bracket => exact ⟨_, rfl, hCode⟩
    | plain => exact ⟨_, rfl, hCode⟩
    | closes bracket =>
        dsimp only [close]
        split
        · exact ⟨_, rfl, hCode⟩
        · split_ifs
          · exact ⟨_, rfl, hCode⟩
          · exact ⟨_, rfl, fun d h => by cases h⟩
          · exact ⟨_, rfl, hCode⟩
  obtain ⟨piece, hPiece, hSign⟩ := hStep
  refine ⟨piece, (run (codeStep opened c).1 rest).2, ?_, hSign⟩
  rw [run_cons]
  change (codeStep opened c).2 ++ _ = _
  rw [hPiece]
  rfl

/-- A name that stands at a place, with text behind it that is no part of the name. -/
theorem Reads.name {name : String} {place next : Place} {c : Char} {rest : List Char}
    (hName : isIdentifier name)
    (hPlace : Reader.finishWord place name.toList = (next, names.map String.toList))
    (hEnds : back.toList = c :: rest) (hPart : isIdentifierPart c = false) (hSlash : c ≠ '/')
    (hBack : Reads before after (.ofPlace next) last back more) :
    Reads before after (.ofPlace place) last (name ++ back) (names ++ more) := by
  obtain ⟨pieces, hRun, hMore⟩ := hBack
  refine ⟨name.toList.map .code ++ pieces, ?_, ?_⟩
  · rw [String.toList_append, run_append, run_plain (isPlain_of_isIdentifier hName), hRun]
    rfl
  · obtain ⟨piece, tail, rfl, hSign⟩ :
        ∃ piece tail, pieces = piece :: tail ∧ ∀ c, sign piece ≠ .letter c := by
      have hHead := exists_head_of_ends hPart hSlash before rest
      rwa [← hEnds, hRun] at hHead
    rw [readPieces_append, Reader.ofPlace, readPieces_word (isIdentifierPart_of_mem hName),
      List.nil_append, readPieces_finishWord hSign, hPlace, hMore, List.map_append]
    rfl

/-- A word that stands where no name is declared, with text behind it that is no part of it. -/
theorem Reads.word {name : String} {place next : Place} {c : Char} {rest : List Char}
    (hName : isIdentifier name) (hPlace : Reader.finishWord place name.toList = (next, []))
    (hEnds : back.toList = c :: rest) (hPart : isIdentifierPart c = false) (hSlash : c ≠ '/')
    (hBack : Reads before after (.ofPlace next) last back more) :
    Reads before after (.ofPlace place) last (name ++ back) more := by
  have hWhole : Reads before after (.ofPlace place) last (name ++ back) ([] ++ more) :=
    hBack.name hName hPlace hEnds hPart hSlash
  exact hWhole

end Reads

end Lexer

end BlockExtension.Script
