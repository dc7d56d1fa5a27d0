import BlockExtension.Proofs.Script.Lexer
import BlockExtension.Script.Literal
import BlockExtension.Template
import Mathlib.Data.List.Chain

/-!
# What the host reads in the literals of a module

Three things of a configuration get into the emitted module. Names go in as they
are, free text goes in as a quoted string, and code goes in between the back
quotes of a template literal. This file runs the machine of `Lexer` over each of
them.

A quoted string hands over the text that was quoted, character by character. A
template literal does nearly the same for its literal code: the escapes undo
themselves, but a carriage return is read as a line feed, and a carriage return
with its line feed as one. `normalize` is that reading, and `run_literalBody`
says that nothing else happens to a template.

## Main results

* `run_plain`: text without marks and brackets is code, character by character.
* `run_quote`: a quoted string is read as the text that was quoted.
* `run_literalBody`: the body of a template literal is read as its segments, with
  the line ends of the literal code normalized.
* `normalize_eq_self_iff`: only a carriage return is lost.
-/

namespace BlockExtension.Script.Lexer

open BlockExtension (CodeSegment CodeTemplate)

/-! ## Plain text -/

/-- A text that only consists of plain characters of the code. -/
def IsPlain (text : List Char) : Prop := ∀ c ∈ text, role c = .plain

theorem IsPlain.append {front back : List Char} (hFront : IsPlain front) (hBack : IsPlain back) :
    IsPlain (front ++ back) := by
  intro c hc
  rcases List.mem_append.1 hc with hc | hc
  · exact hFront c hc
  · exact hBack c hc

theorem IsPlain.cons {c : Char} {text : List Char} (hFirst : role c = .plain)
    (hRest : IsPlain text) : IsPlain (c :: text) := by
  intro d hd
  rcases List.mem_cons.1 hd with rfl | hd
  · exact hFirst
  · exact hRest d hd

theorem IsPlain.subset {part text : List Char} (hPart : part ⊆ text) (h : IsPlain text) :
    IsPlain part := fun c hc => h c (hPart hc)

theorem isPlain_replicate {c : Char} (h : role c = .plain) (n : Nat) :
    IsPlain (List.replicate n c) := by
  intro d hd
  rw [List.eq_of_mem_replicate hd]
  exact h

/-- Plain text is code, character by character. -/
theorem run_plain {text : List Char} (h : IsPlain text) (opened : List Bracket) :
    run ⟨.code, opened⟩ text = (⟨.code, opened⟩, text.map .code) := by
  induction text with
  | nil => rfl
  | cons c text ih =>
      have hStep : step ⟨.code, opened⟩ c = (⟨.code, opened⟩, [.code c]) := by
        simp [step, codeStep, h c (by simp)]
      rw [run_cons, hStep, ih fun d hd => h d (by simp [hd])]
      rfl

/-- The marks and brackets, which are the characters that are not plain. -/
def marks : List Char := ['"', '\'', '\x60', '/', '(', '[', '\x7b', ')', ']', '\x7d']

/-- A character other than the marks and brackets is plain. -/
theorem role_eq_plain {c : Char} (h : c ∉ marks) : role c = .plain := by
  simp only [marks, List.mem_cons, List.not_mem_nil, or_false, not_or] at h
  simp [role, h]

theorem role_of_isIdentifierPart {c : Char} (h : isIdentifierPart c) : role c = .plain := by
  have hMarks : marks.all (fun d => !isIdentifierPart d) := by decide
  refine role_eq_plain fun hMem => ?_
  have hOther := List.all_eq_true.1 hMarks c hMem
  simp [h] at hOther

/-- The parts of an identifier are identifier characters. -/
theorem isIdentifierPart_of_mem {text : List Char} (h : isIdentifierText text) :
    ∀ c ∈ text, isIdentifierPart c := by
  cases text with
  | nil => simp
  | cons first rest =>
      simp only [isIdentifierText, Bool.and_eq_true, List.all_eq_true] at h
      intro c hc
      rcases List.mem_cons.1 hc with rfl | hc
      · exact isIdentifierPart_of_isIdentifierStart h.1
      · exact h.2 c hc

theorem isPlain_of_isIdentifier {name : String} (h : isIdentifier name) : IsPlain name.toList :=
  fun c hc => role_of_isIdentifierPart (isIdentifierPart_of_mem h c hc)

/-! ## Quoted strings -/

private theorem run_escapeChar_control : ∀ n, n < 0x20 →
    run ⟨.literal .double .plain, []⟩ (Json.escapeChar (Char.ofNat n)) =
      (⟨.literal .double .plain, []⟩, [.content (Char.ofNat n)]) := by
  decide +kernel

private theorem escapeChar_eq_self {c : Char} (hControl : ¬ c.toNat < 0x20) (hQuote : c ≠ '"')
    (hSlash : c ≠ '\\') : Json.escapeChar c = [c] := by
  have hne : ∀ d : Char, d.toNat < 0x20 → c ≠ d := by
    rintro d hd rfl
    exact hControl hd
  unfold Json.escapeChar
  split
  · exact absurd rfl hQuote
  · exact absurd rfl hSlash
  · exact absurd rfl (hne '\n' (by decide))
  · exact absurd rfl (hne '\r' (by decide))
  · exact absurd rfl (hne '\t' (by decide))
  · rw [if_neg (by omega), if_neg (by omega), if_neg hControl]

/-- A character as it stands in a quoted string is read as itself. -/
private theorem run_escapeChar (c : Char) (opened : List Bracket) :
    run ⟨.literal .double .plain, opened⟩ (Json.escapeChar c) =
      (⟨.literal .double .plain, opened⟩, [.content c]) := by
  by_cases hControl : c.toNat < 0x20
  · have hRun := run_escapeChar_control c.toNat hControl
    rw [Char.ofNat_toNat] at hRun
    have hWhole : (run ⟨.literal .double .plain, []⟩ (Json.escapeChar c)).1.mode ≠ .broken := by
      simp [hRun]
    simpa [hRun, within] using run_frame opened hWhole
  · by_cases hQuote : c = '"'
    · subst hQuote
      rfl
    · by_cases hSlash : c = '\\'
      · subst hSlash
        rfl
      · have hFeed : c ≠ '\n' := by
          rintro rfl
          exact hControl (by decide)
        have hReturn : c ≠ '\r' := by
          rintro rfl
          exact hControl (by decide)
        rw [escapeChar_eq_self hControl hQuote hSlash]
        simp [run_cons, step, literalStep, plainStep, keeping, after, Delimiter.mark, hQuote,
          hSlash, hFeed, hReturn]

private theorem run_quoteBody (text : List Char) (opened : List Bracket) :
    run ⟨.literal .double .plain, opened⟩ (Json.quoteBody text) =
      (⟨.literal .double .plain, opened⟩, text.map .content) := by
  induction text with
  | nil => rfl
  | cons c text ih =>
      rw [Json.quoteBody, List.flatMap_cons, run_append, run_escapeChar,
        show text.flatMap Json.escapeChar = Json.quoteBody text from rfl, ih]
      rfl

def quotedPieces (text : String) : List Piece :=
  .opens .double :: (text.toList.map .content ++ [.closes .double])

/-- A quoted string is read as the text that was quoted. -/
theorem run_quote (text : String) (opened : List Bracket) :
    run ⟨.code, opened⟩ (quote text).toList = (⟨.code, opened⟩, quotedPieces text) := by
  have hEnds : run ⟨.literal .double .plain, opened⟩ ['"'] =
      (⟨.code, opened⟩, [.closes .double]) := rfl
  rw [quote, Json.quote, String.toList_ofList, List.cons_append, run_cons, run_append,
    show step ⟨.code, opened⟩ '"' = (⟨.literal .double .plain, opened⟩, [.opens .double]) from rfl,
    run_quoteBody, hEnds]
  rfl

/-! ## Template literals -/

/-- The text with every line end of its own written as a line feed. -/
def normalize : List Char → List Char
  | [] => []
  | '\r' :: '\n' :: rest => '\n' :: normalize rest
  | '\r' :: rest => '\n' :: normalize rest
  | c :: rest => c :: normalize rest

/-- Text that goes on with neither a brace nor a line feed, so that it leaves alone what is
before it. -/
def Settled (text : List Char) : Prop := ∃ c rest, text = c :: rest ∧ c ≠ '\x7b' ∧ c ≠ '\n'

theorem Settled.cons {c : Char} {rest : List Char} (hBrace : c ≠ '\x7b') (hFeed : c ≠ '\n') :
    Settled (c :: rest) := ⟨c, rest, rfl, hBrace, hFeed⟩

section Template

variable {opened : List Bracket}

/-- A `$` that no brace follows stands for itself. -/
private theorem run_dollar {text : List Char} (h : ∃ c rest, text = c :: rest ∧ c ≠ '\x7b') :
    run ⟨.literal .template .dollar, opened⟩ text =
      after [.content '$'] (run ⟨.literal .template .plain, opened⟩ text) := by
  obtain ⟨c, rest, rfl, hBrace⟩ := h
  have hStep : step ⟨.literal .template .dollar, opened⟩ c =
      after [.content '$'] (step ⟨.literal .template .plain, opened⟩ c) := by
    simp [step, hBrace, literalStep, keeping, after]
  rw [run_cons, run_cons, hStep]
  rfl

/-- A carriage return that no line feed follows is a line end of its own. -/
private theorem run_carriage {text : List Char} (h : ∃ c rest, text = c :: rest ∧ c ≠ '\n') :
    run ⟨.literal .template .carriage, opened⟩ text =
      run ⟨.literal .template .plain, opened⟩ text := by
  obtain ⟨c, rest, rfl, hFeed⟩ := h
  have hStep : step ⟨.literal .template .carriage, opened⟩ c =
      step ⟨.literal .template .plain, opened⟩ c := by
    simp [step, literalStep, hFeed]
  rw [run_cons, run_cons, hStep]

/-- Escaped code begins with a character that `c` is not unless the code itself begins with `c`. -/
private theorem escape_append_head {c : Char} {text rest : List Char} (hSlash : c ≠ '\\')
    (hText : ∀ more, text ≠ c :: more) (hRest : ∃ d more, rest = d :: more ∧ d ≠ c) :
    ∃ d more, CodeTemplate.escape text ++ rest = d :: more ∧ d ≠ c := by
  unfold CodeTemplate.escape
  split
  · exact hRest
  · exact ⟨_, _, rfl, hSlash.symm⟩
  · exact ⟨_, _, rfl, hSlash.symm⟩
  · exact ⟨_, _, rfl, hSlash.symm⟩
  · next d more _ _ _ => exact ⟨d, _, rfl, fun hd => hText more (by rw [hd])⟩

/--
A character of literal code other than a carriage return is read as itself. It may be
written with a backslash in front, which is not read as content.
-/
private theorem run_escape_cons {d : Char} {text rest : List Char} (hReturn : d ≠ '\r')
    (hRest : ∃ c more, rest = c :: more ∧ c ≠ '\x7b') :
    run ⟨.literal .template .plain, opened⟩ (CodeTemplate.escape (d :: text) ++ rest) =
      after [.content d]
        (run ⟨.literal .template .plain, opened⟩ (CodeTemplate.escape text ++ rest)) := by
  by_cases hSlash : d = '\\'
  · subst hSlash
    rfl
  · by_cases hQuote : d = '\x60'
    · subst hQuote
      rfl
    · by_cases hDollar : d = '$'
      · subst hDollar
        by_cases hOpen : ∃ more, text = '\x7b' :: more
        · obtain ⟨more, rfl⟩ := hOpen
          rw [show CodeTemplate.escape ('\x7b' :: more) = '\x7b' :: CodeTemplate.escape more by
            simp [CodeTemplate.escape]]
          rfl
        · have hText : ∀ more, text ≠ '\x7b' :: more := fun more h => hOpen ⟨more, h⟩
          rw [show CodeTemplate.escape ('$' :: text) = '$' :: CodeTemplate.escape text by
            simp [CodeTemplate.escape, hText]]
          rw [List.cons_append, run_cons,
            show step ⟨.literal .template .plain, opened⟩ '$' =
              (⟨.literal .template .dollar, opened⟩, []) from rfl,
            run_dollar (escape_append_head (by decide) hText hRest)]
          rfl
      · rw [show CodeTemplate.escape (d :: text) = d :: CodeTemplate.escape text by
          simp [CodeTemplate.escape, hDollar]]
        rw [List.cons_append, run_cons,
          show step ⟨.literal .template .plain, opened⟩ d =
            (⟨.literal .template .plain, opened⟩, [.content d]) by
          simp [step, literalStep, plainStep, keeping, Delimiter.mark, hSlash, hQuote, hDollar,
            hReturn]]

/--
Literal code is read as itself with its line ends normalized. A carriage return swallows
the line feed behind it, so there the reading goes on two characters later.
-/
theorem run_escape {text rest : List Char} (hRest : Settled rest) :
    run ⟨.literal .template .plain, opened⟩ (CodeTemplate.escape text ++ rest) =
      after ((normalize text).map .content)
        (run ⟨.literal .template .plain, opened⟩ rest) := by
  obtain ⟨c, more, hEq, hBrace, hFeed⟩ := hRest
  fun_induction normalize text with
  | case1 => rfl
  | case2 text ih =>
      rw [show CodeTemplate.escape ('\r' :: '\n' :: text) =
        '\r' :: '\n' :: CodeTemplate.escape text by simp [CodeTemplate.escape]]
      rw [List.cons_append, List.cons_append, run_cons, run_cons,
        show step ⟨.literal .template .plain, opened⟩ '\r' =
          (⟨.literal .template .carriage, opened⟩, [.content '\n']) from rfl,
        show step ⟨.literal .template .carriage, opened⟩ '\n' =
          (⟨.literal .template .plain, opened⟩, []) from rfl, ih]
      simp
  | case3 text hNoFeed ih =>
      rw [show CodeTemplate.escape ('\r' :: text) = '\r' :: CodeTemplate.escape text by
        simp [CodeTemplate.escape]]
      have hHead := escape_append_head (c := '\n') (by decide)
        (fun more h => hNoFeed more h) ⟨c, more, hEq, hFeed⟩
      rw [List.cons_append, run_cons,
        show step ⟨.literal .template .plain, opened⟩ '\r' =
          (⟨.literal .template .carriage, opened⟩, [.content '\n']) from rfl,
        run_carriage hHead, ih]
      simp
  | case4 d text _ hReturn ih =>
      rw [run_escape_cons hReturn ⟨c, more, hEq, hBrace⟩, ih]
      simp

theorem toList_substitution (id : String) :
    (CodeTemplate.substitution id).toList = '$' :: '\x7b' :: (id.toList ++ ['\x7d']) := by
  simp [CodeTemplate.substitution]

/-- An identifier in a template literal is read as a substitution. -/
theorem run_substitution {id : String} (h : isIdentifier id) (rest : List Char) :
    run ⟨.literal .template .plain, opened⟩
        ((CodeTemplate.substitution id).toList ++ rest) =
      after (.substitutes :: (id.toList.map .code ++ [.resumes]))
        (run ⟨.literal .template .plain, opened⟩ rest) := by
  have hOpens : run ⟨.literal .template .plain, opened⟩ ['$', '\x7b'] =
      (⟨.code, .substitution :: opened⟩, [.substitutes]) := rfl
  have hCloses : run ⟨.code, .substitution :: opened⟩ ['\x7d'] =
      (⟨.literal .template .plain, opened⟩, [.resumes]) := rfl
  rw [toList_substitution, show '$' :: '\x7b' :: (id.toList ++ ['\x7d']) ++ rest =
      ['$', '\x7b'] ++ (id.toList ++ (['\x7d'] ++ rest)) by simp,
    run_append, hOpens, run_append, run_plain (isPlain_of_isIdentifier h), run_append, hCloses]
  simp

def segmentText : CodeSegment → List Char
  | .literal text => CodeTemplate.escape text.toList
  | .argument id => (CodeTemplate.substitution id).toList

/-- The body of a template literal is made of its segments. -/
theorem toList_literalBody (template : CodeTemplate) :
    template.literalBody.toList = template.segments.flatMap segmentText := by
  rw [CodeTemplate.literalBody, String.toList_join, List.flatMap_map]
  congr 1
  funext segment
  cases segment <;> simp [segmentText]

def segmentPieces : CodeSegment → List Piece
  | .literal text => (normalize text.toList).map .content
  | .argument id => .substitutes :: (id.toList.map .code ++ [.resumes])

def IsLiteral : CodeSegment → Prop
  | .literal _ => True
  | .argument _ => False

/-- No two segments of literal code stand next to each other. -/
def Separated (segments : List CodeSegment) : Prop :=
  segments.IsChain fun a b => ¬ (IsLiteral a ∧ IsLiteral b)

/-- Behind literal code stands a substitution or what follows the body. -/
private theorem settled_of_separated {text : String} {segments : List CodeSegment}
    {rest : List Char} (h : Separated (.literal text :: segments)) (hRest : Settled rest) :
    Settled (segments.flatMap segmentText ++ rest) := by
  cases segments with
  | nil => exact hRest
  | cons next segments =>
      cases next with
      | literal text => exact absurd ⟨trivial, trivial⟩ h.rel
      | argument id =>
          rw [List.flatMap_cons, segmentText, toList_substitution]
          exact .cons (by decide) (by decide)

/-- The body of a template literal is read as its segments. -/
theorem run_literalBody {template : CodeTemplate} {rest : List Char}
    (hSeparated : Separated template.segments)
    (hIds : ∀ id, .argument id ∈ template.segments → isIdentifier id) (hRest : Settled rest) :
    run ⟨.literal .template .plain, opened⟩ (template.literalBody.toList ++ rest) =
      after (template.segments.flatMap segmentPieces)
        (run ⟨.literal .template .plain, opened⟩ rest) := by
  rw [toList_literalBody]
  generalize template.segments = segments at hSeparated hIds
  induction segments with
  | nil => rfl
  | cons segment segments ih =>
      have hTail := ih hSeparated.tail fun id h => hIds id (by simp [h])
      rw [List.flatMap_cons, List.append_assoc]
      cases segment with
      | argument id =>
          rw [segmentText, run_substitution (hIds id (by simp)), hTail]
          simp [segmentPieces]
      | literal text =>
          rw [segmentText, run_escape (settled_of_separated hSeparated hRest), hTail]
          simp [segmentPieces]

end Template

/-! ## What normalizing loses -/

/-- Normalizing makes no text longer. -/
theorem length_normalize_le (text : List Char) : (normalize text).length ≤ text.length := by
  fun_induction normalize text with
  | case1 => exact Nat.le_refl _
  | case2 text ih => simp only [List.length_cons]; omega
  | case3 text _ ih => simp only [List.length_cons]; omega
  | case4 c text _ _ ih => simp only [List.length_cons]; omega

/-- Normalizing changes nothing exactly when there is no carriage return. -/
theorem normalize_eq_self_iff {text : List Char} : normalize text = text ↔ '\r' ∉ text := by
  fun_induction normalize text with
  | case1 => simp
  | case2 text ih => simp
  | case3 text _ ih => simp
  | case4 c text _ hReturn ih =>
      simp only [List.cons.injEq, true_and, ih, List.mem_cons, not_or]
      exact ⟨fun h => ⟨fun hc => hReturn hc.symm, h⟩, fun h => h.2⟩

end BlockExtension.Script.Lexer
