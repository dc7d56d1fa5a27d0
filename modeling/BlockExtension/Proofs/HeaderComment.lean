import BlockExtension.ModuleText
import BlockExtension.Proofs.Script.Literals

/-!
# What the header of a module is read as

The comment of a configuration is written in front of the module, and nothing of
it may be read as code. There are three ways to write it. A text that is one
block comment stays one, and a framed text becomes one: nothing in it closes the
comment before its end. The third way keeps a text whose lines are line comments,
and there two notions of a line meet. The writer ends a line at a line feed only,
while the host ends it at a carriage return and at two separators as well; also
the writer skips blank characters that are not white space of the script.

So a kept text has to be read again, line by line in the host's sense, and the
header is only a comment exactly when each of these lines is. `readLine` reads
one line: it may be white space, comments and the part of a block comment.

## Main results

* `pass_of_isBlockComment`: one block comment is read as a comment.
* `isBlockComment_frame`: a framed text is one block comment.
* `pass_lines`: a text is read as trivia exactly when each of its lines is.
* `linesAreComments_of_ordinary`: where the two notions of a line agree, what is
  kept is comments for the host.
* `onlyComments_header_iff`: when a header is nothing but comments.
-/

namespace BlockExtension.HeaderComment

open BlockExtension.Script (isLineEnd isSpace)
open BlockExtension.Script.Lexer

/-! ## Trivia -/

/-- A piece that means nothing to the host: a comment, white space or a line end. -/
def isTrivia : Piece → Bool
  | .comment => true
  | .code c => isSpace c || isLineEnd c
  | _ => false

/-- A complete text that means nothing to the host. -/
def OnlyComments (text : List Char) : Prop :=
  (run start text).1 = start ∧ ∀ piece ∈ (run start text).2, isTrivia piece

instance (text : List Char) : Decidable (OnlyComments text) :=
  inferInstanceAs (Decidable (_ ∧ _))

/-- The state behind a text that is read as trivia. -/
def pass (state : State) (text : List Char) : Option State :=
  if (run state text).2.all isTrivia then some (run state text).1 else none

theorem onlyComments_iff_pass {text : List Char} :
    OnlyComments text ↔ pass start text = some start := by
  unfold OnlyComments pass
  by_cases hTrivia : (run start text).2.all isTrivia
  · have hAll := List.all_eq_true.1 hTrivia
    rw [if_pos hTrivia, Option.some.injEq]
    exact ⟨fun h => h.1, fun h => ⟨h, hAll⟩⟩
  · rw [if_neg hTrivia]
    exact ⟨fun h => absurd (List.all_eq_true.2 h.2) hTrivia, fun h => nomatch h⟩

@[simp] theorem pass_nil (state : State) : pass state [] = some state := rfl

/-- A text is read as trivia part by part. -/
theorem pass_append (state : State) (front back : List Char) :
    pass state (front ++ back) = (pass state front).bind fun middle => pass middle back := by
  unfold pass
  rw [run_append]
  by_cases hFront : (run state front).2.all isTrivia
  · rw [if_pos hFront, Option.bind_some]
    simp [after, hFront]
  · rw [if_neg hFront, Option.bind_none, if_neg]
    simp only [after, List.all_append, Bool.and_eq_true]
    exact fun h => hFront h.1

/-- One character that is read as trivia. -/
theorem pass_cons_of_step {state next : State} {c : Char} {pieces : List Piece}
    (hStep : step state c = (next, pieces)) (hTrivia : pieces.all isTrivia) (rest : List Char) :
    pass state (c :: rest) = pass next rest := by
  unfold pass
  rw [run_cons, hStep]
  simp [after, hTrivia]

/-- One character that is not read as trivia. -/
theorem pass_cons_eq_none {state next : State} {c : Char} {pieces : List Piece}
    (hStep : step state c = (next, pieces)) (hCode : pieces.all isTrivia = false)
    (rest : List Char) : pass state (c :: rest) = none := by
  unfold pass
  rw [run_cons, hStep]
  simp [after, hCode]

/-- White space and line ends are plain characters of the code. -/
theorem role_of_isTrivia {c : Char} (h : isTrivia (.code c)) : role c = .plain := by
  have hMarks : marks.all (fun d => !isTrivia (.code d)) := by decide
  refine role_eq_plain fun hMem => ?_
  have hOther := List.all_eq_true.1 hMarks c hMem
  simp [h] at hOther

theorem pass_space {c : Char} (h : isTrivia (.code c)) (rest : List Char) :
    pass start (c :: rest) = pass start rest := by
  have hStep : step start c = (start, [.code c]) := by
    simp [step, codeStep, start, role_of_isTrivia h]
  exact pass_cons_of_step hStep (by simpa using h) rest

/-! ## Block comments -/

def insideBlock : State := ⟨.blockComment false, []⟩

theorem pass_opening (rest : List Char) :
    pass start ('/' :: '*' :: rest) = pass insideBlock rest := by
  have hSlash : step start '/' = (⟨.slash, []⟩, []) := rfl
  have hStar : step ⟨.slash, []⟩ '*' = (insideBlock, [.comment]) := rfl
  rw [pass_cons_of_step hSlash rfl, pass_cons_of_step hStar rfl]

theorem pass_closing (rest : List Char) :
    pass insideBlock ('*' :: '/' :: rest) = pass start rest := by
  have hStar : step insideBlock '*' = (⟨.blockComment true, []⟩, []) := rfl
  have hSlash : step ⟨.blockComment true, []⟩ '/' = (start, []) := rfl
  rw [pass_cons_of_step hStar rfl, pass_cons_of_step hSlash rfl]

/--
What does not close a block comment belongs to it. A star is remembered, and forgotten
again unless a slash follows.
-/
theorem pass_insideBlock {c : Char} {rest : List Char}
    (h : ∀ more, c = '*' → rest ≠ '/' :: more) (hRest : rest ≠ []) :
    pass insideBlock (c :: rest) = pass insideBlock rest := by
  have hStep : step insideBlock c = (⟨.blockComment (c = '*'), []⟩, []) := by
    simp [insideBlock, step, keeping, blockCommentStep]
  rw [pass_cons_of_step hStep rfl]
  by_cases hStar : c = '*'
  · cases rest with
    | nil => exact absurd rfl hRest
    | cons d rest =>
        have hSlash : d ≠ '/' := by
          rintro rfl
          exact h rest hStar rfl
        have hBehind : step ⟨.blockComment (c = '*'), []⟩ d =
            (⟨.blockComment (d = '*'), []⟩, []) := by
          simp [step, keeping, blockCommentStep, hSlash]
        have hPlain : step insideBlock d = (⟨.blockComment (d = '*'), []⟩, []) := by
          simp [insideBlock, step, keeping, blockCommentStep]
        rw [pass_cons_of_step hBehind rfl, pass_cons_of_step hPlain rfl]
  · simp [hStar, insideBlock]

/-- Behind the first closing mark the host reads code again. -/
theorem pass_afterClosing {text rest : List Char} (h : afterClosing text = some rest) :
    pass insideBlock text = pass start rest := by
  fun_induction afterClosing text with
  | case1 => cases h
  | case2 =>
      cases h
      exact pass_closing _
  | case3 c more hOpen ih =>
      have hMore : more ≠ [] := by
        rintro rfl
        cases h
      rw [pass_insideBlock (fun tail hStar hEq => hOpen tail hStar hEq) hMore, ih h]

/-- One block comment is read as a comment. -/
theorem pass_of_isBlockComment {text : List Char} (h : isBlockComment text) :
    pass start text = some start := by
  unfold isBlockComment at h
  split at h
  · next rest =>
      rw [pass_opening, pass_afterClosing (by simpa using h), pass_nil]
  · cases h

/-! ## Framed texts -/

/-- Text that does not end with a star has no part in a closing mark behind it. -/
private theorem afterClosing_append {front : List Char} (hNone : afterClosing front = none)
    (hEnd : front.getLast? ≠ some '*') (back : List Char) :
    afterClosing (front ++ back) = afterClosing back := by
  fun_induction afterClosing front with
  | case1 => rfl
  | case2 rest => cases hNone
  | case3 c rest hOpen ih =>
      have hRest : afterClosing (rest ++ back) = afterClosing back := by
        refine ih hNone fun hLast => hEnd ?_
        rw [List.getLast?_cons, hLast]
        rfl
      have hStep : afterClosing (c :: (rest ++ back)) = afterClosing (rest ++ back) := by
        cases rest with
        | nil =>
            have hStar : c ≠ '*' := by
              rintro rfl
              exact hEnd rfl
            simp [afterClosing, hStar]
        | cons d rest =>
            have hMark : ¬ (c = '*' ∧ d = '/') := by
              rintro ⟨rfl, rfl⟩
              exact hOpen rest rfl rfl
            rw [List.cons_append, afterClosing.eq_def]
            split
            · simp_all
            · simp_all
            · simp_all
      rw [List.cons_append, hStep, hRest]

private theorem afterClosing_concat {front : List Char} {c : Char}
    (hNone : afterClosing front = none) (hc : c ≠ '/') : afterClosing (front ++ [c]) = none := by
  fun_induction afterClosing front with
  | case1 => simp [afterClosing]
  | case2 rest => cases hNone
  | case3 d rest hOpen ih =>
      have hRest := ih hNone
      rw [List.cons_append, afterClosing.eq_def]
      split
      · simp_all
      · cases rest <;> simp_all
      · simp_all

/-- Nothing in a line of the frame closes the comment, nor begins to. -/
private theorem afterClosing_frameLine (line back : List Char) :
    afterClosing (frameLine line ++ back) = afterClosing back := by
  refine afterClosing_append ?_ ?_ back
  · unfold frameLine
    have hLoose := afterClosing_concat (not_closes_loosened line) (show '\n' ≠ '/' by decide)
    by_cases hEmpty : (loosen line).isEmpty
    · simp [hEmpty, afterClosing]
    · simp only [hEmpty, List.cons_append]
      simpa [afterClosing] using hLoose
  · unfold frameLine
    have hLast : ∀ text : List Char, (text ++ ['\n']).getLast? ≠ some '*' := by simp
    by_cases hEmpty : (loosen line).isEmpty
    · simp [hEmpty]
    · simpa [hEmpty] using hLast (' ' :: '*' :: ' ' :: loosen line)

/-- A framed text is one block comment. -/
theorem isBlockComment_frame (text : List Char) : isBlockComment (frame text) := by
  have hLines : ∀ lines : List (List Char),
      afterClosing (lines.flatMap frameLine ++ [' ', '*', '/']) = some [] := by
    intro lines
    induction lines with
    | nil => rfl
    | cons line lines ih => rw [List.flatMap_cons, List.append_assoc, afterClosing_frameLine, ih]
  have hBody := hLines (Text.lines text)
  simp only [frame, isBlockComment, List.cons_append]
  simpa [afterClosing] using hBody

/-! ## Lines of the host -/

/--
Reads one line: whether a block comment is open at its end, given whether one is
open at its beginning; nothing if the line has code in it.
-/
def readLine : (inside : Bool) → List Char → Option Bool
  | false, [] => some false
  | false, '/' :: '/' :: _ => some false
  | false, '/' :: '*' :: rest => readLine true rest
  | false, c :: rest => if isSpace c then readLine false rest else none
  | true, [] => some true
  | true, '*' :: '/' :: rest => readLine false rest
  | true, _ :: rest => readLine true rest

/--
Every line of the host is white space and comments, and no block comment stays open. The
lines are those of the script, which end at more than line feeds.
-/
def LinesAreComments (text : List Char) : Prop :=
  (text.splitOnP isLineEnd).foldlM readLine false = some false

instance (text : List Char) : Decidable (LinesAreComments text) :=
  inferInstanceAs (Decidable (_ = _))

def lineState : (inside : Bool) → State
  | false => start
  | true => insideBlock

private theorem isTrivia_of_isLineEnd {e : Char} (h : isLineEnd e) : isTrivia (.code e) := by
  simp [isTrivia, h]

/-- A line comment goes on to the end of its line. -/
private theorem pass_lineComment {line : List Char} {e : Char}
    (hLine : ∀ c ∈ line, isLineEnd c = false) (hEnd : isLineEnd e) :
    pass ⟨.lineComment, []⟩ (line ++ [e]) = some start := by
  induction line with
  | nil =>
      have hStep : step ⟨.lineComment, []⟩ e = (start, [.code e]) := by
        simp [step, keeping, lineCommentStep, hEnd, start]
      rw [List.nil_append, pass_cons_of_step hStep (by simpa using isTrivia_of_isLineEnd hEnd)]
      rfl
  | cons c line ih =>
      have hStep : step ⟨.lineComment, []⟩ c = (⟨.lineComment, []⟩, []) := by
        simp [step, keeping, lineCommentStep, hLine c (List.mem_cons_self ..)]
      rw [List.cons_append, pass_cons_of_step hStep rfl]
      exact ih fun d hd => hLine d (List.mem_cons_of_mem _ hd)

/-- A slash that opens no comment is code. -/
private theorem pass_slash_eq_none {c : Char} (hLine : c ≠ '/') (hBlock : c ≠ '*')
    (rest : List Char) : pass start ('/' :: c :: rest) = none := by
  have hSlash : step start '/' = (⟨.slash, []⟩, []) := rfl
  have hStep : step ⟨.slash, []⟩ c =
      ((codeStep [] c).1, .code '/' :: (codeStep [] c).2) := by
    simp [step, slashStep, hLine, hBlock]
  have hCode : isTrivia (.code '/') = false := by decide
  rw [pass_cons_of_step hSlash rfl, pass_cons_eq_none hStep (by simp [hCode])]

/-- Only a slash has the role of one. -/
private theorem role_ne_slash {c : Char} (h : c ≠ '/') : role c ≠ .slash := by
  have hMarks : marks.all (fun d => d = '/' || role d ≠ .slash) := by decide
  by_cases hMem : c ∈ marks
  · have hOther := List.all_eq_true.1 hMarks c hMem
    simpa [h] using hOther
  · rw [role_eq_plain hMem]
    exact fun hSame => nomatch hSame

/-- Any other character that is not trivia is code. -/
private theorem pass_code_eq_none {c : Char} (hTrivia : isTrivia (.code c) = false)
    (hSlash : c ≠ '/') (rest : List Char) : pass start (c :: rest) = none := by
  have hStep : ∃ next pieces, step start c = (next, pieces) ∧ pieces.all isTrivia = false := by
    simp only [step, start, codeStep]
    cases hRole : role c with
    | quotes delimiter => exact ⟨_, _, rfl, rfl⟩
    | slash => exact absurd hRole (role_ne_slash hSlash)
    | opens bracket => exact ⟨_, _, rfl, by simp [hTrivia]⟩
    | closes bracket => exact ⟨_, _, rfl, by simp [hTrivia]⟩
    | plain => exact ⟨_, _, rfl, by simp [hTrivia]⟩
  obtain ⟨next, pieces, hStep, hCode⟩ := hStep
  exact pass_cons_eq_none hStep hCode rest

/--
A line and its end are read as trivia exactly when the line is, and lead to the next line. A
block comment may go on over the line end, a line comment may not.
-/
theorem pass_line {inside : Bool} {line : List Char} {e : Char}
    (hLine : ∀ c ∈ line, isLineEnd c = false) (hEnd : isLineEnd e) :
    pass (lineState inside) (line ++ [e]) = (readLine inside line).map lineState := by
  have hNotSlash : e ≠ '/' := by
    rintro rfl
    exact absurd hEnd (by decide)
  have hNotStar : e ≠ '*' := by
    rintro rfl
    exact absurd hEnd (by decide)
  fun_induction readLine inside line with
  | case1 =>
      rw [List.nil_append, lineState, pass_space (isTrivia_of_isLineEnd hEnd)]
      rfl
  | case2 rest =>
      have hSlash : step start '/' = (⟨.slash, []⟩, []) := rfl
      have hOpens : step ⟨.slash, []⟩ '/' = (⟨.lineComment, []⟩, [.comment]) := rfl
      rw [lineState, List.cons_append, List.cons_append, pass_cons_of_step hSlash rfl,
        pass_cons_of_step hOpens rfl]
      exact pass_lineComment (fun c hc => hLine c (by simp [hc])) hEnd
  | case3 rest ih =>
      rw [lineState, List.cons_append, List.cons_append, pass_opening]
      exact ih fun c hc => hLine c (by simp [hc])
  | case4 c rest hLineComment hBlockComment hSpace ih =>
      rw [lineState, List.cons_append, pass_space (by simp [isTrivia, hSpace])]
      exact ih fun d hd => hLine d (by simp [hd])
  | case5 c rest hLineComment hBlockComment hSpace =>
      rw [lineState, List.cons_append, Option.map_none]
      by_cases hSlash : c = '/'
      · subst hSlash
        cases rest with
        | nil => exact pass_slash_eq_none hNotSlash hNotStar []
        | cons d rest =>
            have hNoLine : d ≠ '/' := by
              rintro rfl
              exact hLineComment rest rfl rfl
            have hNoBlock : d ≠ '*' := by
              rintro rfl
              exact hBlockComment rest rfl rfl
            exact pass_slash_eq_none hNoLine hNoBlock _
      · have hEndOf := hLine c (List.mem_cons_self ..)
        exact pass_code_eq_none (by simp [isTrivia, hSpace, hEndOf]) hSlash _
  | case6 =>
      have hStep : step insideBlock e = (insideBlock, []) := by
        simp [insideBlock, step, keeping, blockCommentStep, hNotStar]
      rw [List.nil_append, lineState, pass_cons_of_step hStep rfl]
      rfl
  | case7 rest ih =>
      rw [lineState, List.cons_append, List.cons_append, pass_closing]
      exact ih fun c hc => hLine c (by simp [hc])
  | case8 c rest hClose ih =>
      rw [lineState, List.cons_append, pass_insideBlock _ (by simp)]
      · exact ih fun d hd => hLine d (by simp [hd])
      · intro more hStar hEq
        cases rest with
        | nil =>
            injection hEq with hHead _
            exact hNotSlash hHead
        | cons d rest =>
            injection hEq with hHead _
            exact hClose rest hStar (by rw [hHead])

/--
A text and a line end are read as trivia exactly when each line of the host is. The text is
cut at its first line end, and what is behind it is shorter.
-/
theorem pass_lines (text : List Char) (inside : Bool) :
    pass (lineState inside) (text ++ ['\n']) =
      ((text.splitOnP isLineEnd).foldlM readLine inside).map lineState := by
  cases hFind : text.find? isLineEnd with
  | none =>
      have hLine : ∀ c ∈ text, isLineEnd c = false := by simpa using hFind
      rw [List.splitOnP_eq_singleton hLine, pass_line hLine (by decide)]
      simp
  | some e =>
      obtain ⟨hEnd, line, rest, hText, hBefore⟩ := List.find?_eq_some_iff_append.1 hFind
      have hLine : ∀ c ∈ line, isLineEnd c = false := by simpa using hBefore
      have hRest : line ++ e :: rest ++ ['\n'] = (line ++ [e]) ++ (rest ++ ['\n']) := by simp
      rw [hText, List.splitOnP_append_cons_of_forall_mem hLine e hEnd, List.foldlM_cons, hRest,
        pass_append, pass_line hLine hEnd]
      cases hRead : readLine inside line with
      | none => rfl
      | some next => exact pass_lines rest next
  termination_by text.length
  decreasing_by
    rw [hText, List.length_append, List.length_cons]
    omega

/-! ## Texts in which the two notions of a line agree -/

/--
A text whose only line ends are line feeds, without the one character that is blank for the
writer and not for the script.
-/
structure Ordinary (text : List Char) : Prop where
  lineFeeds : ∀ c ∈ text, isLineEnd c → c = '\n'
  noNextLine : '\x85' ∉ text

theorem Ordinary.tail {c : Char} {text : List Char} (h : Ordinary (c :: text)) :
    Ordinary text where
  lineFeeds := fun d hd => h.lineFeeds d (List.mem_cons_of_mem _ hd)
  noNextLine := fun hMem => h.noNextLine (List.mem_cons_of_mem _ hMem)

/-- In an ordinary text both notions of a line agree, except for an empty line at the end. -/
private theorem splitOnP_eq_lines {text : List Char} (h : Ordinary text) :
    text.splitOnP isLineEnd = Text.lines text ∨
      text.splitOnP isLineEnd = Text.lines text ++ [[]] := by
  induction text with
  | nil => exact .inr rfl
  | cons c text ih =>
      have hRest := ih h.tail
      by_cases hEnd : isLineEnd c
      · rw [h.lineFeeds c (List.mem_cons_self ..) hEnd,
          List.splitOnP_cons_eq_if_modifyHead, if_pos (by decide), Text.lines]
        rcases hRest with hRest | hRest
        · exact .inl (by rw [hRest])
        · exact .inr (by rw [hRest, List.cons_append])
      · have hFeed : c ≠ '\n' := by
          rintro rfl
          exact hEnd (by decide)
        have hReturn : c ≠ '\r' := by
          rintro rfl
          exact hEnd (by decide)
        rw [List.splitOnP_cons_eq_if_modifyHead, if_neg hEnd,
          Text.lines_cons hFeed fun hc => absurd hc hReturn]
        rcases hRest with hRest | hRest
        · cases hLines : Text.lines text with
          | nil => exact absurd (hRest.trans hLines) (by simp)
          | cons line more => exact .inl (by rw [hRest, hLines]; rfl)
        · cases hLines : Text.lines text with
          | nil => exact .inl (by rw [hRest, hLines]; rfl)
          | cons line more => exact .inr (by rw [hRest, hLines]; rfl)

private theorem mem_of_mem_lines {c : Char} {line text : List Char} (hc : c ∈ line)
    (hLine : line ∈ Text.lines text) : c ∈ text := by
  fun_induction Text.lines text generalizing line with
  | case1 => cases hLine
  | case2 rest ih =>
      rcases List.mem_cons.1 hLine with rfl | hLine
      · cases hc
      · exact List.mem_cons_of_mem _ (ih hc hLine)
  | case3 rest ih =>
      rcases List.mem_cons.1 hLine with rfl | hLine
      · cases hc
      · exact List.mem_cons_of_mem _ (List.mem_cons_of_mem _ (ih hc hLine))
  | case4 d rest _ _ hNil ih =>
      rw [List.mem_singleton.1 hLine] at hc
      exact List.mem_singleton.1 hc ▸ List.mem_cons_self ..
  | case5 d rest _ _ first more hMore ih =>
      rw [hMore] at ih
      rcases List.mem_cons.1 hLine with rfl | hLine
      · rcases List.mem_cons.1 hc with rfl | hc
        · exact List.mem_cons_self ..
        · exact List.mem_cons_of_mem _ (ih hc (List.mem_cons_self ..))
      · exact List.mem_cons_of_mem _ (ih hc (List.mem_cons_of_mem _ hLine))

/-- A blank that ends no line is white space of the script, with one exception. -/
private theorem isSpace_of_isBlank {c : Char} (h : Text.isBlank c) (hEnd : isLineEnd c = false)
    (hNext : c ≠ '\x85') : isSpace c := by
  have hNe : ∀ d : Char, c ≠ d → c.toNat ≠ d.toNat := fun d hd hSame => hd (Char.toNat_inj.1 hSame)
  simp only [isLineEnd, Bool.or_eq_false_iff, decide_eq_false_iff_not] at hEnd
  have hFeed := hNe _ hEnd.1.1.1
  have hReturn := hNe _ hEnd.1.1.2
  have hLineSeparator := hNe _ hEnd.1.2
  have hParagraphSeparator := hNe _ hEnd.2
  have hNextLine := hNe _ hNext
  simp only [Text.isBlank, Text.blankRanges, List.any_cons, List.any_nil, Bool.or_eq_true,
    Bool.and_eq_true, decide_eq_true_eq, Bool.false_eq_true, or_false] at h
  simp only [isSpace, Script.spaceRanges, List.any_cons, List.any_nil, Bool.or_eq_true,
    Bool.and_eq_true, decide_eq_true_eq, Bool.false_eq_true, or_false]
  simp only [Char.reduceToNat] at hFeed hReturn hLineSeparator hParagraphSeparator hNextLine
  omega

/-- A line that the writer takes for blank or for a line comment is one for the host. -/
private theorem readLine_of_trimStart {line : List Char}
    (hBlank : ∀ c ∈ line, Text.isBlank c → isSpace c)
    (h : (Text.trimStart line).isEmpty || opensLineComment (Text.trimStart line)) :
    readLine false line = some false := by
  induction line with
  | nil => rfl
  | cons c line ih =>
      by_cases hc : Text.isBlank c
      · have hSlash : c ≠ '/' := by
          rintro rfl
          exact absurd hc (by decide)
        have hTrim : Text.trimStart (c :: line) = Text.trimStart line := by
          rw [Text.trimStart, List.dropWhile_cons, if_pos hc, Text.trimStart]
        rw [hTrim] at h
        have hRest := ih (fun d hd => hBlank d (List.mem_cons_of_mem _ hd)) h
        simpa [readLine, hSlash, hBlank c (List.mem_cons_self ..) hc] using hRest
      · have hTrim : Text.trimStart (c :: line) = c :: line := by
          rw [Text.trimStart, List.dropWhile_cons, if_neg hc]
        rw [hTrim, List.isEmpty_cons, Bool.false_or] at h
        unfold opensLineComment at h
        split at h
        · next hLine =>
            rw [hLine]
            rfl
        · cases h

/-- In an ordinary text, lines that the writer keeps are comments for the host. -/
theorem linesAreComments_of_ordinary {text : List Char} (hOrdinary : Ordinary text)
    (hKept : isLineComments text) : LinesAreComments text := by
  have hLines : ∀ line ∈ Text.lines text, readLine false line = some false := by
    rw [isLineComments, Bool.and_eq_true, List.all_eq_true] at hKept
    intro line hLine
    refine readLine_of_trimStart ?_ (hKept.2 line hLine)
    intro c hc hBlank
    have hMem := mem_of_mem_lines hc hLine
    have hEnd : isLineEnd c = false := by
      rw [Bool.eq_false_iff]
      intro hEnd
      have hFeed := hOrdinary.lineFeeds c hMem hEnd
      exact Text.noLineFeed_of_mem_lines hLine (hFeed ▸ hc)
    exact isSpace_of_isBlank hBlank hEnd fun hNext => hOrdinary.noNextLine (hNext ▸ hMem)
  have hFold : ∀ lines : List (List Char), (∀ line ∈ lines, readLine false line = some false) →
      lines.foldlM readLine false = some false := by
    intro lines hAll
    induction lines with
    | nil => rfl
    | cons line lines ih =>
        rw [List.foldlM_cons, hAll line (List.mem_cons_self ..)]
        exact ih fun found hMem => hAll found (List.mem_cons_of_mem _ hMem)
  rw [LinesAreComments]
  rcases splitOnP_eq_lines hOrdinary with hSplit | hSplit
  · rw [hSplit, hFold _ hLines]
  · rw [hSplit, List.foldlM_append, hFold _ hLines]
    rfl

/-! ## The header -/

private theorem toList_write (comment : String) :
    (write comment).toList =
      if isBlockComment (Text.trim comment.toList) || isLineComments (Text.trim comment.toList) then
        Text.trim comment.toList
      else frame (Text.trim comment.toList) := by
  rw [write, String.toList_ofList]

/-- What is written is one block comment, or line comments that are kept. -/
theorem write_cases (comment : String) :
    (isLineComments (Text.trim comment.toList) = true ∧
      (write comment).toList = Text.trim comment.toList) ∨
    (isLineComments (Text.trim comment.toList) = false ∧
      isBlockComment (write comment).toList = true) := by
  rw [toList_write]
  cases hLines : isLineComments (Text.trim comment.toList) with
  | true => exact .inl ⟨rfl, by rw [Bool.or_true, if_pos rfl]⟩
  | false =>
      refine .inr ⟨rfl, ?_⟩
      rw [Bool.or_false]
      cases hBlock : isBlockComment (Text.trim comment.toList) with
      | true => rw [if_pos rfl, hBlock]
      | false =>
          rw [if_neg (by decide)]
          exact isBlockComment_frame (Text.trim comment.toList)

/--
A header is nothing but comments exactly when it is written as a block comment or
every line of the host is one of comments.
-/
theorem onlyComments_header_iff (comment : String) :
    OnlyComments (ModuleText.header (some comment)).toList ↔
      (isLineComments (Text.trim comment.toList) →
        LinesAreComments (Text.trim comment.toList)) := by
  have hHeader : (ModuleText.header (some comment)).toList =
      (write comment).toList ++ (['\n'] ++ ['\n']) := by
    simp [ModuleText.header]
  have hFeed : pass start ['\n'] = some start := by decide
  have hOpen : pass insideBlock ['\n'] ≠ some start := by decide
  rw [onlyComments_iff_pass, hHeader]
  rcases write_cases comment with ⟨hKept, hWrite⟩ | ⟨hFramed, hBlock⟩
  · have hLines := pass_lines (Text.trim comment.toList) false
    rw [lineState] at hLines
    rw [hWrite, ← List.append_assoc, pass_append, hLines, LinesAreComments, hKept]
    cases hRead : (List.splitOnP isLineEnd (Text.trim comment.toList)).foldlM readLine false with
    | none => simp
    | some inside =>
        cases inside with
        | false => simpa [lineState] using hFeed
        | true => simpa [lineState] using hOpen
  · rw [pass_append, pass_of_isBlockComment hBlock, Option.bind_some, pass_append, hFeed,
      Option.bind_some, hFeed, hFramed]
    simp

/-- A carriage return ends the line comment, and what follows it is code. -/
theorem not_onlyComments_carriageReturn :
    ¬ OnlyComments (ModuleText.header (some "//\rx")).toList := by
  decide +kernel

end BlockExtension.HeaderComment
