import BlockExtension.Proofs.HeaderComment
import Mathlib.Data.List.DropRight
import Mathlib.Data.List.TakeWhile

/-!
# Framing a comment is stable

A comment that was written once is written again as it is. Where the writer frames a
text, three of its functions have to fit together: what loosens the closing marks, what
puts a star in front of each line, and what recognises a block comment. A closing mark
may stand anywhere in the text, in runs such as `**//`, and lines may begin with a slash
or end with a star, so nothing of the frame may join a line to a closing mark.

The texts are described here without the functions of the writer. `OneBlockComment`
counts closing marks, `PulledApart` says what stands between them, and `unframe` takes a
frame off again, line by line, and refuses what is no frame.

## Main results

* `isBlockComment_iff`, `isLineComments_iff`: what the writer keeps.
* `lines_loosen`: closing marks are loosened line by line or in the whole text.
* `unframe_frame`: a frame gives its lines back.
* `write_stable`: writing a comment twice is writing it once, and a framed text is one
  block comment that gives its lines back.
-/

namespace BlockExtension.Text

/-! ## Trimming twice -/

/-- A text that neither begins nor ends with a blank is trimmed. -/
theorem trim_eq_self {text : List Char} (hFirst : ∀ c, text.head? = some c → isBlank c = false)
    (hLast : ∀ c, text.getLast? = some c → isBlank c = false) : trim text = text := by
  have hStart : trimStart text = text := by
    cases text with
    | nil => rfl
    | cons c rest => simp [trimStart, hFirst c rfl]
  have hEnd : trimEnd text = text := by
    refine List.rdropWhile_eq_self_iff.2 fun hne => ?_
    simp [hLast _ (List.getLast?_eq_some_getLast hne)]
  rw [trim, hStart, hEnd]

/--
A trimmed text is trimmed. What is left of a text once its end is gone begins as the text
does.
-/
theorem trim_trim (text : List Char) : trim (trim text) = trim text := by
  refine trim_eq_self (fun c hc => ?_) (fun c hc => ?_)
  · obtain ⟨back, hBack⟩ : trim text <+: trimStart text := List.rdropWhile_prefix isBlank _
    have hFirst : (trimStart text).head? = some c := by
      rw [← hBack, List.head?_append, hc]
      rfl
    have hNot := List.head?_dropWhile_not isBlank text
    rw [trimStart] at hFirst
    rwa [hFirst] at hNot
  · have hne : trim text ≠ [] := by
      intro hNil
      simp [hNil] at hc
    have hLast : ¬ isBlank ((trim text).getLast hne) :=
      List.rdropWhile_last_not isBlank (trimStart text) hne
    rw [List.getLast?_eq_some_getLast hne, Option.some_inj] at hc
    rw [← hc]
    simpa using hLast

/-! ## Lines -/

/-- A character that has no part in a line end joins the first line. -/
private theorem lines_cons_of_ne {c : Char} (hFeed : c ≠ '\n') (hReturn : c ≠ '\r')
    (rest : List Char) :
    lines (c :: rest) =
      match lines rest with
      | [] => [[c]]
      | line :: more => (c :: line) :: more :=
  lines_cons hFeed fun hc => absurd hc hReturn

/-- A line begins as the text does. -/
private theorem head?_of_lines {text line : List Char} {more : List (List Char)} {c : Char}
    (h : lines text = (c :: line) :: more) : text.head? = some c := by
  unfold lines at h
  split at h
  · cases h
  · cases h
  · cases h
  · split at h
    · cases h
      rfl
    · cases h
      rfl

end BlockExtension.Text

namespace BlockExtension.HeaderComment

/-! ## Closing marks -/

def closingMark : List Char := ['*', '/']

def loosenedMark : List Char := ['*', ' ', '/']

/-- What is found behind a closing mark stands behind one. -/
private theorem eq_append_of_afterClosing {text rest : List Char}
    (h : afterClosing text = some rest) : ∃ front, text = front ++ closingMark ++ rest := by
  fun_induction afterClosing text with
  | case1 => cases h
  | case2 =>
      cases h
      exact ⟨[], rfl⟩
  | case3 c more _ ih =>
      obtain ⟨front, hMore⟩ := ih h
      exact ⟨c :: front, by rw [hMore]; rfl⟩

/-- A closing mark is found, or one before it. -/
private theorem afterClosing_append_mark (front back : List Char) :
    ∃ more, afterClosing (front ++ closingMark ++ back) = some (more ++ back) := by
  generalize hText : front ++ closingMark ++ back = text
  fun_induction afterClosing text generalizing front with
  | case1 => simp [closingMark] at hText
  | case2 rest =>
      cases front with
      | nil => exact ⟨[], by simpa [closingMark] using hText.symm⟩
      | cons c front =>
          cases front with
          | nil => simp [closingMark] at hText
          | cons d front =>
              obtain ⟨-, -, hRest⟩ : c = '*' ∧ d = '/' ∧ front ++ (closingMark ++ back) = rest := by
                simpa using hText
              exact ⟨front ++ closingMark, by rw [← hRest, List.append_assoc]⟩
  | case3 c rest hOpen ih =>
      cases front with
      | nil =>
          obtain ⟨hStar, hSlash⟩ := List.cons.inj hText
          exact absurd hSlash.symm (hOpen _ hStar.symm)
      | cons d front =>
          refine ih front ?_
          simpa using (List.cons.inj hText).2

/-! ## What is a comment already -/

/-- One block comment: behind the mark that opens it, the only closing mark is its end. -/
def OneBlockComment (text : List Char) : Prop :=
  ∃ rest, text = '/' :: '*' :: rest ∧ closingMark <:+ rest ∧
    ∀ front back, rest = front ++ closingMark ++ back → back = []

/-- Line comments and empty lines only, perhaps behind blanks, and a line comment first. -/
def OnlyLineComments (text : List Char) : Prop :=
  ['/', '/'] <+: text ∧ ∀ line ∈ Text.lines text, ∃ blanks rest, line = blanks ++ rest ∧
    (∀ c ∈ blanks, Text.isBlank c) ∧ (rest = [] ∨ ['/', '/'] <+: rest)

/--
The writer keeps one block comment, and knows it from any other text. A text with a closing
mark before its end is none.
-/
theorem isBlockComment_iff {text : List Char} : isBlockComment text ↔ OneBlockComment text := by
  constructor
  · intro h
    unfold isBlockComment at h
    split at h
    · next rest =>
        have hFound : afterClosing rest = some [] := by simpa using h
        obtain ⟨front, hRest⟩ := eq_append_of_afterClosing hFound
        refine ⟨rest, rfl, ⟨front, by rw [hRest, List.append_nil]⟩, ?_⟩
        rintro front back rfl
        obtain ⟨more, hMark⟩ := afterClosing_append_mark front back
        have hNil : more ++ back = [] := Option.some.inj (hMark.symm.trans hFound)
        exact (List.append_eq_nil_iff.1 hNil).2
    · cases h
  · rintro ⟨rest, rfl, ⟨front, hRest⟩, hOnly⟩
    have hFound : ∃ more, afterClosing rest = some more := by
      obtain ⟨more, hMark⟩ := afterClosing_append_mark front []
      rw [List.append_nil, hRest] at hMark
      exact ⟨_, hMark⟩
    obtain ⟨more, hMore⟩ := hFound
    obtain ⟨before, hText⟩ := eq_append_of_afterClosing hMore
    simp [isBlockComment, hMore, hOnly before more hText]

private theorem opensLineComment_iff {text : List Char} :
    opensLineComment text ↔ ['/', '/'] <+: text := by
  constructor
  · intro h
    unfold opensLineComment at h
    split at h
    · exact ⟨_, rfl⟩
    · cases h
  · rintro ⟨rest, rfl⟩
    rfl

/-- The writer keeps line comments, and knows them from any other text. -/
theorem isLineComments_iff {text : List Char} : isLineComments text ↔ OnlyLineComments text := by
  have hLine : ∀ line : List Char,
      ((Text.trimStart line).isEmpty || opensLineComment (Text.trimStart line)) ↔
        ∃ blanks rest, line = blanks ++ rest ∧ (∀ c ∈ blanks, Text.isBlank c) ∧
          (rest = [] ∨ ['/', '/'] <+: rest) := by
    intro line
    rw [Bool.or_eq_true, opensLineComment_iff, List.isEmpty_iff]
    constructor
    · intro h
      refine ⟨line.takeWhile Text.isBlank, Text.trimStart line, ?_, ?_, h⟩
      · exact List.takeWhile_append_dropWhile.symm
      · exact fun c hc => List.mem_takeWhile_imp hc
    · rintro ⟨blanks, rest, rfl, hBlanks, hRest⟩
      have hTrim : Text.trimStart (blanks ++ rest) = rest := by
        rw [Text.trimStart, List.dropWhile_append_of_pos hBlanks]
        rcases hRest with rfl | ⟨more, rfl⟩
        · rfl
        · exact List.dropWhile_cons_of_neg (by decide)
      rwa [hTrim]
  rw [isLineComments, Bool.and_eq_true, opensLineComment_iff, List.all_eq_true, OnlyLineComments]
  simp only [hLine]

/-! ## Loosening -/

private theorem head?_loosen (text : List Char) : (loosen text).head? = text.head? := by
  fun_induction loosen text <;> rfl

private theorem mem_of_mem_loosen {c : Char} {text : List Char} (h : c ∈ loosen text) :
    c ∈ text ∨ c = ' ' := by
  fun_induction loosen text with
  | case1 => cases h
  | case2 rest ih =>
      simp only [List.mem_cons] at h ⊢
      rcases h with h | h | h | h
      · exact .inl (.inl h)
      · exact .inr h
      · exact .inl (.inr (.inl h))
      · exact (ih h).imp (fun hMem => .inr (.inr hMem)) id
  | case3 d rest _ ih =>
      rcases List.mem_cons.1 h with h | h
      · exact .inl (h ▸ List.mem_cons_self ..)
      · exact (ih h).imp (List.mem_cons_of_mem _) id

/-- A character that begins no closing mark stays as it is. -/
private theorem loosen_cons {c : Char} {text : List Char}
    (h : c = '*' → text.head? ≠ some '/') : loosen (c :: text) = c :: loosen text := by
  rw [loosen.eq_def]
  split
  · simp_all
  · simp_all
  · simp_all

/-- Closing marks are loosened line by line or in the whole text. -/
theorem lines_loosen (text : List Char) :
    Text.lines (loosen text) = (Text.lines text).map loosen := by
  fun_induction loosen text with
  | case1 => rfl
  | case2 rest ih =>
      simp only [Text.lines_cons_of_ne, ne_eq, Char.reduceEq, not_false_eq_true, ih]
      cases Text.lines rest <;> rfl
  | case3 c rest hOpen ih =>
      by_cases hFeed : c = '\n'
      · subst hFeed
        rw [Text.lines, Text.lines, ih]
        rfl
      · by_cases hReturn : c = '\r' ∧ rest.head? = some '\n'
        · obtain ⟨rfl, hHead⟩ := hReturn
          obtain ⟨more, rfl⟩ := List.head?_eq_some_iff.1 hHead
          have hRest : loosen ('\n' :: more) = '\n' :: loosen more := loosen_cons (by simp)
          rw [hRest, Text.lines, Text.lines] at ih
          rw [hRest, Text.lines, Text.lines]
          exact ih
        · have hPlain : ∀ other : List Char, other.head? = rest.head? →
              c = '\r' → ∀ more, other ≠ '\n' :: more := by
            rintro other hOther rfl more rfl
            exact hReturn ⟨rfl, hOther.symm⟩
          rw [Text.lines_cons hFeed (hPlain _ (head?_loosen rest)),
            Text.lines_cons hFeed (hPlain rest rfl), ih]
          cases hLines : Text.lines rest with
          | nil =>
              have hAlone : loosen [c] = [c] := loosen_cons (by simp)
              simp [hAlone]
          | cons line more =>
              have hFirst : loosen (c :: line) = c :: loosen line := by
                refine loosen_cons fun hStar hHead => ?_
                obtain ⟨others, rfl⟩ := List.head?_eq_some_iff.1 hHead
                obtain ⟨behind, rfl⟩ := List.head?_eq_some_iff.1 (Text.head?_of_lines hLines)
                exact hOpen behind hStar rfl
              simp [hFirst]

/-- One text is the other with every closing mark pulled apart. -/
def PulledApart (text loosened : List Char) : Prop :=
  ∃ parts, (∀ part ∈ parts, ¬ closingMark <:+: part) ∧ text = closingMark.intercalate parts ∧
    loosened = loosenedMark.intercalate parts

/--
Loosening pulls every closing mark apart. A split text has a part at least, which a
character in front of the text joins.
-/
theorem pulledApart_loosen (text : List Char) : PulledApart text (loosen text) := by
  have hParts : ∃ first rest, (∀ part ∈ first :: rest, ¬ closingMark <:+: part) ∧
      text = closingMark.intercalate (first :: rest) ∧
      loosen text = loosenedMark.intercalate (first :: rest) := by
    fun_induction loosen text with
    | case1 => exact ⟨[], [], by simp [closingMark], by simp, by simp⟩
    | case2 text ih =>
        obtain ⟨first, rest, hClear, hText, hLoose⟩ := ih
        refine ⟨[], first :: rest, ?_, ?_, ?_⟩
        · intro part hPart
          rcases List.mem_cons.1 hPart with rfl | hPart
          · simp [closingMark]
          · exact hClear part hPart
        · rw [List.intercalate_cons_cons, ← hText]
          rfl
        · rw [List.intercalate_cons_cons, ← hLoose]
          rfl
    | case3 c text hOpen ih =>
        obtain ⟨first, rest, hClear, hText, hLoose⟩ := ih
        have hJoin : ∀ mark : List Char, mark.intercalate ((c :: first) :: rest) =
            c :: mark.intercalate (first :: rest) := by
          intro mark
          cases rest <;> simp [List.intercalate_cons_cons]
        refine ⟨c :: first, rest, ?_, by rw [hJoin, ← hText], by rw [hJoin, ← hLoose]⟩
        intro part hPart
        rcases List.mem_cons.1 hPart with rfl | hPart
        · rintro hMark
          rcases List.infix_cons_iff.1 hMark with ⟨back, hFront⟩ | hInner
          · obtain ⟨rfl, hFirst⟩ := List.cons.inj hFront
            refine hOpen (List.tail text) rfl ?_
            rw [hText, ← hFirst]
            cases rest <;> simp [List.intercalate_cons_cons]
          · exact hClear first (List.mem_cons_self ..) hInner
        · exact hClear part (List.mem_cons_of_mem _ hPart)
  obtain ⟨first, rest, hAll⟩ := hParts
  exact ⟨first :: rest, hAll⟩

/-! ## Taking the frame off -/

/-- A line of a frame without its star; nothing for any other line. -/
def unframeLine : List Char → Option (List Char)
  | [' ', '*'] => some []
  | ' ' :: '*' :: ' ' :: line => some line
  | _ => none

/--
The lines in a frame; nothing for any other text. The first line and the last one hold the
marks of the comment and nothing else.
-/
def unframe (comment : List Char) : Option (List (List Char)) :=
  match comment.splitOn '\n' with
  | opening :: rest =>
      if opening = ['/', '*'] ∧ rest.getLast? = some (' ' :: closingMark) then
        rest.dropLast.mapM unframeLine
      else none
  | [] => none

/-- A line of the frame without its end. -/
private def starred (line : List Char) : List Char :=
  if (loosen line).isEmpty then [' ', '*'] else ' ' :: '*' :: ' ' :: loosen line

private theorem frameLine_eq (line : List Char) : frameLine line = starred line ++ ['\n'] := by
  unfold frameLine starred
  by_cases hEmpty : (loosen line).isEmpty
  · simp [hEmpty]
  · simp [hEmpty]

private theorem unframeLine_starred (line : List Char) :
    unframeLine (starred line) = some (loosen line) := by
  unfold starred
  by_cases hEmpty : (loosen line).isEmpty
  · rw [if_pos hEmpty, List.isEmpty_iff.1 hEmpty]
    rfl
  · rw [if_neg hEmpty]
    rfl

private theorem lineFeed_notMem_starred {line : List Char} (h : '\n' ∉ line) :
    '\n' ∉ starred line := by
  have hLoose : '\n' ∉ loosen line := fun hMem => by
    rcases mem_of_mem_loosen hMem with hMem | hBlank
    · exact h hMem
    · exact absurd hBlank (by decide)
  unfold starred
  split
  · decide
  · simpa using hLoose

/-- Lines that end in line feeds are told apart, with what follows them. -/
private theorem splitOn_flatMap {items : List (List Char)} {last : List Char}
    (hItems : ∀ item ∈ items, '\n' ∉ item) (hLast : '\n' ∉ last) :
    (items.flatMap (· ++ ['\n']) ++ last).splitOn '\n' = items ++ [last] := by
  have hText : items.flatMap (· ++ ['\n']) ++ last = ['\n'].intercalate (items ++ [last]) := by
    induction items with
    | nil => simp
    | cons item items ih =>
        have hRest := ih fun other hMem => hItems other (List.mem_cons_of_mem _ hMem)
        rw [List.flatMap_cons, List.append_assoc, hRest, List.cons_append]
        cases items <;> simp [List.intercalate_cons_cons]
  rw [hText, List.splitOn_intercalate]
  · intro item hMem
    rcases List.mem_append.1 hMem with hMem | hMem
    · exact hItems item hMem
    · exact List.mem_singleton.1 hMem ▸ hLast
  · simp

/-- A frame gives its lines back, loosened. -/
theorem unframe_frame (text : List Char) :
    unframe (frame text) = some (Text.lines (loosen text)) := by
  have hSplit : (frame text).splitOn '\n' =
      ['/', '*'] :: ((Text.lines text).map starred ++ [' ' :: closingMark]) := by
    have hFrame : frame text =
        (['/', '*'] :: (Text.lines text).map starred).flatMap (· ++ ['\n']) ++
          ' ' :: closingMark := by
      simp [frame, List.flatMap_map, ← frameLine_eq, closingMark]
    rw [hFrame, splitOn_flatMap]
    · rfl
    · intro item hMem
      rcases List.mem_cons.1 hMem with rfl | hMem
      · decide
      · obtain ⟨line, hLine, rfl⟩ := List.mem_map.1 hMem
        exact lineFeed_notMem_starred (Text.noLineFeed_of_mem_lines hLine)
    · decide
  have hRead : unframeLine ∘ starred = fun line => pure (loosen line) :=
    funext unframeLine_starred
  unfold unframe
  rw [hSplit]
  simp only [List.getLast?_append, List.getLast?_singleton, List.dropLast_concat, true_and]
  rw [if_pos (by rfl), List.mapM_map, hRead, List.mapM_pure, lines_loosen]
  rfl

/-! ## Writing twice -/

/-- A text in its frame: one block comment in which the lines of the text can be read again. -/
structure Framed (text framed : List Char) : Prop where
  /-- The frame is one block comment, closed at its very end and nowhere before. -/
  oneBlockComment : OneBlockComment framed
  /-- Without the frame, it has the lines of the text with every closing mark pulled apart. -/
  lines : ∃ loosened, PulledApart text loosened ∧ unframe framed = some (Text.lines loosened)

theorem framed_frame (text : List Char) : Framed text (frame text) where
  oneBlockComment := isBlockComment_iff.1 (isBlockComment_frame text)
  lines := ⟨loosen text, pulledApart_loosen text, unframe_frame text⟩

/-- A block comment has no blanks around it. -/
private theorem trim_of_isBlockComment {text : List Char} (h : isBlockComment text) :
    Text.trim text = text := by
  obtain ⟨rest, rfl, ⟨front, rfl⟩, -⟩ := isBlockComment_iff.1 h
  refine Text.trim_eq_self (fun c hc => ?_) (fun c hc => ?_)
  · obtain rfl : '/' = c := by simpa using hc
    decide
  · have hLast : ('/' :: '*' :: (front ++ closingMark)).getLast? = some '/' := by
      rw [show '/' :: '*' :: (front ++ closingMark) = ('/' :: '*' :: front ++ ['*']) ++ ['/'] by
        simp [closingMark], List.getLast?_concat]
    obtain rfl : '/' = c := Option.some.inj (hLast.symm.trans hc)
    decide

/-- What is written is trimmed, and it is a comment that the writer keeps. -/
private theorem trim_write (comment : String) :
    Text.trim (write comment).toList = (write comment).toList ∧
      (isBlockComment (write comment).toList || isLineComments (write comment).toList) := by
  rcases write_cases comment with ⟨hKept, hWrite⟩ | ⟨_, hBlock⟩
  · rw [hWrite, Text.trim_trim, hKept, Bool.or_true]
    exact ⟨rfl, rfl⟩
  · rw [hBlock, Bool.true_or]
    exact ⟨trim_of_isBlockComment hBlock, rfl⟩

/--
Writing a comment twice is writing it once. A text that is neither one block comment nor
line comments only is framed, and the frame gives its lines back.
-/
theorem write_stable (comment : String) :
    write (write comment) = write comment ∧
      (¬ OneBlockComment (Text.trim comment.toList) →
        ¬ OnlyLineComments (Text.trim comment.toList) →
          Framed (Text.trim comment.toList) (write comment).toList) := by
  constructor
  · obtain ⟨hTrim, hKept⟩ := trim_write comment
    apply String.toList_inj.1
    rw [write, hTrim, if_pos hKept, String.toList_ofList]
  · intro hBlock hLines
    rw [← isBlockComment_iff] at hBlock
    rw [← isLineComments_iff] at hLines
    have hFrame : (write comment).toList = frame (Text.trim comment.toList) := by
      simp [write, hBlock, hLines]
    rw [hFrame]
    exact framed_frame (Text.trim comment.toList)

/-- A comment with a run of marks, a line that begins with a slash and one that ends with a star. -/
def crowdedComment : String := " **//\r\n/x\n\ny*\n"

def crowdedHeader : String := "/*\n * ** //\n * /x\n *\n * y*\n */"

/-- The crowded comment is framed, once and for all. -/
theorem write_stable_crowded :
    ¬ OneBlockComment (Text.trim crowdedComment.toList) ∧
      ¬ OnlyLineComments (Text.trim crowdedComment.toList) ∧
      write crowdedComment = crowdedHeader ∧ write crowdedHeader = crowdedHeader ∧
      Framed (Text.trim crowdedComment.toList) crowdedHeader.toList := by
  have hBlock : ¬ OneBlockComment (Text.trim crowdedComment.toList) := by
    rw [← isBlockComment_iff]
    decide
  have hLines : ¬ OnlyLineComments (Text.trim crowdedComment.toList) := by
    rw [← isLineComments_iff]
    decide
  have hHeader : write crowdedComment = crowdedHeader := by decide
  obtain ⟨hTwice, hFramed⟩ := write_stable crowdedComment
  rw [hHeader] at hTwice hFramed
  exact ⟨hBlock, hLines, hHeader, hTwice, hFramed hBlock hLines⟩

end BlockExtension.HeaderComment
