import BlockExtension.Proofs.Decimal.Numeral
import BlockExtension.Proofs.LiteralText
import BlockExtension.Proofs.Script.ObjectLiteral
import BlockExtension.Proofs.Script.Pattern
import Mathlib.Data.List.Forall2

/-!
# Reading a literal of the script

This file reads a text as an object or array literal, whole, and says which document it
stands for. The text is taken apart by `Lexer`, so strings, comments and white space are
what the host takes them for. The rest is a machine with a stack: a frame for each
container that is open, with the entries that are complete, and the spot inside the
innermost one.

The literals are those that only have data in them. A key is an identifier or a string in
double quotes, and so is a value that is a text; other values are containers, numerals,
`true`, `false`, `null`, and paths into the host, which stand for their own text. A comma
may follow the last entry. A key that comes again keeps its place and takes the new value,
whatever the key is: that `__proto__` means something else to an object of the host is the
matter of `ownNames`. Everything else leaves the reader `lost`.

## Main results

* `denotes_quote`, `denotes_numeral`, `denotes_path`: texts that are one value.
* `Container.denotes_enclose`, `Container.denotes_intercalate`: containers, with an entry
  on each line or without white space.
-/

namespace BlockExtension.Script.LiteralReader

open BlockExtension.Script.Lexer

/-! ## Words -/

/-- Two identifiers or more, with dots between them. -/
def isPath (word : List Char) : Bool :=
  2 ≤ (word.splitOn '.').length && (word.splitOn '.').all isIdentifierText

/-- The value that a word is: one of three fixed words, a path, or a numeral. -/
def wordValue? (word : List Char) : Option Json :=
  if word = ['n', 'u', 'l', 'l'] then some .null
  else if word = ['t', 'r', 'u', 'e'] then some (.bool true)
  else if word = ['f', 'a', 'l', 's', 'e'] then some (.bool false)
  else if isPath word then some (.string (String.ofList word))
  else (Json.numeral? word).map .number

/-! ## Marks -/

/-- What a piece of a script is for a reader of literals. -/
inductive Mark where
  | blank
  | comma
  | colon
  | opens (bracket : Bracket)
  | closes (bracket : Bracket)
  | quote
  | unquote
  | content (c : Char)
  | letter (c : Char)
  | other
  deriving DecidableEq, Repr

/--
What a piece is. Literals are written with double quotation marks only, so other marks mean
nothing to the reader.
-/
def mark : Piece → Mark
  | .code c =>
      if isSpace c || isLineEnd c then .blank
      else if c = ',' then .comma
      else if c = ':' then .colon
      else
        match role c with
        | .opens bracket => .opens bracket
        | .closes bracket => .closes bracket
        | .plain => .letter c
        | _ => .other
  | .comment => .blank
  | .opens delimiter => if delimiter = .double then .quote else .other
  | .content c => .content c
  | .closes delimiter => if delimiter = .double then .unquote else .other
  | .substitutes => .other
  | .resumes => .other

/-! ## The reader -/

/-- A container that is open, with the entries of it that are complete. -/
inductive Frame where
  | items (before : List Json)
  | fields (before : List (String × Json))
  | field (before : List (String × Json)) (key : String)
  deriving Repr

/--
Where a reader stands in the innermost container. A reader that is lost reads nothing any
more.
-/
inductive Spot where
  | value
  | word (letters : List Char)
  | text (content : List Char)
  | done (value : Json)
  /-- Where a key stands, or the end of an object. -/
  | key
  | name (letters : List Char)
  | quotedKey (content : List Char)
  | colon (key : String)
  | lost
  deriving Repr

def Spot.value? : Spot → Option Json
  | .word letters => wordValue? letters
  | .done complete => some complete
  | _ => none

/-- A reader: the containers around it, innermost first, and where it stands. -/
structure Reading where
  frames : List Frame
  spot : Spot
  deriving Repr

namespace Reading

def lost : Reading := ⟨[], .lost⟩

/-- Where a value stands, or the end of an array. -/
def valueMark : List Frame → Mark → Reading
  | frames, .blank => ⟨frames, .value⟩
  | frames, .quote => ⟨frames, .text []⟩
  | frames, .letter c => ⟨frames, .word [c]⟩
  | frames, .opens .square => ⟨.items [] :: frames, .value⟩
  | frames, .opens .curly => ⟨.fields [] :: frames, .key⟩
  | .items before :: frames, .closes .square => ⟨frames, .done (.array before)⟩
  | _, _ => lost

/-- Behind a value: the end of the entry that it is in, and perhaps of its container. -/
def doneMark (value : Json) : List Frame → Mark → Reading
  | frames, .blank => ⟨frames, .done value⟩
  | .items before :: frames, .comma => ⟨.items (before ++ [value]) :: frames, .value⟩
  | .items before :: frames, .closes .square => ⟨frames, .done (.array (before ++ [value]))⟩
  | .field before key :: frames, .comma => ⟨.fields (before ++ [(key, value)]) :: frames, .key⟩
  | .field before key :: frames, .closes .curly =>
      ⟨frames, .done (.object (Association.putAll (before ++ [(key, value)])))⟩
  | _, _ => lost

/-- Where a key stands, or the end of an object. -/
def keyMark : List Frame → Mark → Reading
  | frames, .blank => ⟨frames, .key⟩
  | frames, .quote => ⟨frames, .quotedKey []⟩
  | frames, .letter c => ⟨frames, .name [c]⟩
  | .fields before :: frames, .closes .curly =>
      ⟨frames, .done (.object (Association.putAll before))⟩
  | _, _ => lost

/-- Behind a key. -/
def colonMark (key : String) : List Frame → Mark → Reading
  | frames, .blank => ⟨frames, .colon key⟩
  | .fields before :: frames, .colon => ⟨.field before key :: frames, .value⟩
  | _, _ => lost

/--
What a mark does. A word ends at the first mark that is no letter, and then the mark is read
behind the value that the word is.
-/
def onMark (reading : Reading) : Mark → Reading :=
  match reading.spot with
  | .value => valueMark reading.frames
  | .word letters => fun
      | .letter c => ⟨reading.frames, .word (letters ++ [c])⟩
      | mark =>
          match wordValue? letters with
          | some value => doneMark value reading.frames mark
          | none => lost
  | .text content => fun
      | .content c => ⟨reading.frames, .text (content ++ [c])⟩
      | .unquote => ⟨reading.frames, .done (.string (String.ofList content))⟩
      | _ => lost
  | .done value => doneMark value reading.frames
  | .key => keyMark reading.frames
  | .name letters => fun
      | .letter c => ⟨reading.frames, .name (letters ++ [c])⟩
      | mark =>
          if isIdentifierText letters then colonMark (String.ofList letters) reading.frames mark
          else lost
  | .quotedKey content => fun
      | .content c => ⟨reading.frames, .quotedKey (content ++ [c])⟩
      | .unquote => ⟨reading.frames, .colon (String.ofList content)⟩
      | _ => lost
  | .colon key => colonMark key reading.frames
  | .lost => fun _ => lost

def step (reading : Reading) (piece : Piece) : Reading := reading.onMark (mark piece)

end Reading

/-- The document that a whole text stands for as a literal; nothing if it is no such literal. -/
def literal? (text : String) : Option Json :=
  let lexed := run start text.toList
  let reading := lexed.2.foldl Reading.step ⟨[], .value⟩
  if lexed.1 = start ∧ reading.frames.isEmpty then reading.spot.value? else none

/-! ## Texts -/

/-- A text that leads the lexer from code to code, wherever it stands, and a reader from
`first` to `last`. -/
def Leads (first last : Reading) (text : String) : Prop :=
  ∀ opened, ∃ pieces, run ⟨.code, opened⟩ text.toList = (⟨.code, opened⟩, pieces) ∧
    pieces.foldl Reading.step first = last

/-- A text that is a value, wherever a value stands. -/
def Denotes (text : String) (value : Json) : Prop :=
  ∀ frames, ∃ spot, Leads ⟨frames, .value⟩ ⟨frames, spot⟩ text ∧ spot.value? = some value

section Leads

variable {first between last : Reading} {text front back : String} {frames : List Frame}

theorem Leads.append (hFront : Leads first between front) (hBack : Leads between last back) :
    Leads first last (front ++ back) := by
  intro opened
  obtain ⟨p, hP, hFirst⟩ := hFront opened
  obtain ⟨q, hQ, hLast⟩ := hBack opened
  refine ⟨p ++ q, ?_, ?_⟩
  · rw [String.toList_append, run_append, hP, hQ]
    rfl
  · rw [List.foldl_append, hFirst, hLast]

theorem leads_nil : Leads first first "" := fun _ => ⟨[], rfl, rfl⟩

theorem leads_plain (h : IsPlain text.toList)
    (hRead : (text.toList.map Piece.code).foldl Reading.step first = last) :
    Leads first last text := fun opened => ⟨_, run_plain h opened, hRead⟩

theorem mark_of_blank {c : Char} (h : sign (.code c) = .blank) : mark (.code c) = .blank := by
  cases hSpace : isSpace c || isLineEnd c with
  | true => rw [mark, if_pos hSpace]
  | false =>
      simp only [sign, hSpace, Bool.false_eq_true, if_false] at h
      split_ifs at h
      cases hRole : role c <;> simp only [hRole, reduceCtorEq] at h

/-- White space is passed over where it may stand. -/
theorem leads_blank (hBlank : Blank text) (h : first.onMark .blank = first) :
    Leads first first text := by
  refine fun opened => ⟨_, hBlank.run_eq opened, ?_⟩
  have hMark : ∀ c ∈ text.toList, mark (.code c) = .blank := fun c hMem =>
    mark_of_blank (hBlank c hMem).2
  generalize text.toList = chars at hMark
  induction chars with
  | nil => rfl
  | cons c chars ih =>
      rw [List.map_cons, List.foldl_cons, Reading.step, hMark c (List.mem_cons_self ..), h]
      exact ih fun d hd => hMark d (List.mem_cons_of_mem _ hd)

/-- A text of one character. -/
theorem leads_char {c : Char} {found : Mark} (hRole : role c = .plain)
    (hMark : mark (.code c) = found) (hStep : first.onMark found = last) :
    Leads first last (String.ofList [c]) := by
  refine leads_plain ?_ ?_
  · rw [String.toList_ofList]
    rintro d hMem
    rwa [List.mem_singleton.1 hMem]
  · rw [String.toList_ofList, List.map_singleton, List.foldl_cons, List.foldl_nil, Reading.step,
      hMark, hStep]

theorem leads_comma (h : first.onMark .comma = last) : Leads first last "," :=
  leads_char (by decide) (by decide) h

theorem leads_colon (h : first.onMark .colon = last) : Leads first last ":" :=
  leads_char (by decide) (by decide) h

end Leads

/-! ## Words and strings -/

/-- A character that is read as a part of a word. -/
def IsLetter (c : Char) : Prop := mark (.code c) = .letter c

instance : DecidablePred IsLetter := fun c =>
  inferInstanceAs (Decidable (mark (.code c) = .letter c))

theorem role_of_isLetter {c : Char} (h : IsLetter c) : role c = .plain := by
  simp only [IsLetter, mark] at h
  split_ifs at h
  cases hRole : role c with
  | plain => rfl
  | _ => simp only [hRole, reduceCtorEq] at h

section Growing

variable {first last : Reading} {frames : List Frame} {grow : List Char → Spot}
  {kind : Char → Mark}

/-- A spot that takes up every character of a kind. -/
def Grows (frames : List Frame) (grow : List Char → Spot) (kind : Char → Mark) : Prop :=
  ∀ read c, Reading.onMark ⟨frames, grow read⟩ (kind c) = ⟨frames, grow (read ++ [c])⟩

/-- Characters of the kind go one by one to such a spot. -/
theorem Grows.foldl_eq {piece : Char → Piece} (h : Grows frames grow kind) {chars : List Char}
    (hMark : ∀ c ∈ chars, mark (piece c) = kind c) (read : List Char) :
    (chars.map piece).foldl Reading.step ⟨frames, grow read⟩ = ⟨frames, grow (read ++ chars)⟩ := by
  induction chars generalizing read with
  | nil =>
      rw [List.append_nil]
      rfl
  | cons c chars ih =>
      have hFirst : Reading.step ⟨frames, grow read⟩ (piece c) = ⟨frames, grow (read ++ [c])⟩ := by
        rw [Reading.step, hMark c (List.mem_cons_self ..), h]
      rw [List.map_cons, List.foldl_cons, hFirst,
        ih fun d hd => hMark d (List.mem_cons_of_mem _ hd), List.append_assoc]
      rfl

/-- A word is read to its end. -/
theorem Grows.leads_word {word : String} (h : Grows frames grow .letter)
    (hFirst : ∀ c, first.onMark (.letter c) = ⟨frames, grow [c]⟩) (hNonempty : word.toList ≠ [])
    (hLetters : ∀ c ∈ word.toList, IsLetter c) : Leads first ⟨frames, grow word.toList⟩ word := by
  refine leads_plain (fun c hMem => role_of_isLetter (hLetters c hMem)) ?_
  cases hText : word.toList with
  | nil => exact absurd hText hNonempty
  | cons c letters =>
      rw [hText] at hLetters
      have hStep : first.step (.code c) = ⟨frames, grow [c]⟩ := by
        rw [Reading.step, hLetters c (List.mem_cons_self ..), hFirst]
      rw [List.map_cons, List.foldl_cons, hStep,
        h.foldl_eq fun d hd => hLetters d (List.mem_cons_of_mem _ hd)]
      rfl

/-- A string is read to its closing mark. -/
theorem Grows.leads_quote {content : String} (h : Grows frames grow .content)
    (hFirst : first.onMark .quote = ⟨frames, grow []⟩)
    (hLast : Reading.onMark ⟨frames, grow content.toList⟩ .unquote = last) :
    Leads first last (quote content) := by
  refine fun opened => ⟨_, run_quote content opened, ?_⟩
  have hOpens : first.step (.opens .double) = ⟨frames, grow []⟩ := hFirst
  rw [quotedPieces, List.foldl_cons, hOpens, List.foldl_append, h.foldl_eq fun _ _ => rfl]
  exact hLast

theorem grows_word : Grows frames .word .letter := fun _ _ => rfl

theorem grows_text : Grows frames .text .content := fun _ _ => rfl

theorem grows_name : Grows frames .name .letter := fun _ _ => rfl

theorem grows_quotedKey : Grows frames .quotedKey .content := fun _ _ => rfl

end Growing

theorem denotes_word {word : String} {value : Json} (hNonempty : word.toList ≠ [])
    (h : ∀ c ∈ word.toList, IsLetter c) (hValue : wordValue? word.toList = some value) :
    Denotes word value := fun _ =>
  ⟨.word word.toList, grows_word.leads_word (fun _ => rfl) hNonempty h, hValue⟩

/-- A word that is written down letter by letter. -/
theorem denotes_fixed {letters : List Char} {value : Json} (hNonempty : letters ≠ [])
    (h : letters.all fun c => IsLetter c) (hValue : wordValue? letters = some value) :
    Denotes (String.ofList letters) value := by
  refine denotes_word ?_ ?_ ?_ <;> rw [String.toList_ofList]
  · exact hNonempty
  · exact fun c hMem => of_decide_eq_true (List.all_eq_true.1 h c hMem)
  · exact hValue

theorem denotes_quote (text : String) : Denotes (quote text) (.string text) := by
  refine fun frames => ⟨.done (.string text), grows_text.leads_quote rfl ?_, rfl⟩
  simp only [Reading.onMark, String.ofList_toList]

/-! ### Characters of words -/

/-- The characters of identifiers, paths and numerals. -/
theorem isLetter_of_mem {c : Char} (h : c ∈ partClass ++ ['.', '-', '+']) : IsLetter c := by
  have hAll : (partClass ++ ['.', '-', '+']).all fun d => IsLetter d := by decide +kernel
  exact of_decide_eq_true (List.all_eq_true.1 hAll c h)

theorem isLetter_of_isIdentifierPart {c : Char} (h : isIdentifierPart c) : IsLetter c :=
  isLetter_of_mem (List.mem_append_left _ (mem_partClass_iff.2 h))

theorem isLetter_of_isDigit {c : Char} (h : c.isDigit) : IsLetter c :=
  isLetter_of_isIdentifierPart (by simp [isIdentifierPart, h])

theorem isIdentifierStart_of_isDigit {c : Char} (h : c.isDigit) : isIdentifierStart c = false := by
  have hAll : (span '0' '9').all fun d => !isIdentifierStart d := by decide +kernel
  have hMem : c ∈ span '0' '9' := by
    rw [mem_span (by decide)]
    simpa [Char.isDigit, Char.le_def] using h
  simpa using List.all_eq_true.1 hAll c hMem

/-! ### Paths -/

theorem mem_intercalate {separator c : Char} {parts : List (List Char)}
    (h : c ∈ [separator].intercalate parts) : c = separator ∨ ∃ part ∈ parts, c ∈ part := by
  induction parts with
  | nil => cases h
  | cons part parts ih =>
      by_cases hLast : parts = []
      · rw [hLast, List.intercalate_singleton] at h
        exact Or.inr ⟨part, List.mem_cons_self .., h⟩
      · rw [List.intercalate_cons_of_ne_nil hLast] at h
        rcases List.mem_append.1 h with hFront | hBack
        · rcases List.mem_append.1 hFront with hPart | hSeparator
          · exact Or.inr ⟨part, List.mem_cons_self .., hPart⟩
          · exact Or.inl (List.mem_singleton.1 hSeparator)
        · exact (ih hBack).imp id fun ⟨other, hOther, hMem⟩ =>
            ⟨other, List.mem_cons_of_mem _ hOther, hMem⟩

theorem isLetter_of_isPath {word : List Char} (h : isPath word) : ∀ c ∈ word, IsLetter c := by
  simp only [isPath, Bool.and_eq_true, List.all_eq_true] at h
  intro c hMem
  have hWord : ['.'].intercalate (word.splitOn '.') = word := List.intercalate_splitOn '.'
  rw [← hWord] at hMem
  rcases mem_intercalate hMem with rfl | ⟨part, hPart, hMem⟩
  · exact isLetter_of_mem (by decide +kernel)
  · exact isLetter_of_isIdentifierPart (isIdentifierPart_of_mem (h.2 part hPart) c hMem)

/-- A path begins like an identifier. -/
theorem head_of_isPath {word : List Char} (h : isPath word) :
    ∃ c rest, word = c :: rest ∧ isIdentifierStart c := by
  simp only [isPath, Bool.and_eq_true, List.all_eq_true] at h
  have hWord : ['.'].intercalate (word.splitOn '.') = word := List.intercalate_splitOn '.'
  cases hParts : word.splitOn '.' with
  | nil => exact absurd hParts (List.splitOn_ne_nil '.' word)
  | cons part parts =>
      have hPart := h.2 part (hParts ▸ List.mem_cons_self ..)
      rw [hParts] at hWord
      cases part with
      | nil => cases hPart
      | cons c part =>
          simp only [isIdentifierText, Bool.and_eq_true] at hPart
          by_cases hLast : parts = []
          · rw [hLast, List.intercalate_singleton] at hWord
            exact ⟨c, part, hWord.symm, hPart.1⟩
          · rw [List.intercalate_cons_of_ne_nil hLast, List.append_assoc] at hWord
            exact ⟨c, _, hWord.symm, hPart.1⟩

/-- A path stands for its own text. -/
theorem denotes_path {path : String} (h : isPath path.toList) : Denotes path (.string path) := by
  obtain ⟨first, rest, hText, _⟩ := head_of_isPath h
  refine denotes_word (by simp [hText]) (isLetter_of_isPath h) ?_
  have hWord : ∀ word, isPath word = false → path.toList ≠ word := by
    rintro word hOther rfl
    simp [h] at hOther
  rw [wordValue?, if_neg (hWord _ (by decide)), if_neg (hWord _ (by decide)),
    if_neg (hWord _ (by decide)), if_pos h, String.ofList_toList]

/-! ### Numerals -/

/-- A number is read as itself. -/
theorem denotes_write (number : Json.Number) : Denotes number.write (.number number) := by
  have hWellFormed := Json.Numeral.ofNumber_wellFormed number
  have hText := Json.Numeral.ofNumber_text number
  obtain ⟨first, rest, hHead, hFirst⟩ := Json.Numeral.head_text hWellFormed
  rw [hText] at hHead
  have hStart : isIdentifierStart first = false := by
    rcases hFirst with hDigit | rfl
    · exact isIdentifierStart_of_isDigit hDigit
    · decide
  refine denotes_word (by simp [hHead]) (fun c hMem => ?_) ?_
  · rw [← hText] at hMem
    rcases Json.Numeral.mem_text hWellFormed hMem with hDigit | hSign
    · exact isLetter_of_isDigit hDigit
    · have hAll : Json.Numeral.signs ⊆ partClass ++ ['.', '-', '+'] := by decide +kernel
      exact isLetter_of_mem (hAll hSign)
  · have hWord : ∀ word : List Char, isIdentifierStart (word.headD ' ') →
        number.write.toList ≠ word := by
      rintro word hOther rfl
      simp [hHead, hStart] at hOther
    have hPath : ¬ isPath number.write.toList := by
      intro hPath
      obtain ⟨c, more, hOther, hLetter⟩ := head_of_isPath hPath
      exact hWord _ (hOther ▸ hLetter) rfl
    rw [wordValue?, if_neg (hWord _ (by decide)), if_neg (hWord _ (by decide)),
      if_neg (hWord _ (by decide)), if_neg hPath, Json.numeral?_write, Option.map_some]

/-! ## Containers -/

/--
A kind of container: its brackets, where an entry stands in it, and what it is as a whole.
What is proved of both kinds is proved once, from these laws.
-/
structure Container (α : Type) where
  bracket : Bracket
  opening : Char
  closing : Char
  /-- Where an entry stands, behind others. -/
  inside : List α → List Frame → Reading
  whole : List α → Json
  role_opening : role opening = .opens bracket
  role_closing : role closing = .closes bracket
  mark_opening : mark (.code opening) = .opens bracket
  mark_closing : mark (.code closing) = .closes bracket
  opens : ∀ frames, Reading.onMark ⟨frames, .value⟩ (.opens bracket) = inside [] frames
  closes : ∀ before frames,
    (inside before frames).onMark (.closes bracket) = ⟨frames, .done (whole before)⟩
  blank : ∀ before frames, (inside before frames).onMark .blank = inside before frames

/-- Arrays. -/
def arrays : Container Json where
  bracket := .square
  opening := '['
  closing := ']'
  inside before frames := ⟨.items before :: frames, .value⟩
  whole := .array
  role_opening := by decide
  role_closing := by decide
  mark_opening := by decide
  mark_closing := by decide
  opens _ := rfl
  closes _ _ := rfl
  blank _ _ := rfl

/-- Objects. -/
def objects : Container (String × Json) where
  bracket := .curly
  opening := '\x7b'
  closing := '\x7d'
  inside before frames := ⟨.fields before :: frames, .key⟩
  whole fields := .object (Association.putAll fields)
  role_opening := by decide
  role_closing := by decide
  mark_opening := by decide
  mark_closing := by decide
  opens _ := rfl
  closes _ _ := rfl
  blank _ _ := rfl

namespace Container

variable {α : Type} {c : Container α} {text : String} {texts : List String} {entry : α}
  {entries : List α}

/-- A text that is one entry, to which a comma or the closing bracket puts an end. -/
def Holds (c : Container α) (text : String) (entry : α) : Prop :=
  ∀ before frames, ∃ last, Leads (c.inside before frames) last text ∧
    last.onMark .comma = c.inside (before ++ [entry]) frames ∧
    last.onMark (.closes c.bracket) = ⟨frames, .done (c.whole (before ++ [entry]))⟩

/-- What stands between the brackets makes a container of them. -/
theorem denotes_enclosed (h : ∀ frames, ∃ last, Leads (c.inside [] frames) last text ∧
      last.onMark (.closes c.bracket) = ⟨frames, .done (c.whole entries)⟩) :
    Denotes (String.ofList [c.opening] ++ text ++ String.ofList [c.closing]) (c.whole entries) := by
  intro frames
  obtain ⟨last, hInner, hLast⟩ := h frames
  refine ⟨.done (c.whole entries), fun opened => ?_, rfl⟩
  obtain ⟨pieces, hRun, hRead⟩ := hInner (c.bracket :: opened)
  refine ⟨_, run_enclosed c.role_opening c.role_closing hRun, ?_⟩
  rw [List.foldl_cons, Reading.step, c.mark_opening, c.opens, List.foldl_append, hRead,
    List.foldl_cons, List.foldl_nil, Reading.step, c.mark_closing, hLast]

/-! ### One entry on each line -/

theorem leads_entryLine (h : c.Holds text entry) (before : List α) (frames : List Frame)
    (indent : Nat) :
    Leads (c.inside before frames) (c.inside (before ++ [entry]) frames)
      (entryLine indent text) := by
  obtain ⟨last, hText, hComma, _⟩ := h before frames
  have hSpaces := leads_blank (blank_spaces indent) (c.blank before frames)
  have hFeed : Leads (c.inside (before ++ [entry]) frames) (c.inside (before ++ [entry]) frames)
      "\n" := leads_blank (blank_fixed (by decide)) (c.blank _ frames)
  exact (hSpaces.append hText).append ((leads_comma hComma).append hFeed)

theorem leads_entryLines (h : List.Forall₂ c.Holds texts entries) (before : List α)
    (frames : List Frame) (indent : Nat) :
    Leads (c.inside before frames) (c.inside (before ++ entries) frames)
      (String.join (texts.map (entryLine indent))) := by
  induction h generalizing before with
  | nil =>
      rw [List.append_nil]
      exact leads_nil
  | cons hFirst _ ih =>
      rw [List.map_cons, String.join_cons, List.append_cons]
      exact (leads_entryLine hFirst before frames indent).append (ih _)

/-- A container with an entry on each line is the container of these entries. -/
theorem denotes_enclose (h : List.Forall₂ c.Holds texts entries) (indent : Nat) :
    Denotes (enclose (String.ofList [c.opening]) (String.ofList [c.closing]) indent texts)
      (c.whole entries) := by
  cases hEmpty : texts.isEmpty with
  | true =>
      rw [List.isEmpty_iff] at hEmpty
      subst hEmpty
      cases h
      have hWhole := denotes_enclosed (c := c) fun frames => ⟨_, leads_nil, c.closes [] frames⟩
      rw [String.append_empty] at hWhole
      rwa [enclose, List.isEmpty_nil, if_pos rfl]
  | false =>
      rw [enclose_of_entries hEmpty]
      refine denotes_enclosed fun frames => ⟨c.inside entries frames, ?_, c.closes entries frames⟩
      have hFeed : Leads (c.inside [] frames) (c.inside [] frames) "\n" :=
        leads_blank (blank_fixed (by decide)) (c.blank [] frames)
      have hSpaces := leads_blank (blank_spaces indent) (c.blank entries frames)
      exact (hFeed.append (leads_entryLines h [] frames (indent + 2))).append hSpaces

/-! ### No white space -/

theorem leads_intercalate (h : List.Forall₂ c.Holds texts entries) (before : List α)
    (frames : List Frame) :
    ∃ last, Leads (c.inside before frames) last (",".intercalate texts) ∧
      last.onMark (.closes c.bracket) = ⟨frames, .done (c.whole (before ++ entries))⟩ := by
  induction h generalizing before with
  | nil =>
      rw [List.append_nil]
      exact ⟨_, leads_nil, c.closes before frames⟩
  | @cons text entry texts entries hFirst hRest ih =>
      obtain ⟨last, hText, hComma, hCloses⟩ := hFirst before frames
      cases hRest with
      | nil => exact ⟨last, by rwa [String.intercalate_singleton], hCloses⟩
      | cons hNext hRest =>
          obtain ⟨final, hMore, hFinal⟩ := ih (before ++ [entry])
          refine ⟨final, ?_, by rwa [List.append_cons]⟩
          rw [String.intercalate_cons_cons]
          exact (hText.append (leads_comma hComma)).append hMore

/-- A container without white space is the container of its entries. -/
theorem denotes_intercalate (h : List.Forall₂ c.Holds texts entries) :
    Denotes (String.ofList [c.opening] ++ ",".intercalate texts ++ String.ofList [c.closing])
      (c.whole entries) :=
  denotes_enclosed fun frames => leads_intercalate h [] frames

end Container

end BlockExtension.Script.LiteralReader
