import BlockExtension.Proofs.FreeText
import Mathlib.Data.List.Basic

/-!
# What a template literal consists of

The host takes a template literal apart into chunks of text and, between them, the
code of its substitutions. There is one chunk more than there are substitutions, and
a chunk is empty where two substitutions stand next to each other. This file reads
the literal of a code template back in this way. The substitutions are the
identifiers of the template and the chunks are its literal texts, with their line
ends normalized, whatever characters they hold and whatever stands at their ends.

Normalizing is what the host does. The body of the literal itself loses nothing:
`unescape` takes the escapes back without looking at line ends, so templates with one
body have the same identifiers and the same literal texts.

## Main results

* `Script.Lexer.ends_only_last`: the literal ends with its last back quote and not before.
* `CodeTemplate.readChunks_segments`: the pieces of a body are read as its segments.
* `CodeTemplate.unescape_segments`: and so is its text, line ends included.
* `CodeTemplate.literalBody_exact`: all of it for a whole template literal.
-/

namespace BlockExtension

/-! ## Where a literal ends -/

namespace Script.Lexer

/-- The literal that a text begins with ends where the machine is first back in the code. -/
structure EndsAt (text : List Char) (length : Nat) : Prop where
  back : (run start (text.take length)).1 = start
  inside : ∀ shorter, 0 < shorter → shorter < length →
    (run start (text.take shorter)).1 ≠ start

/-- A place outside of all literals and substitutions. -/
structure Outside (state : State) : Prop where
  no_literal : ∀ delimiter phase, state.mode ≠ .literal delimiter phase
  no_substitution : .substitution ∉ state.opened

def OpensNothing (pieces : List Piece) : Prop := ∀ delimiter, .opens delimiter ∉ pieces

private theorem role_ne_opens_substitution (c : Char) : role c ≠ .opens .substitution := by
  fun_cases role c <;> simp

private theorem outside_codeStep {opened : List Bracket} {c : Char}
    (hNone : .substitution ∉ opened) (hOpens : OpensNothing (codeStep opened c).2) :
    Outside (codeStep opened c).1 := by
  unfold codeStep at hOpens ⊢
  cases hRole : role c with
  | quotes delimiter =>
      rw [hRole] at hOpens
      exact absurd (List.mem_singleton.2 rfl) (hOpens delimiter)
  | slash => exact ⟨by simp, hNone⟩
  | plain => exact ⟨by simp, hNone⟩
  | opens bracket =>
      have hBracket : .substitution ≠ bracket := by
        rintro rfl
        exact role_ne_opens_substitution c hRole
      exact ⟨by simp, by simp [hBracket, hNone]⟩
  | closes bracket =>
      cases opened with
      | nil => exact ⟨by simp [close], by simp [close]⟩
      | cons found rest =>
          obtain ⟨hFound, hRest⟩ := not_or.1 (mt List.mem_cons.2 hNone)
          simp only [close]
          split_ifs with hSame hEnds
          · exact ⟨by simp, hRest⟩
          · exact absurd hEnds.1.symm hFound
          · exact ⟨by simp, hNone⟩

/-- Without a mark that opens one, nobody gets into a literal. -/
private theorem outside_step {state : State} {c : Char} (h : Outside state)
    (hOpens : OpensNothing (step state c).2) : Outside (step state c).1 := by
  obtain ⟨mode, opened⟩ := state
  have hNone : .substitution ∉ opened := h.no_substitution
  cases mode with
  | code => exact outside_codeStep hNone hOpens
  | slash =>
      simp only [step, slashStep] at hOpens ⊢
      split_ifs at hOpens ⊢
      · exact ⟨by simp, hNone⟩
      · exact ⟨by simp, hNone⟩
      · exact outside_codeStep hNone fun delimiter hMem =>
          hOpens delimiter (List.mem_cons_of_mem _ hMem)
  | lineComment =>
      simp only [step, keeping, lineCommentStep]
      split_ifs <;> exact ⟨by simp, hNone⟩
  | blockComment star =>
      simp only [step, keeping, blockCommentStep]
      split_ifs <;> exact ⟨by simp, hNone⟩
  | literal delimiter phase => exact absurd rfl (h.no_literal delimiter phase)
  | broken => exact h

private theorem outside_run {state : State} {text : List Char} (h : Outside state)
    (hOpens : OpensNothing (run state text).2) : Outside (run state text).1 := by
  induction text generalizing state with
  | nil => exact h
  | cons c text ih =>
      rw [run_cons] at hOpens ⊢
      have hFirst : OpensNothing (step state c).2 := fun delimiter hMem =>
        hOpens delimiter (List.mem_append_left _ hMem)
      exact ih (outside_step h hFirst) fun delimiter hMem =>
        hOpens delimiter (List.mem_append_right _ hMem)

/-- Outside of literals a back quote ends nothing. -/
private theorem step_backQuote_ne_start {state : State} (h : Outside state) :
    (step state '\x60').1 ≠ start := by
  obtain ⟨mode, opened⟩ := state
  intro hStart
  have hMode := congrArg State.mode hStart
  cases mode with
  | literal delimiter phase => exact h.no_literal delimiter phase rfl
  | blockComment star => cases star <;> cases hMode
  | _ => cases hMode

/--
A literal between back quotes in which no other one begins ends with its last back quote:
until then the machine is never back in the code.
-/
theorem ends_only_last {body : List Char} {pieces : List Piece}
    (hRun : run start ('\x60' :: (body ++ ['\x60'])) = (start, .opens .template :: pieces))
    (hOpens : OpensNothing pieces) :
    EndsAt ('\x60' :: (body ++ ['\x60'])) (body.length + 2) := by
  refine ⟨?_, fun shorter hPositive hShorter hStart => ?_⟩
  · rw [List.take_of_length_le (by simp), hRun]
  · obtain ⟨count, rfl⟩ := Nat.exists_eq_succ_of_ne_zero hPositive.ne'
    have hCount : count ≤ body.length := by omega
    have hFront : ('\x60' :: (body ++ ['\x60'])).take (count + 1) = '\x60' :: body.take count := by
      rw [List.take_succ_cons, List.take_append_of_le_length hCount]
    have hText : '\x60' :: (body ++ ['\x60']) =
        ('\x60' :: body.take count) ++ (body.drop count ++ ['\x60']) := by
      rw [List.cons_append, ← List.append_assoc, List.take_append_drop]
    rw [hFront] at hStart
    have hSuffix : (run start (body.drop count ++ ['\x60'])).2 ⊆ pieces := by
      have hPieces := congrArg Prod.snd hRun
      rw [hText, run_append, hStart, run_cons] at hPieces
      have hTail : _ ++ (run start (body.drop count ++ ['\x60'])).2 = pieces :=
        (List.cons.inj hPieces).2
      exact hTail ▸ List.subset_append_right _ _
    have hEnd : (run start (body.drop count ++ ['\x60'])).1 = start := by
      have hState := congrArg Prod.fst hRun
      rw [hText, run_append, hStart] at hState
      exact hState
    rw [run_append] at hSuffix hEnd
    have hOutside : Outside (run start (body.drop count)).1 := by
      refine outside_run ⟨by simp [start], by simp [start]⟩ fun delimiter hMem => ?_
      exact hOpens delimiter (hSuffix (List.mem_append_left _ hMem))
    exact step_backQuote_ne_start hOutside hEnd

end Script.Lexer

namespace CodeTemplate

open BlockExtension.Script (isIdentifier isIdentifierPart)
open BlockExtension.Script.Lexer

/-! ## Chunks and substitutions -/

/-- What a template literal consists of: chunks of text, and code between them. -/
structure Chunks where
  texts : List (List Char)
  codes : List (List Char)
  deriving DecidableEq, Repr

namespace Chunks

def empty : Chunks := ⟨[[]], []⟩

/-- More text in front of the first chunk. -/
def prepend (text : List Char) (chunks : Chunks) : Chunks :=
  { chunks with texts := chunks.texts.modifyHead (text ++ ·) }

def substitute (code : List Char) (chunks : Chunks) : Chunks :=
  ⟨[] :: chunks.texts, code :: chunks.codes⟩

@[simp] theorem prepend_nil (chunks : Chunks) : chunks.prepend [] = chunks := by
  obtain ⟨texts, codes⟩ := chunks
  cases texts <;> rfl

@[simp] theorem prepend_prepend (front back : List Char) (chunks : Chunks) :
    (chunks.prepend back).prepend front = chunks.prepend (front ++ back) := by
  obtain ⟨texts, codes⟩ := chunks
  cases texts <;> simp [prepend]

end Chunks

/--
The template literal that pieces say, from behind its opening mark to its closing one
or, with `code`, from inside a substitution on whose code that much is read already.
-/
def readChunks : (code : Option (List Char)) → List Piece → Option Chunks
  | none, .content c :: pieces => (readChunks none pieces).map (·.prepend [c])
  | none, .substitutes :: pieces => readChunks (some []) pieces
  | none, [.closes .template] => some .empty
  | some code, .code c :: pieces => readChunks (some (code ++ [c])) pieces
  | some code, .resumes :: pieces => (readChunks none pieces).map (·.substitute code)
  | _, _ => none

private theorem readChunks_content (content : List Char) (pieces : List Piece) :
    readChunks none (content.map .content ++ pieces) =
      (readChunks none pieces).map (·.prepend content) := by
  induction content with
  | nil => simp
  | cons c content ih =>
      rw [List.map_cons, List.cons_append, readChunks, ih, Option.map_map]
      congr 1
      funext chunks
      exact Chunks.prepend_prepend [c] content chunks

private theorem readChunks_code (code text : List Char) (pieces : List Piece) :
    readChunks (some code) (text.map .code ++ pieces) =
      readChunks (some (code ++ text)) pieces := by
  induction text generalizing code with
  | nil => simp
  | cons c text ih =>
      rw [List.map_cons, List.cons_append, readChunks, ih, List.append_assoc]
      rfl

private theorem readChunks_substitution (code : List Char) (pieces : List Piece) :
    readChunks none (.substitutes :: (code.map .code ++ .resumes :: pieces)) =
      (readChunks none pieces).map (·.substitute code) := by
  rw [readChunks, readChunks_code, List.nil_append, readChunks]

/-! ## Chunks of a template -/

/-- The literal texts before, between and behind the identifiers, empty where there is none. -/
def literalTexts : List CodeSegment → List String
  | [] => [""]
  | .literal text :: rest => (literalTexts rest).modifyHead (text ++ ·)
  | .argument _ :: rest => "" :: literalTexts rest

/-- The chunks of segments, with the literal texts read in some way. -/
def chunksOf (read : List Char → List Char) (segments : List CodeSegment) : Chunks :=
  ⟨(literalTexts segments).map (read ·.toList), (ids ⟨segments⟩).map String.toList⟩

/-- Literal code stands in a chunk of its own. -/
private theorem chunksOf_literal {read : List Char → List Char} (hRead : read [] = [])
    {text : String} {segments : List CodeSegment} (h : Separated (.literal text :: segments)) :
    chunksOf read (.literal text :: segments) =
      (chunksOf read segments).prepend (read text.toList) := by
  cases segments with
  | nil => simp [chunksOf, literalTexts, ids, Chunks.prepend, hRead]
  | cons next segments =>
      cases next with
      | literal other => exact absurd ⟨trivial, trivial⟩ h.rel
      | argument id => simp [chunksOf, literalTexts, ids, Chunks.prepend, hRead]

private theorem chunksOf_argument {read : List Char → List Char} (hRead : read [] = [])
    (id : String) (segments : List CodeSegment) :
    chunksOf read (.argument id :: segments) = (chunksOf read segments).substitute id.toList := by
  simp [chunksOf, literalTexts, ids, Chunks.substitute, hRead]

/-- The pieces of a body are read as its segments. -/
theorem readChunks_segments {segments : List CodeSegment} (h : Separated segments) :
    readChunks none (segments.flatMap segmentPieces ++ [.closes .template]) =
      some (chunksOf normalize segments) := by
  induction segments with
  | nil => rfl
  | cons segment segments ih =>
      rw [List.flatMap_cons, List.append_assoc]
      cases segment with
      | literal text =>
          rw [segmentPieces, readChunks_content, ih h.tail, chunksOf_literal rfl h]
          rfl
      | argument id =>
          rw [segmentPieces, List.cons_append, List.append_assoc, List.singleton_append,
            readChunks_substitution, ih h.tail, chunksOf_argument rfl]
          rfl

/-! ## Taking escapes back -/

/--
The chunks of a body as they were before they were escaped; with `code`, from inside a
substitution on whose code that much is read already.
-/
def unescape : (code : Option (List Char)) → List Char → Chunks
  | none, '\\' :: c :: rest => (unescape none rest).prepend [c]
  | none, '$' :: '\x7b' :: rest => unescape (some []) rest
  | none, c :: rest => (unescape none rest).prepend [c]
  | none, [] => .empty
  | some code, c :: rest =>
      if c = '\x7d' then (unescape none rest).substitute code
      else unescape (some (code ++ [c])) rest
  | some code, [] => ⟨[], [code]⟩

/-- Escaped code does not begin with a brace unless the code itself or what follows it does. -/
private theorem escape_append_ne_brace {text rest : List Char}
    (hText : ∀ more, text ≠ '\x7b' :: more) (hRest : ∀ more, rest ≠ '\x7b' :: more)
    (more : List Char) : escape text ++ rest ≠ '\x7b' :: more := by
  unfold escape
  split
  · exact hRest more
  · simp
  · simp
  · simp
  · next c text _ _ _ =>
      intro hSame
      exact hText text (congrArg (· :: text) (List.cons.inj hSame).1)

/-- Taking escapes back gives the literal code back. -/
private theorem unescape_escape {text rest : List Char}
    (hRest : ∀ more, rest ≠ '\x7b' :: more) :
    unescape none (escape text ++ rest) = (unescape none rest).prepend text := by
  fun_induction escape text with
  | case1 => simp
  | case2 text ih => simp [unescape, ih]
  | case3 text ih => simp [unescape, ih]
  | case4 text ih =>
      have hBrace : unescape none ('\x7b' :: (escape text ++ rest)) =
          (unescape none (escape text ++ rest)).prepend ['\x7b'] := by
        simp [unescape]
      simp [unescape, hBrace, ih]
  | case5 c text hSlash hQuote hDollar ih =>
      have hPlain : unescape none (c :: (escape text ++ rest)) =
          (unescape none (escape text ++ rest)).prepend [c] := by
        refine unescape.eq_3 c _ (fun _ _ hSame _ => hSlash hSame) ?_
        intro more hDollarSign
        exact escape_append_ne_brace (fun more hBrace => hDollar more hDollarSign hBrace) hRest more
      rw [List.cons_append, hPlain, ih]
      simp

/-- Code in a substitution is read up to the brace. -/
private theorem unescape_substitution {id : String} (h : isIdentifier id) (rest : List Char) :
    unescape none ((substitution id).toList ++ rest) =
      (unescape none rest).substitute id.toList := by
  have hCode : ∀ code text : List Char, (∀ c ∈ text, isIdentifierPart c) →
      unescape (some code) (text ++ '\x7d' :: rest) =
        (unescape none rest).substitute (code ++ text) := by
    intro code text hText
    induction text generalizing code with
    | nil => simp [unescape]
    | cons c text ih =>
        have hBrace : c ≠ '\x7d' := by
          rintro rfl
          exact absurd (hText _ (List.mem_cons_self ..)) (by decide)
        rw [List.cons_append, unescape, if_neg hBrace,
          ih _ fun d hd => hText d (List.mem_cons_of_mem _ hd), List.append_assoc]
        rfl
  have hId := hCode [] id.toList (isIdentifierPart_of_mem h)
  simpa [substitution, unescape] using hId

/-- The text of a body is read as its segments. -/
theorem unescape_segments {segments : List CodeSegment} (h : Separated segments)
    (hIds : ∀ id, .argument id ∈ segments → isIdentifier id) :
    unescape none (segments.flatMap segmentText) = chunksOf id segments := by
  induction segments with
  | nil => rfl
  | cons segment segments ih =>
      have hRest := ih h.tail fun id hMem => hIds id (List.mem_cons_of_mem _ hMem)
      rw [List.flatMap_cons]
      cases segment with
      | literal text =>
          have hBegins : ∀ more, segments.flatMap segmentText ≠ '\x7b' :: more := by
            cases segments with
            | nil => simp
            | cons next segments =>
                cases next with
                | literal other => exact absurd ⟨trivial, trivial⟩ h.rel
                | argument id => simp [segmentText, substitution]
          rw [segmentText, unescape_escape hBegins, hRest, chunksOf_literal rfl h]
          rfl
      | argument id =>
          rw [segmentText, unescape_substitution (hIds id (List.mem_cons_self ..)), hRest,
            chunksOf_argument rfl]

/-! ## Whole template literals -/

/--
A template as resolving leaves it: no two literal texts stand side by side, and its
arguments are identifiers.
-/
structure Regular (template : CodeTemplate) : Prop where
  separated : Separated template.segments
  isIdentifier_id : ∀ id, .argument id ∈ template.segments → isIdentifier id

/-- What resolving makes of code is regular. -/
theorem regular_of_resolves {declared : OperationDeclaration} {operation : Operation}
    {template : CodeTemplate} (h : declared.Resolves operation)
    (hCode : operation.code = some template) : template.Regular := by
  rw [h.code_eq, Option.map_eq_some_iff] at hCode
  obtain ⟨code, hDeclared, rfl⟩ := hCode
  have hCoded := Dispatch.coded_of_resolves h hDeclared
  refine ⟨hCoded.separated, fun id hMem => ?_⟩
  obtain ⟨argument, hArgument, rfl⟩ := hCoded.bound id hMem
  exact h.named.isIdentifier_id argument hArgument

/-- The template literal with the code of a template. -/
def quoted (template : CodeTemplate) : List Char :=
  '\x60' :: (template.literalBody.toList ++ ['\x60'])

def readTemplate (text : List Char) : Option Chunks :=
  match (run start text).2 with
  | .opens .template :: pieces => readChunks none pieces
  | _ => none

/-- The pieces of a whole template literal. -/
theorem run_quoted {template : CodeTemplate} (h : template.Regular) :
    run start template.quoted =
      (start, .opens .template ::
        (template.segments.flatMap segmentPieces ++ [.closes .template])) := by
  have hSettled : Settled ['\x60'] := .cons (by decide) (by decide)
  have hOpens : step start '\x60' = (⟨.literal .template .plain, []⟩, [.opens .template]) := rfl
  have hCloses : run ⟨.literal .template .plain, []⟩ ['\x60'] =
      (start, [.closes .template]) := rfl
  rw [quoted, run_cons, hOpens, run_literalBody h.separated h.isIdentifier_id hSettled, hCloses]
  rfl

private theorem opensNothing_body (segments : List CodeSegment) :
    OpensNothing (segments.flatMap segmentPieces ++ [.closes .template]) := by
  intro delimiter hMem
  rcases List.mem_append.1 hMem with hMem | hMem
  · obtain ⟨segment, _, hMem⟩ := List.mem_flatMap.1 hMem
    cases segment <;> simp [segmentPieces] at hMem
  · simp at hMem

/-- Templates with one body have the same identifiers and the same literal texts. -/
theorem eq_of_literalBody_eq {template other : CodeTemplate} (h : template.Regular)
    (hOther : other.Regular) (hBody : other.literalBody = template.literalBody) :
    other.ids = template.ids ∧
      literalTexts other.segments = literalTexts template.segments := by
  have hChunks : chunksOf id other.segments = chunksOf id template.segments := by
    rw [← unescape_segments h.separated h.isIdentifier_id,
      ← unescape_segments hOther.separated hOther.isIdentifier_id, ← toList_literalBody,
      ← toList_literalBody, hBody]
  have hInjective : Function.Injective (List.map String.toList) :=
    List.map_injective_iff.2 fun _ _ hSame => String.toList_inj.1 hSame
  obtain ⟨hTexts, hCodes⟩ := Chunks.mk.inj hChunks
  exact ⟨hInjective hCodes, hInjective hTexts⟩

/--
The template literal of a template ends with its last back quote and not before. Its
substitutions are the identifiers, and its chunks are the literal texts between them
with their line ends normalized. Its body determines both, line ends included.
-/
theorem literalBody_exact {template : CodeTemplate} (h : template.Regular) :
    EndsAt template.quoted template.quoted.length ∧
      readTemplate template.quoted =
        some
          { texts := (literalTexts template.segments).map fun text => normalize text.toList
            codes := template.ids.map String.toList } ∧
      ∀ other : CodeTemplate, other.Regular → other.literalBody = template.literalBody →
        other.ids = template.ids ∧
          literalTexts other.segments = literalTexts template.segments := by
  have hRun := run_quoted h
  refine ⟨?_, ?_, fun other hOther hBody => eq_of_literalBody_eq h hOther hBody⟩
  · have hLength : template.quoted.length = template.literalBody.toList.length + 2 := by
      simp [quoted]
    rw [hLength]
    exact ends_only_last hRun (opensNothing_body _)
  · rw [readTemplate, hRun]
    exact readChunks_segments h.separated

/-- A template in which everything that needs an escape stands at a joint. -/
def jointed (gap : List CodeSegment) : CodeTemplate :=
  ⟨.literal "\\\x60$" :: .argument "a" :: (gap ++
    [.argument "b", .literal "\x7b\r\n$\x7b"])⟩

private theorem regular_jointed {gap : List CodeSegment} (h : gap = [] ∨ gap = [.literal ""]) :
    (jointed gap).Regular := by
  rcases h with rfl | rfl
  all_goals
    refine ⟨by simp [Separated, IsLiteral, jointed], fun id hMem => ?_⟩
    obtain rfl | rfl : id = "a" ∨ id = "b" := by simpa [jointed] using hMem
    all_goals decide

/-- An empty literal text is not seen in the body, and everything else is. -/
theorem literalBody_exact_jointed :
    (jointed []).Regular ∧ (jointed [.literal ""]).Regular ∧
      EndsAt (jointed []).quoted (jointed []).quoted.length ∧
      readTemplate (jointed []).quoted =
        some
          { texts := [['\\', '\x60', '$'], [], ['\x7b', '\n', '$', '\x7b']]
            codes := [['a'], ['b']] } ∧
      (jointed [.literal ""]).literalBody = (jointed []).literalBody ∧
      (jointed [.literal ""]).ids = (jointed []).ids ∧
      literalTexts (jointed [.literal ""]).segments = literalTexts (jointed []).segments := by
  have hRegular := regular_jointed (.inl rfl)
  have hOther := regular_jointed (.inr rfl)
  have hBody : (jointed [.literal ""]).literalBody = (jointed []).literalBody := by decide
  obtain ⟨hEnds, hRead, hSame⟩ := literalBody_exact hRegular
  exact ⟨hRegular, hOther, hEnds, hRead, hBody, hSame _ hOther hBody⟩

end CodeTemplate

end BlockExtension
