import BlockExtension.Proofs.Script.Literals

/-!
# Reading what a case says

The cases of the dispatch tables are lists of lines. This file reads such lines
back by the rules of `Lexer`: a text case begins with lines that bind the inputs
of a block to names and ends with a template literal, and a tree case returns an
object literal. The readers look at the pieces only, and so they see what the
host sees, whatever text the lines were put together from.

`templateValue` is what a template literal evaluates to when the code in its
substitutions has values.

## Main results

* `run_nest`: text whose brackets match is code, character by character.
* `templateValue_segments`: a template literal evaluates segment by segment.
-/

namespace BlockExtension.Script.Lexer

open BlockExtension (CodeSegment CodeTemplate)

/-! ## Lines -/

/-- The pieces of each line, when the lines are read one after the other. -/
def runLines (state : State) : List String → State × List (List Piece)
  | [] => (state, [])
  | line :: lines =>
      let first := run state (line.toList ++ ['\n'])
      let rest := runLines first.1 lines
      (rest.1, first.2 :: rest.2)

/-- The pieces of each line of a text that is complete. -/
def readLines (lines : List String) : Option (List (List Piece)) :=
  if (runLines start lines).1 = start then some (runLines start lines).2 else none

theorem runLines_cons {state : State} {line : String} {pieces : List Piece}
    (h : run state (line.toList ++ ['\n']) = (state, pieces)) (lines : List String) :
    runLines state (line :: lines) =
      ((runLines state lines).1, pieces :: (runLines state lines).2) := by
  simp only [runLines, h]

/-! ## Code without literals -/

/--
How a text without marks changes the brackets around it; nothing if they do not match. Such
a text is the same code wherever it stands.
-/
def nest (opened : List Bracket) : List Char → Option (List Bracket)
  | [] => some opened
  | c :: rest =>
      match role c with
      | .plain => nest opened rest
      | .opens bracket => nest (bracket :: opened) rest
      | .closes bracket =>
          match opened with
          | found :: outer => if found = bracket then nest outer rest else none
          | [] => none
      | _ => none

/-- Text whose brackets match is code, character by character. -/
theorem run_nest {opened left : List Bracket} {text : List Char}
    (h : nest opened text = some left) :
    run ⟨.code, opened⟩ text = (⟨.code, left⟩, text.map .code) := by
  induction text generalizing opened with
  | nil =>
      cases h
      rfl
  | cons c text ih =>
      have hStep : ∀ next, nest next text = some left →
          codeStep opened c = (⟨.code, next⟩, [.code c]) →
          run ⟨.code, opened⟩ (c :: text) = (⟨.code, left⟩, (c :: text).map .code) := by
        intro next hNext hCode
        rw [run_cons, show step ⟨.code, opened⟩ c = (⟨.code, next⟩, [.code c]) from hCode, ih hNext]
        rfl
      cases hRole : role c with
      | plain =>
          simp only [nest, hRole] at h
          exact hStep opened h (by simp [codeStep, hRole])
      | opens bracket =>
          simp only [nest, hRole] at h
          exact hStep (bracket :: opened) h (by simp [codeStep, hRole])
      | closes bracket =>
          cases opened with
          | nil => simp [nest, hRole] at h
          | cons found outer =>
              simp only [nest, hRole] at h
              split at h
              · next hSame => exact hStep outer h (by simp [codeStep, hRole, close, hSame])
              · cases h
      | quotes delimiter => simp [nest, hRole] at h
      | slash => simp [nest, hRole] at h

/-- Text that is written down character by character. -/
theorem nest_fixed {opened left : List Bracket} {text : List Char}
    (h : nest opened text = some left) : nest opened (String.ofList text).toList = some left := by
  rw [String.toList_ofList]
  exact h

theorem nest_append {opened middle : List Bracket} {front : List Char}
    (h : nest opened front = some middle) (back : List Char) :
    nest opened (front ++ back) = nest middle back := by
  induction front generalizing opened with
  | nil =>
      cases h
      rfl
  | cons c front ih =>
      rw [List.cons_append]
      cases hRole : role c with
      | plain =>
          simp only [nest, hRole] at h ⊢
          exact ih h
      | opens bracket =>
          simp only [nest, hRole] at h ⊢
          exact ih h
      | closes bracket =>
          cases opened with
          | nil => simp [nest, hRole] at h
          | cons found outer =>
              simp only [nest, hRole] at h ⊢
              split at h
              · next hSame =>
                  rw [if_pos hSame]
                  exact ih h
              · cases h
      | quotes delimiter => simp [nest, hRole] at h
      | slash => simp [nest, hRole] at h

/-- Plain text leaves the brackets alone. -/
theorem nest_plain {text : List Char} (h : IsPlain text) (opened : List Bracket) :
    nest opened text = some opened := by
  induction text with
  | nil => rfl
  | cons c text ih =>
      rw [nest, h c (List.mem_cons_self ..)]
      exact ih fun d hd => h d (List.mem_cons_of_mem _ hd)

/-! ## Readers of single things -/

/-- What follows a text of the code in front. -/
def skip : List Char → List Piece → Option (List Piece)
  | [], pieces => some pieces
  | c :: text, .code d :: pieces => if c = d then skip text pieces else none
  | _ :: _, _ => none

@[simp] theorem skip_code (text : List Char) (pieces : List Piece) :
    skip text (text.map .code ++ pieces) = some pieces := by
  induction text with
  | nil => rfl
  | cons c text ih => simpa [skip] using ih

/-- The name in front and what follows it. -/
def takeName : List Piece → List Char × List Piece
  | .code c :: pieces =>
      if isIdentifierPart c then (c :: (takeName pieces).1, (takeName pieces).2)
      else ([], .code c :: pieces)
  | pieces => ([], pieces)

def EndsName : List Char → Prop
  | [] => False
  | c :: _ => isIdentifierPart c = false

instance : (text : List Char) → Decidable (EndsName text)
  | [] => inferInstanceAs (Decidable False)
  | c :: _ => inferInstanceAs (Decidable (isIdentifierPart c = false))

/-- A name is read to its end. -/
theorem takeName_code {name text : List Char} (hName : ∀ c ∈ name, isIdentifierPart c)
    (hText : EndsName text) (pieces : List Piece) :
    takeName (name.map .code ++ (text.map .code ++ pieces)) =
      (name, text.map .code ++ pieces) := by
  induction name with
  | nil =>
      cases text with
      | nil => exact hText.elim
      | cons c text => simp [takeName, show isIdentifierPart c = false from hText]
  | cons c name ih =>
      have hRest := ih fun d hd => hName d (List.mem_cons_of_mem _ hd)
      rw [List.map_cons, List.cons_append, takeName, if_pos (hName c (List.mem_cons_self ..)),
        hRest]

/-- The content of a string up to its closing mark, and what follows it. -/
def takeContent : List Piece → Option (List Char × List Piece)
  | .content c :: pieces => (takeContent pieces).map fun read => (c :: read.1, read.2)
  | .closes .double :: pieces => some ([], pieces)
  | _ => none

/-- What a string in front stands for, and what follows it. -/
def takeString : List Piece → Option (List Char × List Piece)
  | .opens .double :: pieces => takeContent pieces
  | _ => none

/-- A quoted text is read as itself. -/
theorem takeString_quoted (text : String) (pieces : List Piece) :
    takeString (quotedPieces text ++ pieces) = some (text.toList, pieces) := by
  have hContent : ∀ content : List Char,
      takeContent (content.map .content ++ .closes .double :: pieces) = some (content, pieces) := by
    intro content
    induction content with
    | nil => rfl
    | cons c content ih => simp [takeContent, ih]
  simp [takeString, quotedPieces, hContent]

/-! ## Template literals -/

/--
What a template literal evaluates to, from behind its opening mark on or, with
`code`, from inside a substitution on whose code that much is read already.
-/
def templateValue (valueOf : List Char → Option (List Char)) :
    (code : Option (List Char)) → List Piece → Option (List Char)
  | none, .content c :: pieces => (templateValue valueOf none pieces).map (c :: ·)
  | none, .substitutes :: pieces => templateValue valueOf (some []) pieces
  | none, .closes .template :: _ => some []
  | some code, .code c :: pieces => templateValue valueOf (some (code ++ [c])) pieces
  | some code, .resumes :: pieces =>
      (valueOf code).bind fun value => (templateValue valueOf none pieces).map (value ++ ·)
  | _, _ => none

section Evaluation

variable {valueOf : List Char → Option (List Char)}

@[simp] theorem templateValue_closes (pieces : List Piece) :
    templateValue valueOf none (.closes .template :: pieces) = some [] := rfl

/-- Content stands for itself. -/
theorem templateValue_content (content : List Char) (pieces : List Piece) :
    templateValue valueOf none (content.map .content ++ pieces) =
      (templateValue valueOf none pieces).map (content ++ ·) := by
  induction content with
  | nil => simp
  | cons c content ih =>
      rw [List.map_cons, List.cons_append, templateValue, ih, Option.map_map]
      rfl

private theorem templateValue_code (code text : List Char) (pieces : List Piece) :
    templateValue valueOf (some code) (text.map .code ++ pieces) =
      templateValue valueOf (some (code ++ text)) pieces := by
  induction text generalizing code with
  | nil => simp
  | cons c text ih =>
      rw [List.map_cons, List.cons_append, templateValue, ih, List.append_assoc]
      rfl

/-- A substitution stands for the value of its code. -/
theorem templateValue_substitution {code value : List Char} (h : valueOf code = some value)
    (pieces : List Piece) :
    templateValue valueOf none (.substitutes :: (code.map .code ++ .resumes :: pieces)) =
      (templateValue valueOf none pieces).map (value ++ ·) := by
  rw [templateValue, templateValue_code, List.nil_append, templateValue, h]
  rfl

def segmentValue (idValue : String → List Char) : CodeSegment → List Char
  | .literal text => normalize text.toList
  | .argument id => idValue id

/-- A template literal evaluates segment by segment. -/
theorem templateValue_segments {segments : List CodeSegment} {idValue : String → List Char}
    (h : ∀ id, .argument id ∈ segments → valueOf id.toList = some (idValue id))
    (pieces : List Piece) :
    templateValue valueOf none (segments.flatMap segmentPieces ++ pieces) =
      (templateValue valueOf none pieces).map (segments.flatMap (segmentValue idValue) ++ ·) := by
  induction segments with
  | nil => simp
  | cons segment segments ih =>
      have hRest := ih fun id hMem => h id (List.mem_cons_of_mem _ hMem)
      rw [List.flatMap_cons, List.flatMap_cons, List.append_assoc]
      cases segment with
      | literal text =>
          rw [segmentPieces, templateValue_content, hRest, Option.map_map]
          congr 1
          funext rest
          exact (List.append_assoc ..).symm
      | argument id =>
          rw [segmentPieces, List.cons_append, List.append_assoc, List.singleton_append,
            templateValue_substitution (h id (List.mem_cons_self ..)), hRest, Option.map_map]
          congr 1
          funext rest
          exact (List.append_assoc ..).symm

end Evaluation

end BlockExtension.Script.Lexer
