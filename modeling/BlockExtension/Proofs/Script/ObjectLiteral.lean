import BlockExtension.Proofs.Script.Reading
import BlockExtension.Proofs.Script.Scope

/-!
# The own properties of an object literal

An object literal defines a property for each of its entries, with one exception:
an entry `__proto__: value` sets the prototype of the object and defines nothing.
To say which properties an object has, its entries have to be read off the script.
`readProperties` does that over the pieces of `Lexer`, and skips the value of an
entry up to the comma or the brace that ends it. An entry of another form, such as a
method, a computed name or a spread, leaves it `lost`, so it never overlooks an
entry in silence.

## Main results

* `Nested.readProperties_eq`, `Alike.passed`: what stands inside brackets of a value
  is passed over.
* `Spells.append`, `spells_entry`: the entries of texts that are put together.
* `ownNames_keyed`: entries with different names define all of these but `__proto__`.
-/

namespace BlockExtension.Script.Lexer

/-! ## Entries -/

/--
An entry of an object literal. Only these two forms occur in what is emitted; any other form
makes the reader lose its way.
-/
inductive Property where
  /-- A name that stands for itself, as in `\x7b name \x7d`. -/
  | shorthand (name : String)
  /-- A name with a value, as in `\x7b name: value \x7d`. -/
  | keyed (name : String)
  deriving DecidableEq, Repr

/-- The name under which a value becomes the prototype of the object. -/
def prototypeName : String := "__proto__"

/-- The own property that an entry defines, if it defines one. -/
def Property.defines : Property → Option String
  | .shorthand name => some name
  | .keyed name => if name = prototypeName then none else some name

/--
The names of the own properties of an object, in the order in which they are first
defined. A property that is defined again keeps its place.
-/
def ownNames (properties : List Property) : List String :=
  (properties.filterMap Property.defines).eraseDups

/-- Leaving out the name of the prototype leaves names alone exactly if it is not among them. -/
theorem filter_prototypeName_eq_self_iff {names : List String} :
    names.filter (· ≠ prototypeName) = names ↔ prototypeName ∉ names := by
  rw [List.filter_eq_self]
  constructor
  · intro h hPrototype
    simpa using h _ hPrototype
  · intro h name hName
    have hOther : name ≠ prototypeName := fun hSame => h (hSame ▸ hName)
    simpa using hOther

/-! ## Reading -/

/-- Where a reader stands in an object literal. -/
inductive Spot where
  /-- Where an entry or the closing brace stands. -/
  | key
  | name (word : List Char)
  /-- Inside a value and so many brackets and marks of it. -/
  | value (depth : Nat)
  | finished
  | lost
  deriving DecidableEq, Repr

namespace Spot

/-- Where an entry or the closing brace stands. -/
def keyStep : Sign → Spot
  | .letter c => if isIdentifierStart c then .name [c] else .lost
  | .blank => .key
  | .closes (some .curly) => .finished
  | _ => .lost

/-- A letter that may begin a name does begin one. -/
theorem keyStep_letter {c : Char} (h : isIdentifierStart c) : keyStep (.letter c) = .name [c] :=
  if_pos h

/-- Behind a name: the end of the name completes its entry, and a colon begins its value. -/
def nameStep (word : List Char) (piece : Piece) : Spot × List Property :=
  if piece = .code ':' then (.value 0, [.keyed (String.ofList word)])
  else
    match sign piece with
    | .letter c => (.name (word ++ [c]), [])
    | .comma => (.key, [.shorthand (String.ofList word)])
    | .closes (some .curly) => (.finished, [.shorthand (String.ofList word)])
    | _ => (.lost, [])

/-- Inside a value. -/
def valueStep : Nat → Sign → Spot
  | depth, .opens _ => .value (depth + 1)
  | depth + 1, .closes _ => .value depth
  | 0, .closes (some .curly) => .finished
  | 0, .closes _ => .lost
  | 0, .comma => .key
  | depth, _ => .value depth

/-- Behind the literal, where only its statement may end. -/
def finishedStep : Sign → Spot
  | .blank => .finished
  | .semicolon => .finished
  | _ => .lost

/-- What one piece does, and the entries that it completes. -/
def step (spot : Spot) (piece : Piece) : Spot × List Property :=
  match spot with
  | .key => (keyStep (sign piece), [])
  | .name word => nameStep word piece
  | .value depth => (valueStep depth (sign piece), [])
  | .finished => (finishedStep (sign piece), [])
  | .lost => (.lost, [])

end Spot

/-- What pieces do, and the entries that they complete, in order. -/
def readProperties (spot : Spot) : List Piece → Spot × List Property
  | [] => (spot, [])
  | piece :: pieces =>
      let first := spot.step piece
      let rest := readProperties first.1 pieces
      (rest.1, first.2 ++ rest.2)

/--
The entries of the object literal that a complete text has behind `front`. Blanks before
that are skipped.
-/
def propertiesBehind (front text : String) : Option (List Property) := do
  let lexed := run start text.toList
  let pieces ← skip front.toList (lexed.2.dropWhile fun piece => sign piece = .blank)
  let reading := readProperties .key pieces
  if lexed.1 = start ∧ reading.1 = .finished then some reading.2 else none

/-! ## Parts of a literal -/

@[simp] theorem readProperties_nil (spot : Spot) : readProperties spot [] = (spot, []) := rfl

theorem readProperties_cons (spot : Spot) (piece : Piece) (pieces : List Piece) :
    readProperties spot (piece :: pieces) =
      ((readProperties (spot.step piece).1 pieces).1,
        (spot.step piece).2 ++ (readProperties (spot.step piece).1 pieces).2) := rfl

/-- Pieces are read part by part. -/
theorem readProperties_append (spot : Spot) (front back : List Piece) :
    readProperties spot (front ++ back) =
      ((readProperties (readProperties spot front).1 back).1,
        (readProperties spot front).2 ++
          (readProperties (readProperties spot front).1 back).2) := by
  induction front generalizing spot with
  | nil => rfl
  | cons piece front ih =>
      rw [List.cons_append, readProperties_cons, readProperties_cons, ih, List.append_assoc]

/-- A value goes on behind a piece that opens something. -/
theorem readProperties_opens {piece : Piece} {bracket : Option Bracket}
    (h : sign piece = .opens bracket) (depth : Nat) (pieces : List Piece) :
    readProperties (.value depth) (piece :: pieces) =
      readProperties (.value (depth + 1)) pieces := by
  rw [readProperties_cons, Spot.step, h]
  cases depth <;> rfl

/-- Inside brackets of a value, a piece that closes something leads out of them. -/
theorem readProperties_closes {piece : Piece} {bracket : Option Bracket}
    (h : sign piece = .closes bracket) (depth : Nat) (pieces : List Piece) :
    readProperties (.value (depth + 1)) (piece :: pieces) =
      readProperties (.value depth) pieces := by
  rw [readProperties_cons, Spot.step, h]
  rfl

/-- Inside brackets of a value, commas are no ends of entries. -/
theorem readProperties_flat {piece : Piece} (h : (sign piece).isFlat) (depth : Nat)
    (pieces : List Piece) :
    readProperties (.value (depth + 1)) (piece :: pieces) =
      readProperties (.value (depth + 1)) pieces := by
  rw [readProperties_cons, Spot.step]
  revert h
  cases sign piece with
  | opens bracket => exact nofun
  | closes bracket => exact nofun
  | _ => exact fun _ => rfl

/-- What stands inside brackets of a value is passed over. -/
theorem Nested.readProperties_eq {n m : Nat} {pieces : List Piece} (h : Nested n m pieces)
    (depth : Nat) :
    readProperties (.value (depth + 1 + n)) pieces = (.value (depth + 1 + m), []) := by
  induction h with
  | nil => rfl
  | consFlat first _ ih =>
      rw [Nat.add_right_comm] at ih ⊢
      rw [readProperties_flat first, ih]
  | consOpens first _ ih => rw [readProperties_opens first, Nat.add_assoc, ih]
  | consCloses first _ ih => rw [← Nat.add_assoc, readProperties_closes first, ih]

/-! ## Texts -/

/--
A text that leads the lexer from code to code and through no bracket, wherever it
stands, and a reader from `first` to `last`, with the entries that it completes.
-/
def Spells (first last : Spot) (text : String) (properties : List Property) : Prop :=
  ∀ opened, ∃ pieces, run ⟨.code, opened⟩ text.toList = (⟨.code, opened⟩, pieces) ∧
    readProperties first pieces = (last, properties)

/-- Text that is white space of the script. -/
def Blank (text : String) : Prop :=
  ∀ c ∈ text.toList, role c = .plain ∧ sign (.code c) = .blank

section Spells

variable {first between last : Spot} {text front back : String} {properties more : List Property}

theorem Spells.append (hFront : Spells first between front properties)
    (hBack : Spells between last back more) :
    Spells first last (front ++ back) (properties ++ more) := by
  intro opened
  obtain ⟨p, hP, hProperties⟩ := hFront opened
  obtain ⟨q, hQ, hMore⟩ := hBack opened
  refine ⟨p ++ q, ?_, ?_⟩
  · rw [String.toList_append, run_append, hP, hQ]
    rfl
  · rw [readProperties_append, hProperties, hMore]

theorem spells_nil {spot : Spot} : Spells spot spot "" [] := fun _ => ⟨[], rfl, rfl⟩

/-- Text that is written down character by character. -/
theorem spells_fixed {text : List Char} (h : (run start text).1 = start)
    (hRead : readProperties first (run start text).2 = (last, properties)) :
    Spells first last (String.ofList text) properties := by
  intro opened
  have hRun : run ⟨.code, []⟩ (String.ofList text).toList =
      (⟨.code, []⟩, (run start text).2) := by
    rw [String.toList_ofList]
    exact Prod.ext h rfl
  exact ⟨_, run_inside opened hRun, hRead⟩

/-- Texts one behind the other that are one entry each. -/
theorem spells_entries {α : Type} {items : List α} {write : α → String} {spelled : α → Property}
    (h : ∀ item ∈ items, Spells .key .key (write item) [spelled item]) :
    Spells .key .key (String.join (items.map write)) (items.map spelled) := by
  induction items with
  | nil => exact spells_nil
  | cons item items ih =>
      rw [List.map_cons, String.join_cons]
      exact (h item (List.mem_cons_self ..)).append
        (ih fun other hMem => h other (List.mem_cons_of_mem _ hMem))

/-- A quoted string inside a value is passed over. -/
theorem spells_quote (depth : Nat) (content : String) :
    Spells (.value depth) (.value depth) (quote content) [] := by
  intro opened
  have hContent : ∀ piece ∈ content.toList.map Piece.content, (sign piece).isFlat := by
    intro piece hMem
    obtain ⟨c, _, rfl⟩ := List.mem_map.1 hMem
    rfl
  have hFlat := (Nested.all (n := 0) hContent).readProperties_eq depth
  have hCloses : sign (.closes .double) = .closes none := rfl
  refine ⟨_, run_quote content opened, ?_⟩
  rw [quotedPieces, readProperties_opens rfl, readProperties_append, hFlat, Nat.add_zero,
    readProperties_closes hCloses]
  rfl

/-- Inside brackets of a value, a text that is complete in itself is passed over. -/
theorem Alike.passed (h : Alike [] [] text text) (depth : Nat) :
    Spells (.value (depth + 1)) (.value (depth + 1)) text [] := by
  intro opened
  obtain ⟨pieces, _, hRun, _, _⟩ := h
  have hUnbroken : (run start text.toList).1.mode ≠ .broken := by
    rw [start, hRun]
    simp
  have hNested := nested_run hUnbroken
  rw [start, hRun] at hNested
  exact ⟨pieces, run_inside opened hRun, hNested.readProperties_eq depth⟩

/-- A text in brackets is read as what stands in them, between the two brackets. -/
theorem run_enclosed {opening closing : Char} {bracket : Bracket} {opened : List Bracket}
    {pieces : List Piece} (hOpening : role opening = .opens bracket)
    (hClosing : role closing = .closes bracket)
    (hInner : run ⟨.code, bracket :: opened⟩ text.toList = (⟨.code, bracket :: opened⟩, pieces)) :
    run ⟨.code, opened⟩ (String.ofList [opening] ++ text ++ String.ofList [closing]).toList =
      (⟨.code, opened⟩, .code opening :: (pieces ++ [.code closing])) := by
  have hOpens : run ⟨.code, opened⟩ [opening] =
      (⟨.code, bracket :: opened⟩, [.code opening]) := by
    simp [run_cons, step, codeStep, hOpening, after]
  have hCloses : run ⟨.code, bracket :: opened⟩ [closing] =
      (⟨.code, opened⟩, [.code closing]) := by
    simp [run_cons, step, codeStep, hClosing, close, after]
  rw [String.toList_append, String.toList_append, String.toList_ofList, String.toList_ofList,
    List.append_assoc, run_append, hOpens, run_append, hInner, hCloses]
  rfl

/-- Brackets in a value are passed over when what stands in them is. -/
theorem Spells.enclosed {opening closing : Char} {bracket : Bracket} {depth : Nat}
    (hInner : Spells (.value (depth + 1)) (.value (depth + 1)) text [])
    (hOpening : role opening = .opens bracket) (hClosing : role closing = .closes bracket) :
    Spells (.value depth) (.value depth)
      (String.ofList [opening] ++ text ++ String.ofList [closing]) [] := by
  intro opened
  obtain ⟨pieces, hRun, hRead⟩ := hInner (bracket :: opened)
  refine ⟨_, run_enclosed hOpening hClosing hRun, ?_⟩
  rw [readProperties_opens (sign_of_role_opens hOpening), readProperties_append, hRead,
    readProperties_closes (sign_of_role_closes hClosing)]
  rfl

/-! ### White space -/

theorem Blank.append (hFront : Blank front) (hBack : Blank back) : Blank (front ++ back) := by
  intro c hMem
  rw [String.toList_append] at hMem
  exact (List.mem_append.1 hMem).elim (hFront c) (hBack c)

theorem blank_fixed {text : List Char}
    (h : text.all fun c => role c = .plain ∧ sign (.code c) = .blank) :
    Blank (String.ofList text) := by
  rw [Blank, String.toList_ofList]
  exact fun c hMem => of_decide_eq_true (List.all_eq_true.1 h c hMem)

theorem blank_spaces (n : Nat) : Blank (spaces n) := by
  induction n with
  | zero => exact blank_fixed (by decide)
  | succ n ih =>
      rw [spaces_succ]
      exact ih.append (blank_fixed (by decide))

/-- White space is code, character by character. -/
theorem Blank.run_eq (h : Blank text) (opened : List Bracket) :
    run ⟨.code, opened⟩ text.toList = (⟨.code, opened⟩, text.toList.map .code) :=
  run_plain (fun c hMem => (h c hMem).1) opened

/-- White space may stand before an entry. -/
theorem Blank.spells (h : Blank text) : Spells .key .key text [] := by
  refine fun opened => ⟨_, h.run_eq opened, ?_⟩
  have hSign : ∀ c ∈ text.toList, sign (.code c) = .blank := fun c hMem => (h c hMem).2
  generalize text.toList = chars at hSign
  induction chars with
  | nil => rfl
  | cons c chars ih =>
      rw [List.map_cons, readProperties_cons, Spot.step, hSign c (List.mem_cons_self ..)]
      exact ih fun d hd => hSign d (List.mem_cons_of_mem _ hd)

/-- White space in front of other code is dropped. -/
theorem Blank.dropWhile_eq (h : Blank text) {c : Char} (hSign : sign (.code c) ≠ .blank)
    (pieces : List Piece) :
    (text.toList.map Piece.code ++ .code c :: pieces).dropWhile (fun piece => sign piece = .blank) =
      .code c :: pieces := by
  rw [List.dropWhile_append_of_pos, List.dropWhile_cons_of_neg (by simpa using hSign)]
  intro piece hMem
  obtain ⟨d, hd, rfl⟩ := List.mem_map.1 hMem
  simpa using (h d hd).2

/-! ### Entries -/

/-- A name is taken up letter by letter. -/
private theorem readProperties_letters {letters : List Char}
    (h : ∀ c ∈ letters, isIdentifierPart c) (word : List Char) :
    readProperties (.name word) (letters.map .code) = (.name (word ++ letters), []) := by
  induction letters generalizing word with
  | nil => simp
  | cons c letters ih =>
      have hPart := h c (List.mem_cons_self ..)
      have hColon : Piece.code c ≠ .code ':' := by
        intro hSame
        cases hSame
        exact absurd hPart (by decide)
      have hStep : Spot.nameStep word (.code c) = (.name (word ++ [c]), []) := by
        rw [Spot.nameStep, if_neg hColon, sign, if_pos hPart]
      rw [List.map_cons, readProperties_cons, Spot.step, hStep,
        ih fun d hd => h d (List.mem_cons_of_mem c hd), List.append_assoc]
      rfl

/-- A name begins an entry. -/
theorem spells_name {name : String} (h : isIdentifier name) :
    Spells .key (.name name.toList) name [] := by
  refine fun opened => ⟨_, run_plain (isPlain_of_isIdentifier h) opened, ?_⟩
  rw [isIdentifier] at h
  cases hText : name.toList with
  | nil => simp [hText, isIdentifierText] at h
  | cons c letters =>
      rw [hText] at h
      have hParts := isIdentifierPart_of_mem h
      simp only [isIdentifierText, Bool.and_eq_true] at h
      have hStep : Spot.keyStep (sign (.code c)) = .name [c] := by
        rw [sign, if_pos (hParts c (List.mem_cons_self ..)), Spot.keyStep_letter h.1]
      have hRest : ∀ d ∈ letters, isIdentifierPart d := fun d hd =>
        hParts d (List.mem_cons_of_mem c hd)
      rw [List.map_cons, readProperties_cons, Spot.step, hStep, readProperties_letters hRest]
      rfl

/-- A name with a value on a line of its own is one entry. -/
theorem spells_entry {lead name value : String} (hLead : Blank lead) (hName : isIdentifier name)
    (hValue : Spells (.value 0) (.value 0) value []) :
    Spells .key .key (lead ++ (name ++ ": " ++ value) ++ ",\n") [.keyed name] := by
  have hColon : Spells (.name name.toList) (.value 0) ": " [.keyed name] := by
    refine spells_fixed (by decide) ?_
    rw [← String.ofList_toList (s := name)]
    simp only [String.toList_ofList]
    rfl
  have hComma : Spells (.value 0) .key ",\n" [] := spells_fixed (by decide) (by decide)
  exact (hLead.spells.append (((spells_name hName).append hColon).append hValue)).append hComma

end Spells

/-! ## Whole literals -/

/-- The entries of a literal between fixed texts are those of what stands between. -/
theorem propertiesBehind_eq {lead inner : String} {c : Char} {front back : List Char}
    {properties : List Property} (hLead : Blank lead) (hHead : sign (.code c) ≠ .blank)
    (hFront : nest [] (c :: front) = some [.curly]) (hInner : Spells .key .key inner properties)
    (hEnd : (run ⟨.code, [.curly]⟩ back).1 = start)
    (hBack : readProperties .key (run ⟨.code, [.curly]⟩ back).2 = (.finished, [])) :
    propertiesBehind (String.ofList (c :: front))
        (lead ++ String.ofList (c :: front) ++ inner ++ String.ofList back) =
      some properties := by
  obtain ⟨pieces, hRun, hRead⟩ := hInner [.curly]
  have hWhole : run start (lead ++ String.ofList (c :: front) ++ inner ++
      String.ofList back).toList =
      (start, lead.toList.map .code ++ .code c :: (front.map .code ++
        (pieces ++ (run ⟨.code, [.curly]⟩ back).2))) := by
    simp only [String.toList_append, String.toList_ofList, List.append_assoc]
    rw [start, run_append, hLead.run_eq, run_append, run_nest hFront, run_append, hRun]
    simp only [after, hEnd, start, List.map_cons, List.cons_append]
  have hSkip := skip_code (c :: front) (pieces ++ (run ⟨.code, [.curly]⟩ back).2)
  rw [List.map_cons, List.cons_append] at hSkip
  rw [propertiesBehind, hWhole]
  simp only [hLead.dropWhile_eq hHead, String.toList_ofList, hSkip, Option.bind_eq_bind,
    Option.bind_some, readProperties_append, hRead, hBack, List.append_nil, and_self, if_true]

/-! ## What is defined -/

theorem eraseDups_of_nodup {names : List String} (h : names.Nodup) : names.eraseDups = names := by
  induction names with
  | nil => rfl
  | cons name names ih =>
      rw [List.nodup_cons] at h
      have hOthers : names.filter (fun other => !other == name) = names := by
        refine List.filter_eq_self.2 fun other hMem => ?_
        have hOther : other ≠ name := fun hSame => h.1 (hSame ▸ hMem)
        simpa using hOther
      rw [List.eraseDups_cons, hOthers, ih h.2]

/-- Entries with different names define all of these but the name of the prototype. -/
theorem ownNames_keyed {shorthands names : List String} (h : (shorthands ++ names).Nodup) :
    ownNames (shorthands.map .shorthand ++ names.map .keyed) =
      shorthands ++ names.filter (· ≠ prototypeName) := by
  have hShorthands : (shorthands.map Property.shorthand).filterMap Property.defines =
      shorthands := by
    rw [List.filterMap_map]
    exact List.filterMap_some
  have hKeyed : (names.map Property.keyed).filterMap Property.defines =
      names.filter (· ≠ prototypeName) := by
    rw [List.filterMap_map, ← List.filterMap_eq_filter]
    congr 1
    funext name
    by_cases hName : name = prototypeName <;> simp [Property.defines, Option.guard, hName]
  have hNodup : (shorthands ++ names.filter (· ≠ prototypeName)).Nodup :=
    h.sublist ((List.Sublist.refl _).append List.filter_sublist)
  rw [ownNames, List.filterMap_append, hShorthands, hKeyed, eraseDups_of_nodup hNodup]

end BlockExtension.Script.Lexer
