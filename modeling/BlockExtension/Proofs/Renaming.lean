import Mathlib
import BlockExtension.Proofs.Entries
import BlockExtension.Proofs.FirstFault

/-!
# Drawn names against counted ones

The two policies for identifiers are interchangeable. Resolving never looks into an
identifier: it puts the identifiers it is given into the bindings, the code and the
report, and whether anything is wrong with a palette is decided by names alone. So
resolving commutes with renaming, and a palette that is resolved with drawn names is
the one resolved with counted names, renamed. The renaming is injective, since no name
is drawn twice and no two arguments of a palette are counted alike.

The supply of draws is a list here. A run that does not exhaust it would do the same
with more of them (`Resolution.resolveFrom_append`), so a supply without end is covered by any
beginning of it that is long enough.

## Main results

* `Resolution.resolveWith_map`: resolving an entry commutes with renaming its identifiers.
* `Naming.drawn_of_takeEach`: no name is drawn twice in a palette.
* `Resolution.nodup_ordinalIds`: no two arguments of a palette are counted alike.
* `Resolution.resolveFrom_blank`: whether a palette resolves has nothing to do with names.
* `resolve_random_renames`: drawn names do what counted names do, up to a renaming.
-/

namespace BlockExtension

/-! ## Renaming -/

def CodeSegment.rename (r : String → String) : CodeSegment → CodeSegment
  | .literal text => .literal text
  | .argument id => .argument (r id)

def CodeTemplate.rename (r : String → String) (template : CodeTemplate) : CodeTemplate :=
  ⟨template.segments.map (CodeSegment.rename r)⟩

def Report.rename (r : String → String) : Report → Report
  | .argument id => .argument (r id)
  | .expression => .expression

def Argument.rename (r : String → String) (argument : Argument) : Argument :=
  { argument with id := r argument.id }

/-- An operation with every identifier in it renamed; everything else stays. -/
def Operation.rename (r : String → String) (operation : Operation) : Operation :=
  { operation with
    code := operation.code.map (CodeTemplate.rename r)
    report := operation.report.rename r
    arguments := operation.arguments.map (Argument.rename r) }

def Block.rename (r : String → String) : Block → Block
  | .separator => .separator
  | .label text => .label text
  | .operation found => .operation (found.rename r)

/-- The identifiers of the arguments of a block. -/
def Block.ids : Block → List String
  | .operation found => found.arguments.map (·.id)
  | _ => []

namespace Resolution

/-- A resolution with every identifier in it renamed; the warnings stay. -/
def rename (r : String → String) (resolution : Resolution) : Resolution :=
  { resolution with blocks := resolution.blocks.map (Block.rename r) }

/-- The identifiers of a resolved palette, in the order in which they were given out. -/
def ids (resolution : Resolution) : List String := resolution.blocks.flatMap Block.ids

/-! ## Resolving commutes with renaming -/

section Rename

variable (r : String → String)

theorem nameArguments_map (declared : List ArgumentDeclaration) (ids : List String) :
    nameArguments declared (ids.map r) = (nameArguments declared ids).map (Argument.rename r) := by
  simp only [nameArguments, List.zipWith_map_right, List.map_zipWith, Argument.rename]

theorem idOf?_map (arguments : List Argument) (name : String) :
    idOf? (arguments.map (Argument.rename r)) name = (idOf? arguments name).map r := by
  simp only [idOf?, List.find?_map, Option.map_map, Function.comp_def]
  rfl

theorem checkPlaceholders_map (opcode : String) (field : PlaceholderField)
    (arguments : List Argument) (segments : List Segment) :
    checkPlaceholders opcode field (arguments.map (Argument.rename r)) segments =
      checkPlaceholders opcode field arguments segments := by
  simp only [checkPlaceholders, unresolved?, idOf?_map, Option.isNone_map]

theorem notShown_map (opcode : String) (arguments : List Argument) (segments : List Segment) :
    notShown opcode (arguments.map (Argument.rename r)) segments =
      notShown opcode arguments segments := by
  simp only [notShown, List.filter_map, List.map_map, Function.comp_def, Argument.rename]

/-- A placeholder that is bound is bound to the renamed identifier. -/
theorem bindSegment_map {arguments : List Argument} {segment : Segment}
    (h : ∀ name column, segment = .placeholder name column →
      ∃ id, idOf? arguments name = some id) :
    bindSegment (arguments.map (Argument.rename r)) segment =
      (bindSegment arguments segment).rename r := by
  cases segment with
  | text value => rfl
  | placeholder name column =>
      obtain ⟨id, hId⟩ := h name column rfl
      simp only [bindSegment, idOf?_map, hId, Option.map_some, Option.getD_some,
        CodeSegment.rename]

theorem resolveCode_map (opcode : String) (arguments : List Argument) (code : String) :
    resolveCode opcode (arguments.map (Argument.rename r)) code =
      (resolveCode opcode arguments code).map (CodeTemplate.rename r) := by
  simp only [resolveCode, checkPlaceholders_map]
  cases hCheck : checkPlaceholders opcode .code arguments (Placeholder.scan code) with
  | error fault => rfl
  | ok done =>
      have hBound : (Placeholder.scan code).map (bindSegment (arguments.map (Argument.rename r))) =
          ((Placeholder.scan code).map (bindSegment arguments)).map (CodeSegment.rename r) := by
        rw [List.map_map]
        refine List.map_congr_left fun segment hMem => bindSegment_map r ?_
        rintro name column rfl
        exact exists_id_of_checkPlaceholders hCheck hMem
      simp only [Except.map, CodeTemplate.rename, hBound]

theorem boundCode_map (declared : OperationDeclaration) (arguments : List Argument) :
    boundCode declared (arguments.map (Argument.rename r)) =
      (boundCode declared arguments).map (Option.map (CodeTemplate.rename r)) := by
  unfold boundCode
  cases declared.code with
  | none => rfl
  | some code =>
      simp only [resolveCode_map]
      cases resolveCode declared.opcode arguments code <;> rfl

theorem reportOf_map (opcode : String) (arguments : List Argument) (reports : Option String) :
    reportOf opcode (arguments.map (Argument.rename r)) reports =
      (reportOf opcode arguments reports).map (Report.rename r) := by
  unfold reportOf
  cases reports with
  | none => cases arguments <;> rfl
  | some name =>
      simp only [idOf?_map]
      cases idOf? arguments name <;> rfl

/-- Resolving an operation commutes with renaming its identifiers. -/
theorem resolveOperation_map (declared : OperationDeclaration) (ids : List String) :
    resolveOperation declared (ids.map r) =
      (resolveOperation declared ids).map fun (operation, warnings) =>
        (operation.rename r, warnings) := by
  simp only [resolveOperation_eq, nameArguments_map, checkPlaceholders_map, boundCode_map,
    reportOf_map, notShown_map]
  generalize nameArguments declared.arguments ids = arguments
  cases checkPlaceholders declared.opcode .text arguments (Placeholder.scan declared.text) with
  | error fault => rfl
  | ok done =>
      cases boundCode declared arguments with
      | error fault => rfl
      | ok code => cases reportOf declared.opcode arguments declared.reports <;> rfl

/-- Resolving an entry commutes with renaming its identifiers. -/
theorem resolveWith_map (declaration : Declaration) (ids : List String) :
    declaration.resolveWith (ids.map r) =
      (declaration.resolveWith ids).map fun (block, warnings) => (block.rename r, warnings) := by
  cases declaration with
  | separator => rfl
  | label text => rfl
  | operation declared =>
      simp only [Declaration.resolveWith, resolveOperation_map]
      cases checkArguments declared with
      | error fault => rfl
      | ok done => cases resolveOperation declared ids <;> rfl

end Rename

end Resolution

/-! ## The identifiers of a palette -/

namespace Naming

/-- Over a whole palette no name is drawn twice. -/
theorem drawn_of_takeEach {used : List String} {supply : List RandomName}
    {declarations : List Declaration} {each : List (List String)}
    (h : (Naming.random used supply).takeEach declarations = some each) :
    Drawn used each.flatten := by
  induction declarations generalizing used supply each with
  | nil =>
      cases h
      exact .nil used
  | cons declaration rest ih =>
      cases declaration with
      | operation declared =>
          simp only [takeEach] at h
          split at h
          · cases h
          · next ids naming' hTake =>
              obtain ⟨eachRest, hRest, rfl⟩ := Option.map_eq_some_iff.1 h
              obtain ⟨hIds, supply', rfl⟩ := drawn_of_take hTake
              exact hIds.append (ih hRest)
      | separator | label text =>
          obtain ⟨eachRest, hRest, rfl⟩ := Option.map_eq_some_iff.1 h
          rw [List.flatten_cons, List.nil_append]
          exact ih hRest

/-- What is drawn from a supply is drawn from a longer one as well. -/
theorem take_append {used : List String} {supply : List RandomName} {after : Naming}
    {opcode : String} {ordinal count : Nat} {ids : List String}
    (h : (Naming.random used supply).take opcode ordinal count = some (ids, after))
    (more : List RandomName) : ∃ rest, after = .random (ids.reverse ++ used) rest ∧
      (Naming.random used (supply ++ more)).take opcode ordinal count =
        some (ids, .random (ids.reverse ++ used) (rest ++ more)) := by
  induction count generalizing used supply ordinal ids with
  | zero =>
      cases h
      exact ⟨supply, rfl, rfl⟩
  | succ count ih =>
      obtain ⟨id, naming', tail, hNext, hRest, rfl⟩ := take_succ h
      simp only [next, Option.map_eq_some_iff] at hNext
      obtain ⟨⟨drawn, supply'⟩, hDrawn, hPair⟩ := hNext
      cases hPair
      obtain ⟨rest, rfl, hMore⟩ := ih hRest
      refine ⟨rest, by simp, ?_⟩
      simp only [take, next, RandomName.takeUnused_append hDrawn more, Option.map_some, hMore]
      simp

end Naming

/-- A counted name of an entry is made from its opcode. -/
theorem Declaration.mem_ordinalIds {declaration : Declaration} {id : String}
    (h : id ∈ declaration.ordinalIds) : ∃ declared ordinal,
      declaration = .operation declared ∧ id = Naming.ordinalId declared.opcode ordinal := by
  cases declaration with
  | separator => cases h
  | label text => cases h
  | operation declared =>
      obtain ⟨ordinal, _, rfl⟩ := List.mem_map.1 h
      exact ⟨declared, ordinal, rfl, rfl⟩

namespace Resolution

/-- Without a repeated opcode no two arguments of a palette are counted alike. -/
theorem nodup_ordinalIds {declarations : List Declaration} (h : (opcodes declarations).Nodup) :
    (declarations.map Declaration.ordinalIds).flatten.Nodup := by
  induction declarations with
  | nil => simp
  | cons declaration rest ih =>
      cases declaration with
      | separator => exact ih h
      | label text => exact ih h
      | operation declared =>
          obtain ⟨hNew, hRest⟩ := List.nodup_cons.1
            (show (declared.opcode :: opcodes rest).Nodup from h)
          rw [List.map_cons, List.flatten_cons]
          refine List.Nodup.append ?_ (ih hRest) fun id hHead hTail => hNew ?_
          · exact List.Nodup.map (Naming.ordinalId_injective _) (List.nodup_range' ..)
          · obtain ⟨_, ordinal, hOne, rfl⟩ := Declaration.mem_ordinalIds hHead
            cases hOne
            obtain ⟨_, hIds, hMem⟩ := List.mem_flatten.1 hTail
            obtain ⟨other, hOther, rfl⟩ := List.mem_map.1 hIds
            obtain ⟨_, ordinal', rfl, hSame⟩ := Declaration.mem_ordinalIds hMem
            rw [(Naming.ordinalId_inj hSame).1]
            exact List.mem_filterMap.2 ⟨_, hOther, rfl⟩

/-! ## Drawn names against counted ones -/

section Outcomes

def blank (resolution : Resolution) : Resolution := resolution.rename fun _ => ""

variable {position : Nat} {seen : List (String × Nat)}

private theorem map_cons_blank {first second : Except Failure Resolution} {block block' : Block}
    {warnings : List Warning}
    (hBlock : block.rename (fun _ => "") = block'.rename fun _ => "")
    (h : first.map blank = second.map blank) :
    (first.map (cons block warnings)).map blank =
      (second.map (cons block' warnings)).map blank := by
  have hCons (outcome : Except Failure Resolution) (block : Block) :
      (outcome.map (cons block warnings)).map blank =
        (outcome.map blank).map (cons (block.rename fun _ => "") warnings) := by
    cases outcome <;> rfl
  rw [hCons, hCons, hBlock, h]

private theorem ne_of_map_ne {outcome : Except Failure Resolution} {f : Resolution → Resolution}
    (h : outcome.map f ≠ .error .namesExhausted) : outcome ≠ .error .namesExhausted := by
  rintro rfl
  exact h rfl

/-- An operation with the names it takes, and what follows it. -/
private def resolveTaken (position : Nat) (seen : List (String × Nat))
    (declared : OperationDeclaration) (rest : List Declaration) :
    Option (List String × Naming) → Except Failure Resolution
  | none => .error .namesExhausted
  | some (ids, after) =>
      ((resolveOperation declared ids).mapError .fault).bind fun resolved =>
        (resolveFrom (position + 1) ((declared.opcode, position) :: seen) after rest).map
          (cons (.operation resolved.1) resolved.2)

/-- An operation is at fault before it takes names, or it takes them. -/
private theorem resolveFrom_operation_cases (position : Nat) (seen : List (String × Nat))
    (declared : OperationDeclaration) (rest : List Declaration) :
    (∃ fault, ∀ naming, resolveFrom position seen naming (.operation declared :: rest) =
        .error (.fault fault)) ∨
      ∀ naming, resolveFrom position seen naming (.operation declared :: rest) =
        resolveTaken position seen declared rest
          (naming.take declared.opcode 1 declared.arguments.length) := by
  simp only [resolveFrom]
  cases checkOpcode seen declared.opcode position with
  | error fault => exact .inl ⟨fault, fun _ => rfl⟩
  | ok _ =>
      cases checkArguments declared with
      | error fault => exact .inl ⟨fault, fun _ => rfl⟩
      | ok _ =>
          refine .inr fun naming => ?_
          cases naming.take declared.opcode 1 declared.arguments.length with
          | none => rfl
          | some taken => cases resolveOperation declared taken.1 <;> rfl

/-- Whatever names an operation receives, it fails alike or resolves alike. -/
private theorem resolveOperation_alike (declared : OperationDeclaration)
    {first second : List String} (hLength : first.length = second.length) :
    (∃ fault, resolveOperation declared first = .error fault ∧
        resolveOperation declared second = .error fault) ∨
      ∃ operation operation' warnings,
        resolveOperation declared first = .ok (operation, warnings) ∧
        resolveOperation declared second = .ok (operation', warnings) ∧
        operation.rename (fun _ => "") = operation'.rename fun _ => "" := by
  have hBlank : first.map (fun _ => "") = second.map fun _ => "" := by
    rw [List.map_const', List.map_const', hLength]
  have hSame := congrArg (resolveOperation declared) hBlank
  rw [resolveOperation_map, resolveOperation_map] at hSame
  cases hFirst : resolveOperation declared first <;>
    cases hSecond : resolveOperation declared second <;> rw [hFirst, hSecond] at hSame
  case error.error fault fault' =>
    cases hSame
    exact .inl ⟨fault, rfl, rfl⟩
  case error.ok => cases hSame
  case ok.error => cases hSame
  case ok.ok one two =>
    obtain ⟨hOperation, hWarnings⟩ := Prod.mk.inj (Except.ok.inj hSame)
    exact .inr ⟨one.1, two.1, one.2, rfl, by rw [hWarnings], hOperation⟩

/--
What becomes of a palette does not depend on the policy, as long as there are names
enough: the same fault is found, or the same blocks but for the identifiers in them.
-/
theorem resolveFrom_blank {declarations : List Declaration} {first second : Naming}
    (hFirst : resolveFrom position seen first declarations ≠ .error .namesExhausted)
    (hSecond : resolveFrom position seen second declarations ≠ .error .namesExhausted) :
    (resolveFrom position seen first declarations).map blank =
      (resolveFrom position seen second declarations).map blank := by
  induction declarations generalizing position seen first second with
  | nil => rfl
  | cons declaration rest ih =>
      cases declaration with
      | separator | label text =>
          exact map_cons_blank rfl (ih (ne_of_map_ne hFirst) (ne_of_map_ne hSecond))
      | operation declared =>
          obtain ⟨fault, hFault⟩ | hTakes := resolveFrom_operation_cases position seen declared rest
          · rw [hFault, hFault]
          rw [hTakes] at hFirst hSecond
          rw [hTakes, hTakes]
          cases hTake : first.take declared.opcode 1 declared.arguments.length with
          | none => exact absurd (by rw [hTake]; rfl) hFirst
          | some taken =>
          cases hTake' : second.take declared.opcode 1 declared.arguments.length with
          | none => exact absurd (by rw [hTake']; rfl) hSecond
          | some taken' =>
          rw [hTake] at hFirst
          rw [hTake'] at hSecond
          have hLength := (Naming.length_of_take hTake).trans (Naming.length_of_take hTake').symm
          simp only [resolveTaken] at hFirst hSecond ⊢
          obtain ⟨fault, hOne, hTwo⟩ | ⟨operation, operation', warnings, hOne, hTwo, hSame⟩ :=
            resolveOperation_alike declared hLength
          · rw [hOne, hTwo]
            rfl
          · rw [hOne] at hFirst ⊢
            rw [hTwo] at hSecond ⊢
            exact map_cons_blank (congrArg Block.operation hSame)
              (ih (ne_of_map_ne hFirst) (ne_of_map_ne hSecond))

/-- More draws change nothing where there were enough of them. -/
theorem resolveFrom_append {declarations : List Declaration} {used : List String}
    {supply : List RandomName}
    (hEnds : resolveFrom position seen (.random used supply) declarations ≠
      .error .namesExhausted) (more : List RandomName) :
    resolveFrom position seen (.random used (supply ++ more)) declarations =
      resolveFrom position seen (.random used supply) declarations := by
  induction declarations generalizing position seen used supply with
  | nil => rfl
  | cons declaration rest ih =>
      cases declaration with
      | separator | label text =>
          simp only [resolveFrom] at hEnds ⊢
          rw [ih (ne_of_map_ne hEnds)]
      | operation declared =>
          obtain ⟨fault, hFault⟩ | hTakes := resolveFrom_operation_cases position seen declared rest
          · rw [hFault, hFault]
          rw [hTakes] at hEnds
          rw [hTakes, hTakes]
          cases hTake : (Naming.random used supply).take declared.opcode 1
              declared.arguments.length with
          | none => exact absurd (by rw [hTake]; rfl) hEnds
          | some taken =>
          obtain ⟨left, hAfter, hMore⟩ := Naming.take_append hTake more
          rw [hTake] at hEnds
          rw [hMore]
          simp only [resolveTaken] at hEnds ⊢
          rw [hAfter] at hEnds ⊢
          cases hOperation : resolveOperation declared taken.1 with
          | error fault => rfl
          | ok resolved =>
              rw [hOperation] at hEnds
              exact congrArg (Except.map _) (ih (ne_of_map_ne hEnds))

end Outcomes

/-- Counted names do not run out. -/
theorem resolve_ordinal_ne_namesExhausted (declarations : List Declaration) :
    resolve .ordinal declarations ≠ .error .namesExhausted := by
  intro h
  have hSettles := settles_resolve declarations
  rw [h] at hSettles
  exact hSettles

/-- Where the draws suffice, both policies fail alike or both resolve. -/
theorem resolve_random_alike {declarations : List Declaration} {supply : List RandomName}
    (hEnds : resolve (.random [] supply) declarations ≠ .error .namesExhausted) :
    (∃ failure, resolve (.random [] supply) declarations = .error failure ∧
        resolve .ordinal declarations = .error failure) ∨
      ∃ drawn counted, resolve (.random [] supply) declarations = .ok drawn ∧
        resolve .ordinal declarations = .ok counted := by
  have hBlank : (resolve (.random [] supply) declarations).map blank =
      (resolve .ordinal declarations).map blank :=
    resolveFrom_blank hEnds (resolve_ordinal_ne_namesExhausted declarations)
  cases hDrawn : resolve (.random [] supply) declarations <;>
    cases hCounted : resolve .ordinal declarations <;> rw [hDrawn, hCounted] at hBlank
  case error.error failure failure' =>
    cases hBlank
    exact .inl ⟨failure, rfl, rfl⟩
  case error.ok => cases hBlank
  case ok.error => cases hBlank
  case ok.ok drawn counted => exact .inr ⟨drawn, counted, rfl, rfl⟩

/-! ## The renaming -/

/-- The identifiers of a resolved entry are those that it received. -/
theorem ids_of_resolveWith {declaration : Declaration} {ids : List String}
    {piece : Block × List Warning} (hLength : ids.length = declaration.arity)
    (h : declaration.resolveWith ids = .ok piece) : piece.1.ids = ids := by
  cases declaration with
  | separator | label text =>
      cases h
      exact (List.length_eq_zero_iff.1 hLength).symm
  | operation declared =>
      simp only [Declaration.resolveWith, resolveOperation_eq, bind_eq_ok_iff] at h
      obtain ⟨_, _, _, ⟨_, _, code, _, report, _, hOperation⟩, hPiece⟩ := h
      cases hOperation
      cases hPiece
      exact map_id_nameArguments hLength

/-- The identifiers of a resolved palette are those that its entries received. -/
theorem ids_ofPieces {declarations : List Declaration} {each : List (List String)}
    {pieces : List (Block × List Warning)}
    (hShape : each.map List.length = declarations.map Declaration.arity)
    (hPieces : List.zipWith Declaration.resolveWith each declarations = pieces.map .ok) :
    (ofPieces pieces).ids = each.flatten := by
  induction declarations generalizing each pieces with
  | nil =>
      obtain rfl := List.map_eq_nil_iff.1 hShape
      obtain rfl := List.map_eq_nil_iff.1 hPieces.symm
      rfl
  | cons declaration rest ih =>
      cases each with
      | nil => cases hShape
      | cons first each =>
          cases pieces with
          | nil => cases hPieces
          | cons piece pieces =>
              rw [List.map_cons, List.map_cons] at hShape
              rw [List.zipWith_cons_cons, List.map_cons] at hPieces
              obtain ⟨hLength, hLengths⟩ := List.cons.inj hShape
              obtain ⟨hPiece, hRest⟩ := List.cons.inj hPieces
              have hCons : (ofPieces (piece :: pieces)).ids =
                  piece.1.ids ++ (ofPieces pieces).ids := rfl
              rw [hCons, ids_of_resolveWith hLength hPiece, ih hLengths hRest, List.flatten_cons]

/-- Different names can be renamed to any names. -/
theorem exists_rename {first second : List String} (hNodup : first.Nodup)
    (hLength : first.length = second.length) : ∃ r : String → String, first.map r = second := by
  induction first generalizing second with
  | nil => exact ⟨id, (List.length_eq_zero_iff.1 hLength.symm).symm⟩
  | cons name first ih =>
      cases second with
      | nil => cases hLength
      | cons name' second =>
          obtain ⟨hNew, hRest⟩ := List.nodup_cons.1 hNodup
          obtain ⟨r, rfl⟩ := ih hRest (Nat.succ.inj hLength)
          refine ⟨Function.update r name name', ?_⟩
          rw [List.map_cons, Function.update_self]
          refine congrArg _ (List.map_congr_left fun other hMem => ?_)
          exact Function.update_of_ne (ne_of_mem_of_not_mem hMem hNew) ..

/-- Names that were counted are turned into names that were drawn, entry by entry. -/
theorem exists_rename_ordinalIds {declarations : List Declaration} {supply : List RandomName}
    {each : List (List String)} (hOpcodes : (opcodes declarations).Nodup)
    (hEach : (Naming.random [] supply).takeEach declarations = some each) :
    ∃ r : String → String,
      (declarations.map Declaration.ordinalIds).map (List.map r) = each := by
  have hLengths : (declarations.map Declaration.ordinalIds).map List.length =
      each.map List.length :=
    (Naming.map_length_takeEach (takeEach_ordinal declarations)).trans
      (Naming.map_length_takeEach hEach).symm
  have hFlat : (declarations.map Declaration.ordinalIds).flatten.length = each.flatten.length := by
    rw [List.length_flatten, List.length_flatten, hLengths]
  obtain ⟨r, hr⟩ := exists_rename (nodup_ordinalIds hOpcodes) hFlat
  refine ⟨r, List.eq_iff_flatten_eq.2 ⟨?_, ?_⟩⟩
  · rw [← List.map_flatten, hr]
  · rw [← hLengths, List.map_map]
    exact List.map_congr_left fun ids _ => List.length_map ..

theorem ofPieces_map (r : String → String) (pieces : List (Block × List Warning)) :
    ofPieces (pieces.map fun piece => (piece.1.rename r, piece.2)) =
      (ofPieces pieces).rename r := by
  simp [ofPieces, rename, List.flatMap_map]

/-- Entries that resolve on their own resolve to the renamed blocks with renamed identifiers. -/
theorem zipWith_resolveWith_map (r : String → String) (each : List (List String))
    (declarations : List Declaration) :
    List.zipWith Declaration.resolveWith (each.map (List.map r)) declarations =
      (List.zipWith Declaration.resolveWith each declarations).map
        (Except.map fun piece => (piece.1.rename r, piece.2)) := by
  rw [List.zipWith_map_left, List.map_zipWith]
  exact congrArg (List.zipWith · each declarations) (funext₂ fun ids declaration =>
    resolveWith_map r declaration ids)

/--
A resolution with counted names has become one with drawn names. There is nothing else in
which they differ.
-/
structure RedrawnAs (counted drawn : Resolution) : Prop where
  /-- Apart from the names the two are the same, and different names stay different. -/
  renames : ∃ r, Set.InjOn r {id | id ∈ counted.ids} ∧ drawn = counted.rename r
  /-- No two arguments of the palette have one name. -/
  nodup : drawn.ids.Nodup
  /-- Every name has eleven letters. -/
  letters : ∀ id ∈ drawn.ids, id.toList.length = 11 ∧ ∀ letter ∈ id.toList, letter.isAlpha

end Resolution

open Resolution in
/--
A palette on which the draws suffice resolves with drawn names exactly if it resolves
with counted names, and otherwise fails in the same way. If it resolves, an injective
renaming of the counted names turns the one result into the other.
-/
theorem resolve_random_renames {declarations : List Declaration} {supply : List RandomName}
    (hEnds : resolve (.random [] supply) declarations ≠ .error .namesExhausted) :
    ((∃ drawn, resolve (.random [] supply) declarations = .ok drawn) ↔
        ∃ counted, resolve .ordinal declarations = .ok counted) ∧
      (∀ failure, resolve (.random [] supply) declarations = .error failure ↔
        resolve .ordinal declarations = .error failure) ∧
      ∀ drawn counted, resolve (.random [] supply) declarations = .ok drawn →
        resolve .ordinal declarations = .ok counted →
        counted.RedrawnAs drawn := by
  obtain ⟨failure, hDrawn, hCounted⟩ | ⟨drawn, counted, hDrawn, hCounted⟩ :=
    resolve_random_alike hEnds
  · rw [hDrawn, hCounted]
    exact ⟨by simp, fun _ => Iff.rfl, fun _ _ hOk => by cases hOk⟩
  rw [hDrawn, hCounted]
  refine ⟨by simp, by simp, ?_⟩
  rintro _ _ ⟨⟩ ⟨⟩
  obtain ⟨hNodup, pieces, hCount, rfl⟩ := resolve_eq_ok_iff.1 hCounted
  obtain ⟨_, pieces', ⟨each, hEach, hPieces'⟩, rfl⟩ := resolve_eq_ok_iff.1 hDrawn
  obtain ⟨_, hOrdinal, hPieces⟩ := hCount
  cases (takeEach_ordinal declarations).symm.trans hOrdinal
  obtain ⟨r, rfl⟩ := exists_rename_ordinalIds hNodup hEach
  have hNames := Naming.drawn_of_takeEach hEach
  have hCountedIds := ids_ofPieces (Naming.map_length_takeEach hOrdinal) hPieces
  have hDrawnIds := ids_ofPieces (Naming.map_length_takeEach hEach) hPieces'
  have hRenamed : pieces' = pieces.map fun piece => (piece.1.rename r, piece.2) := by
    rw [zipWith_resolveWith_map, hPieces, List.map_map] at hPieces'
    have hOk : Function.Injective (Except.ok : Block × List Warning → Except Fault _) :=
      fun _ _ => Except.ok.inj
    refine List.map_injective_iff.2 hOk ?_
    rw [← hPieces', List.map_map]
    rfl
  refine
    { renames := ⟨r, ?_, hRenamed ▸ ofPieces_map r pieces⟩
      nodup := ?_
      letters := ?_ }
  · have hImage : ((declarations.map Declaration.ordinalIds).flatten.map r).Nodup := by
      rw [List.map_flatten]
      exact hNames.nodup
    intro first hFirst second hSecond hSame
    rw [Set.mem_ofPred_eq, hCountedIds] at hFirst hSecond
    exact List.inj_on_of_nodup_map hImage hFirst hSecond hSame
  · rw [hDrawnIds]
    exact hNames.nodup
  · intro id hMem
    rw [hDrawnIds] at hMem
    obtain ⟨name, rfl⟩ := hNames.text id hMem
    exact ⟨name.length_text, name.isAlpha_of_mem_text⟩

/-- Two operations with three arguments between them. -/
def sayAndTurn : List Declaration :=
  [.operation ⟨"say", .command, "say [what] to [whom]", some "say([what], [whom])", none, false,
      some "whom", [⟨"what", .string, none⟩, ⟨"whom", .string, none⟩]⟩,
    .operation ⟨"turn", .command, "turn [by]", some "turn([by])", none, false, none,
      [⟨"by", .angle, none⟩]⟩]

/-- Draws of one letter eleven times, some of which come again. -/
def drawsAgain : List RandomName :=
  let first : Fin 52 := ⟨0, by decide⟩
  let second : Fin 52 := ⟨1, by decide⟩
  let last : Fin 52 := ⟨51, by decide⟩
  [first, first, second, first, second, last].map fun letter => .ofFn fun _ => letter

/-- Draws that come again are passed over, in the second operation as well. -/
theorem resolve_random_renames_sayAndTurn :
    resolve (.random [] drawsAgain) sayAndTurn ≠ .error .namesExhausted ∧
      ∃ drawn counted, resolve (.random [] drawsAgain) sayAndTurn = .ok drawn ∧
        resolve .ordinal sayAndTurn = .ok counted ∧ counted.RedrawnAs drawn ∧
        drawn.ids = ["AAAAAAAAAAA", "BBBBBBBBBBB", "zzzzzzzzzzz"] := by
  have hDrawn : resolve (.random [] drawsAgain) sayAndTurn = .ok
      ⟨[.operation ⟨"say", .command, "say [what] to [whom]",
            some ⟨[.literal "say(", .argument "AAAAAAAAAAA", .literal ", ",
              .argument "BBBBBBBBBBB", .literal ")"]⟩, none, false, .argument "BBBBBBBBBBB",
            [⟨"what", .string, "AAAAAAAAAAA", none⟩, ⟨"whom", .string, "BBBBBBBBBBB", none⟩]⟩,
          .operation ⟨"turn", .command, "turn [by]",
            some ⟨[.literal "turn(", .argument "zzzzzzzzzzz", .literal ")"]⟩, none, false,
            .argument "zzzzzzzzzzz", [⟨"by", .angle, "zzzzzzzzzzz", none⟩]⟩], []⟩ := by cbv
  have hEnds : resolve (.random [] drawsAgain) sayAndTurn ≠ .error .namesExhausted := by
    rw [hDrawn]
    intro h
    cases h
  obtain ⟨hBoth, _, hRenames⟩ := resolve_random_renames hEnds
  obtain ⟨counted, hCounted⟩ := hBoth.1 ⟨_, hDrawn⟩
  exact ⟨hEnds, _, counted, hDrawn, hCounted, hRenames _ _ hDrawn hCounted, rfl⟩

end BlockExtension
