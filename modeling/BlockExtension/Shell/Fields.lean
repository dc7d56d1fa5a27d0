import BlockExtension.Files.Lookup
import BlockExtension.Shell.Ambient
import BlockExtension.Shell.Arithmetic
import BlockExtension.Shell.Pattern

/-!
# Fields

What parameters hold, and what becomes of expanded words.
-/

/-!
## Fields

What becomes of an expanded word. Its characters come from quotation marks, from
the script itself, or from a value that was put in; only the last are cut into
fields at the separators, and only the last two make up patterns. A field that
is a pattern gives way to the names of the files that it matches.
-/

namespace BlockExtension.Shell

/-- Where a character of an expanded word comes from. -/
inductive Origin where
  | quoted
  | literal
  | expanded
  deriving DecidableEq, Repr

/-- A piece of an expanded word. -/
inductive Glyph where
  | char (c : Char) (origin : Origin)
  | mark
  /-- One field ends here, and the next one starts. -/
  | cut
  deriving DecidableEq, Repr

namespace Glyph

def ofText (origin : Origin) (text : Octets) : List Glyph := text.map (.char · origin)

def ofQuoted (text : Octets) : List Glyph := .mark :: ofText .quoted text

def text (glyphs : List Glyph) : Octets :=
  glyphs.filterMap fun
    | .char c _ => some c
    | _ => none

/-- The characters of an expanded word as those of a pattern. -/
def marks (glyphs : List Glyph) : List Pattern.Mark :=
  glyphs.filterMap fun
    | .char c origin => some ⟨c, origin = .quoted⟩
    | _ => none

/-- The same pieces, with what stood in the script as if it had been put in. -/
def asExpanded (glyphs : List Glyph) : List Glyph :=
  glyphs.map fun
    | .char c .literal => .char c .expanded
    | glyph => glyph

end Glyph

abbrev Field := List Pattern.Mark

namespace Field

/-- How far the cutting of a word has come. -/
structure Progress where
  finished : List Field
  begun : Option Field
  /-- A blank has just ended a field, so a separator of another kind still belongs to it. -/
  afterBlank : Bool

/-- The field that has been begun is at its end. -/
def Progress.close (progress : Progress) : Progress :=
  match progress.begun with
  | some field => ⟨field.reverse :: progress.finished, none, false⟩
  | none => { progress with afterBlank := false }

def Progress.push (progress : Progress) (mark : Pattern.Mark) : Progress :=
  { progress with begun := some (mark :: progress.begun.getD []), afterBlank := false }

def Progress.next (separators : Octets) (progress : Progress) (glyph : Glyph) : Progress :=
  match glyph with
  | .mark => { progress with begun := some (progress.begun.getD []), afterBlank := false }
  | .cut => progress.close
  | .char c origin =>
      if origin ≠ .expanded || !separators.contains c then
        progress.push ⟨c, origin = .quoted⟩
      else if c = ' ' || c = '\t' || c = '\n' then
        if progress.begun.isSome then { progress.close with afterBlank := true } else progress
      else if progress.begun.isSome then progress.close
      else if progress.afterBlank then { progress with afterBlank := false }
      else { progress with finished := [] :: progress.finished }

def ofGlyphs (separators : Octets) (glyphs : List Glyph) : List Field :=
  (glyphs.foldl (Progress.next separators) ⟨[], none, false⟩).close.finished.reverse

def text (field : Field) : Octets := field.map (·.char)

/-! ### Files -/

/-- The stretches of a field between its slashes. -/
def components : Field → List Field
  | [] => [[]]
  | mark :: rest =>
      if mark.char = '/' then [] :: components rest
      else
        match components rest with
        | [] => [[mark]]
        | component :: more => (mark :: component) :: more

/-- The names in a directory; a path that ends in a slash names it, or nothing the current one. -/
def namesIn (tree : Files.Tree) (directory : Octets) : List Octets :=
  match tree.find (if directory.isEmpty then "." else Octets.toText directory) with
  | .ok (location, entry) =>
      if entry.isReadable then (tree.children location).map (Octets.ofText ·.1) else []
  | .error _ => []

/-- How the names of files are chosen that a field matches. -/
structure Globbing where
  namesDots : Bool
  groups : Bool
  /-- Names with a dot in front need none in the pattern. -/
  showsHidden : Bool
  /-- Capital and small letters are the same. -/
  caseless : Bool
  /-- Two asterisks go through directories. -/
  recurses : Bool

def Globbing.pattern (globbing : Globbing) (component : Field) : Pattern :=
  let pattern := Pattern.ofMarks globbing.groups component
  if globbing.caseless then pattern.caseless Pattern.groupDepth else pattern

def namesMatched (tree : Files.Tree) (globbing : Globbing) (start : Octets)
    (component : Field) : List Octets :=
  let dotted := (component.head?.map (·.char)) = some '.'
  let pattern := globbing.pattern component
  let names := (if dotted && globbing.namesDots then [['.'], ['.', '.']] else []) ++
    namesIn tree start
  names.filter fun name =>
    (if name.head? = some '.' then dotted || globbing.showsHidden else !dotted) &&
      pattern.accepts name

/-- The directories below a start, at most `fuel` deep, each with a slash behind it. -/
def directoriesBelow (tree : Files.Tree) (hidden : Bool) : (fuel : Nat) → Octets → List Octets
  | 0, _ => []
  | fuel + 1, start =>
      (namesIn tree start).flatMap fun name =>
        let path := start ++ name
        if (name.head? = some '.' && !hidden) || !tree.isDirectory (Octets.toText path) then []
        else (path ++ ['/']) :: directoriesBelow tree hidden fuel (path ++ ['/'])

def depthLimit : Nat := 100

def isAnyDepth (globbing : Globbing) (component : Field) : Bool :=
  globbing.recurses && component = [⟨'*', false⟩, ⟨'*', false⟩]

def matchesFrom (tree : Files.Tree) (globbing : Globbing) : (fuel : Nat) → (start : Octets) →
    List Field → List Octets
  | 0, _, _ => []
  | _, _, [] => []
  | fuel + 1, start, [component] =>
      if isAnyDepth globbing component then
        (start :: directoriesBelow tree globbing.showsHidden depthLimit start).flatMap
          fun directory => matchesFrom tree globbing fuel directory [[⟨'*', false⟩]]
      else if Pattern.isMagic globbing.groups component then
        (namesMatched tree globbing start component).map (start ++ ·)
      else
        let path := start ++ text component
        if (tree.findNamed (Octets.toText path)).toOption.isSome then [path] else []
  | fuel + 1, start, component :: rest =>
      if isAnyDepth globbing component then
        (start :: directoriesBelow tree globbing.showsHidden depthLimit start).flatMap
          fun directory => matchesFrom tree globbing fuel directory rest
      else if Pattern.isMagic globbing.groups component then
        (namesMatched tree globbing start component).flatMap fun name =>
          if tree.isDirectory (Octets.toText (start ++ name)) then
            matchesFrom tree globbing fuel (start ++ name ++ ['/']) rest
          else []
      else matchesFrom tree globbing fuel (start ++ text component ++ ['/']) rest

def paths? (tree : Files.Tree) (globbing : Globbing) (field : Field) : Option (List Octets) :=
  if !Pattern.isMagic globbing.groups field then none
  else
    let parts := components field
    some ((matchesFrom tree globbing (parts.length + 2) [] parts).mergeSort Octets.le)

end Field

/-!
## What parameters hold

A parameter holds nothing, one text, or several texts; several may be joined to
one where one is wanted. What is held is turned into the pieces of a word.
-/

open Act

/-- What a parameter holds. -/
inductive Held where
  | missing
  | single (text : Octets)
  | several (items : List Octets) (joins : Bool)
  deriving DecidableEq

namespace Held

/-- What is held, as one text; several are joined by the first separator. -/
def text (separators : Octets) : Held → Octets
  | .missing => []
  | .single text => text
  | .several items _ => Octets.joined (separators.take 1) items

/-- What is held, with a change made to each text of it. -/
def map (change : Octets → Octets) : Held → Held
  | .missing => .single (change [])
  | .single text => .single (change text)
  | .several items joins => .several (items.map change) joins

/-- The pieces that texts make up which are fields of their own. -/
def separate (quoted : Bool) : List Octets → List Glyph
  | [] => []
  | [item] => if quoted then Glyph.ofQuoted item else Glyph.ofText .expanded item
  | item :: rest =>
      (if quoted then Glyph.ofQuoted item else Glyph.ofText .expanded item) ++
        .cut :: separate quoted rest

/-- The pieces that what is held makes up; `fields` says whether it may be several fields. -/
def glyphs (separators : Octets) (fields quoted : Bool) (held : Held) : List Glyph :=
  match held with
  | .several items joins =>
      if fields && !(quoted && joins) then separate quoted items
      else
        let text := held.text separators
        if quoted then Glyph.ofQuoted text else Glyph.ofText .expanded text
  | held =>
      let text := held.text separators
      if quoted then Glyph.ofQuoted text else Glyph.ofText .expanded text

/-- What is held is nothing, or nothing but one text without characters. -/
def isEmpty (separators : Octets) : Held → Bool
  | .several items _ => items.isEmpty || (items.length = 1 && items.all List.isEmpty)
  | held => (held.text separators).isEmpty

def valueOf? (name : Octets) : Act (Option Value) := do
  match ← variableOf? name with
  | some entry => return entry.value
  | none => if ← isExtended then Ambient.value? name else return none

def element (name : Octets) (value : Value) (index : Octets) : Act Held := do
  match ← Arithmetic.placeOf? Arithmetic.value name index with
  | none =>
      Arithmetic.refusePlace name
      return .missing
  | some place =>
      return match Arithmetic.elementOf? value place with
        | some text => .single text
        | none => .missing

def ofVariable (name : Octets) (subscript : Option Octets) : Act Held := do
  let (name, own) ← target name
  let subscript := subscript.orElse fun _ => own
  let value ← valueOf? name
  match subscript with
  | some ['@'] => return .several ((value.map Value.items).getD []) false
  | some ['*'] => return .several ((value.map Value.items).getD []) true
  | some index =>
      match value with
      | some value => element name value index
      | none =>
          if (← shapeOf name) ≠ .table then
            let _ ← Arithmetic.value index
          return .missing
  | none =>
      return match value.bind Value.text? with
        | some text => .single text
        | none => .missing

def settingOrder (extended : Bool) : String :=
  if extended then "abefhkmnptuvxBCEHPT" else "ubaCEVvxsnmiIfe"

def ofParameter (name : Octets) (subscript : Option Octets) : Act Held := do
  let process ← process
  match name with
  | ['@'] => return .several process.positional false
  | ['*'] => return .several process.positional true
  | ['#'] => return .single (Octets.ofNat process.positional.length)
  | ['?'] => return .single (Octets.ofNat process.status)
  | ['$'] => return .single (Octets.ofNat process.scriptId)
  | ['!'] =>
      match process.children.head? with
      | some id => return .single (Octets.ofNat id)
      | none => return .missing
  | ['-'] =>
      let letters := (settingOrder (process.dialect = .extended)).toList
      return .single (letters.filter fun c => c ≠ 'P' && process.settings.contains c)
  | ['0'] => return .single process.name
  | name =>
      if let some n := Octets.number? name then
        match process.positional[n - 1]? with
        | some text => return .single text
        | none => return .missing
      ofVariable name subscript

end Held

end BlockExtension.Shell
