import BlockExtension.Shell.Braces
import BlockExtension.Shell.Variable
import BlockExtension.Shell.Fields

/-!
# Expansion

What words become when a command runs: parameters, outputs of commands and
values of expressions are put in their places, and what has been put in is cut
into fields. How a command is run is not known here; whoever expands a word says
how the output of a command is had.
-/

namespace BlockExtension.Shell.Expansion

open Act

/-- A way to run a command and have what it writes. -/
abbrev Output := Command → Act Octets

/-! ## Changes to texts -/

/-- A stretch of a list; a start below zero counts from the end. -/
def sliced {α : Type} (items : List α) (start : Int) (count : Option Int) : List α :=
  let length : Int := items.length
  let start := if start < 0 then length + start else start
  if start < 0 || length < start then []
  else
    let rest := items.drop start.toNat
    match count with
    | none => rest
    | some count =>
        if count < 0 then rest.take ((rest.length : Int) + count).toNat else rest.take count.toNat

/-- The texts of a value from a start on; rows go by their numbers, tables by their order. -/
def stretchOf (value : Value) (start : Int) (count : Option Nat) : List Octets :=
  let cut (texts : List Octets) : List Octets :=
    match count with
    | some count => texts.take count
    | none => texts
  match value with
  | .table entries => cut (entries.map (·.2) |>.drop (start.toNat - 1))
  | value =>
      let row := value.toRow
      let first := if start < 0 then (row.next : Int) + start else start
      if first < 0 then [] else cut ((row.filter fun entry => first.toNat ≤ entry.1).map (·.2))

/-- A character in another case. -/
def Recasing.apply (change : Recasing) (c : Char) : Char :=
  match change with
  | .raise => c.toUpper
  | .lower => c.toLower
  | .swap => if c.isUpper then c.toLower else c.toUpper

/-- A text in which the letters that a pattern matches change their case, or only the first. -/
def recased (change : Recasing) (all : Bool) (pattern : Option Pattern) (text : Octets) :
    Octets :=
  let changed (c : Char) : Char :=
    if pattern.all (·.accepts [c]) then Recasing.apply change c else c
  match text, all with
  | text, true => text.map changed
  | c :: rest, false => changed c :: rest
  | [], false => []

/-- A text with a pattern replaced where it is sought; the new text hangs on the old one. -/
def replaced (reach : Reach) (pattern : Pattern) (new : Octets → Octets) (text : Octets) :
    Octets :=
  match reach with
  | .first => pattern.replaceAll new true (text.length + 1) text
  | .all => pattern.replaceAll new false (text.length + 1) text
  | .atFront =>
      match pattern.longestFront? text with
      | some (found, behind) => new found ++ behind
      | none => text
  | .atBack =>
      match (Pattern.cuts text).find? fun cut => pattern.accepts cut.2 with
      | some (before, found) => before ++ new found
      | none => text

/-- What is put in place of a text; an ampersand may stand for the text itself. -/
def replacement (stands : Bool) : List Glyph → Octets → Octets
  | [], _ => []
  | .char '\\' .expanded :: .char '&' .expanded :: rest, found =>
      (if stands then ['&'] else ['\\', '&']) ++ replacement stands rest found
  | .char c origin :: rest, found =>
      (if stands && c = '&' && origin ≠ .quoted then found else [c]) ++
        replacement stands rest found
  | _ :: rest, found => replacement stands rest found

/-- A text without an end of it that a pattern matches. -/
def trimmed (side : Side) (longest : Bool) (pattern : Pattern) (text : Octets) : Octets :=
  match side with
  | .front => pattern.dropFront longest text
  | .back => pattern.dropBack longest text

/-- Texts of which one loses an end that a pattern matches; none are left behind that one. -/
def trimmedOnce (longest : Bool) (pattern : Pattern) : List Octets → Option (List Octets)
  | [] => none
  | item :: rest =>
      let cut := trimmed .back longest pattern item
      let here := if cut = item && !(longest && pattern.accepts []) then none else some [cut]
      let behind := (trimmedOnce longest pattern rest).map (item :: ·)
      if longest then here.orElse fun _ => behind else behind.orElse fun _ => here

/--
Texts as one text that loses an end that a pattern matches, where a match does
not go past the end of the text that it starts in.
-/
def trimmedTogether (side : Side) (longest : Bool) (pattern : Pattern) (items : List Octets) :
    List Octets :=
  match side, items with
  | .back, items => (trimmedOnce longest pattern items).getD items
  | .front, item :: rest =>
      if longest && !rest.isEmpty && pattern.accepts item then [[]]
      else trimmed .front longest pattern item :: rest
  | .front, [] => []

/-! ## Tildes -/

/-- The directory that a tilde stands for, with what is written behind it. -/
def homeOf? (user : Octets) : Act (Option Octets) := do
  match String.ofList user, ← isExtended with
  | "", _ => textOf? "HOME".toList
  | "root", _ => return some "/root".toList
  | "+", true => textOf? "PWD".toList
  | "-", true => textOf? "OLDPWD".toList
  | _, _ => return none

/--
A stretch outside quotation marks with the directory that a tilde at its start
stands for; the flag says that something follows that may belong to the name.
-/
def homed (text : Octets) (goesOn : Bool) : Act Word := do
  match text with
  | '~' :: text =>
      let user := text.takeWhile (· ≠ '/')
      let behind := text.drop user.length
      if behind.isEmpty && goesOn then return [.literal ('~' :: text)]
      match ← homeOf? user with
      | some home => return [.quoted home, .literal behind]
      | none => return [.literal ('~' :: text)]
  | text => return [.literal text]

/-- The home directory in place of a tilde at the start of a word, perhaps that of a user. -/
def withoutTilde (word : Word) : Act Word := do
  match word with
  | .literal ('~' :: text) :: rest => return (← homed ('~' :: text) (!rest.isEmpty)) ++ rest
  | word => return word

/-- The stretches of a text between its colons, each with a directory for a tilde. -/
def homedPieces (goesOn : Bool) : List Octets → Act Word
  | [] => return []
  | [piece] => homed piece goesOn
  | piece :: rest =>
      return (← homed piece false) ++ .literal [':'] :: (← homedPieces goesOn rest)

def withoutTildes (isStart : Bool) : Word → Act Word
  | [] => return []
  | .literal text :: rest => do
      let behind ← withoutTildes false rest
      if !text.contains '~' then return .literal text :: behind
      let pieces := Octets.cutAt ':' text
      if isStart then return (← homedPieces (!rest.isEmpty) pieces) ++ behind
      match pieces with
      | [] => return behind
      | [piece] => return .literal piece :: behind
      | piece :: more =>
          return .literal (piece ++ [':']) :: (← homedPieces (!rest.isEmpty) more) ++ behind
  | part :: rest => return part :: (← withoutTildes false rest)

/-! ## Parameters -/

/-- Gives up, since something has no value that must have one. -/
def refuseMissing {α : Type} (name : Octets) (subscript : Option Octets) : Act α := do
  if ← isExtended then
    let shown := if (Octets.number? name).isSome then '$' :: name
      else match subscript with
        | some index => name ++ '[' :: index ++ [']']
        | none => name
    failWith (shown ++ ": unbound variable".toList) 1
  failWith (name ++ ": parameter not set".toList) 2

/-- What surrounds a parameter in a word. -/
structure Site where
  /-- Expands a word within, perhaps to several fields. -/
  nested : Bool → Word → Act (List Glyph)
  fields : Bool
  quoted : Bool
  separators : Octets

namespace Site

/-- The pieces that what is held makes up. -/
def shown (site : Site) (held : Held) : List Glyph :=
  held.glyphs site.separators site.fields site.quoted

/-- The pieces of a word that stands in place of a value. -/
def inside (site : Site) (word : Word) : Act (List Glyph) := do
  let glyphs ← site.nested site.fields (← withoutTilde word)
  return if site.quoted then .mark :: glyphs else Glyph.asExpanded glyphs

def text (site : Site) (word : Word) : Act Octets := return Glyph.text (← site.nested false word)

def pattern (site : Site) (word : Word) : Act Pattern := do
  let groups := (← isExtended) && (← isChosen "extglob")
  let found := Pattern.ofMarks groups (Glyph.marks (← site.nested false word))
  return if ← isChosen "nocasematch" then found.caseless Pattern.groupDepth else found

end Site

/-- What stands in for a value, or the value itself. -/
def substituted (site : Site) (name : Octets) (subscript : Option Octets) (found : Held)
    (kind : Fallback) (colon : Bool) (word : Word) : Act (List Glyph) := do
  let extended ← isExtended
  let lacks := found = .missing || (colon && found.isEmpty site.separators) ||
    match found with
    | .several [] _ => extended
    | _ => false
  match kind with
  | .default => if lacks then site.inside word else return site.shown found
  | .alternative =>
      if lacks then return (if site.quoted then [.mark] else []) else site.inside word
  | .complain =>
      if !lacks then return site.shown found
      let text ← site.text word
      let usual := match colon, extended with
        | false, _ => "parameter not set"
        | true, false => "parameter not set or null"
        | true, true => "parameter null or not set"
      let text := if word.isEmpty then usual.toList else text
      failWith (name ++ ": ".toList ++ text) (if extended then 1 else 2)
  | .assign =>
      if !lacks then return site.shown found
      let text := Glyph.text (← site.nested false (← withoutTilde word))
      if !Octets.isName name then
        if extended then
          discardWith ('$' :: name ++ ": cannot assign in this way".toList) 1
        failWith (name ++ ": bad variable name".toList) 2
      match subscript with
      | some index => Arithmetic.storeAt Arithmetic.value name index text
      | none => assignText name text
      return site.shown (.single text)

def withoutEnd (site : Site) (held : Held) (side : Side) (longest : Bool) (word : Word) :
    Act Held := do
  if held = .missing then return held
  let pattern ← site.pattern word
  let trim := trimmed side longest pattern
  match held, ← isExtended with
  | .several items joins, false =>
      if site.fields && !(site.quoted && joins) then
        return .several (trimmedTogether side longest pattern items) joins
      return .single (trim (Octets.joined (site.separators.take 1) items))
  | held, _ => return held.map trim

/-- A stretch of what is held. -/
def slice (name : Octets) (subscript : Option Octets) (held : Held) (start : Int)
    (count : Option Int) : Act Held := do
  let refuse : Act Held :=
    discardWith (Octets.ofInt (count.getD 0) ++ ": substring expression < 0".toList) 1
  match held with
  | .several items joins =>
      if count.any (· < 0) then return ← refuse
      match subscript with
      | none =>
          return .several (sliced ((← process).name :: items) start count) joins
      | some _ =>
          match ← Held.valueOf? (← target name).1 with
          | some value => return .several (stretchOf value start (count.map Int.toNat)) joins
          | none => return .several [] joins
  | held =>
      let text := held.text []
      let length : Int := text.length
      let first := if start < 0 then length + start else start
      let isInside := 0 ≤ first && first ≤ length
      if isInside && count.any fun count => count < 0 && length + count < first then
        return ← refuse
      return .single (sliced text start count)

/-- Says which row or table a subscript means as a whole; none if it means a single text. -/
def isWhole (subscript : Option Octets) : Bool :=
  subscript = some ['@'] || subscript = some ['*']

/-- The keys and the texts of a value, as words that could be read back. -/
def pairs (value : Value) : Octets :=
  match value with
  | .table entries => entries.flatMap fun (key, text) =>
      Quotation.key key ++ ' ' :: Quotation.declared text ++ [' ']
  | value =>
      Octets.joined [' '] ((value.keys.zip value.items).map fun (key, text) =>
        key ++ ' ' :: Quotation.declared text)

/-- What is held in a form that tells how it was declared. -/
def described (letter : Char) (name : Octets) (subscript : Option Octets) (found : Held) :
    Act Held := do
  let (name, _) ← target name
  let joins := subscript = some ['*']
  match letter, ← variableOf? name, found with
  | 'A', none, .several items _ =>
      if items.isEmpty then return .missing
      return .single (Octets.joined [' '] ("set --".toList :: items.map Quotation.reusable))
  | 'A', some entry, _ =>
      if isWhole subscript && entry.shape ≠ .single then
        return .single (entry.declaration name)
      let text := match found with
        | .single text => some text
        | _ => entry.value.bind Value.text?
      return .single (entry.reassignment name text)
  | 'a', some entry, .several items _ =>
      return .several (items.map fun _ => entry.flags) joins
  | 'a', some entry, _ => return .single entry.flags
  | letter, some entry, .several _ _ =>
      match letter, entry.value with
      | 'K', some value => return .single (pairs value)
      | 'k', some value =>
          return .several ((value.keys.zip value.items).flatMap fun (key, text) => [key, text])
            joins
      | _, _ => return .missing
  | _, _, _ => return .missing

def formed (letter : Char) (name : Octets) (subscript : Option Octets) (found : Held) :
    Act Held := do
  let isPairs := (letter = 'K' || letter = 'k') && isWhole subscript
  if letter = 'A' || letter = 'a' || isPairs then
    return ← described letter name subscript found
  if found = .missing then return .missing
  return found.map fun text =>
    match letter with
    | 'U' => text.map Char.toUpper
    | 'u' => recased .raise false none text
    | 'L' => text.map Char.toLower
    | 'E' => Reader.unescaped (text.length + 1) text
    | 'P' => text
    | _ => Quotation.reusable text

def named (separators : Octets) (name : Octets) (found : Held) :
    Act (Octets × Option Octets) := do
  if found = .missing then
    discardWith (name ++ ": invalid indirect expansion".toList) 1
  let text := found.text separators
  let (base, index) := elementOf text
  let isSpecial := match base with
    | [c] => Reader.isSpecial c
    | _ => false
  unless Octets.isName base || (Octets.number? base).isSome || isSpecial do
    discardWith (text ++ ": invalid variable name".toList) 1
  return (base, index)

def namesFrom (start : Octets) : Act (List Octets) := do
  let names := ((← process).bindings.filter fun (name, entry) =>
    (Octets.behind? start name).isSome && entry.value.isSome).map (·.1)
  return names.mergeSort Octets.le

/-- The pieces that come of a parameter by what is made of it. -/
def applied (site : Site) (name : Octets) (subscript : Option Octets) (found : Held) :
    Use → Act (List Glyph) := fun use => do
  let checked : Act Held := do
    if found = .missing && (← isSet 'u') then refuseMissing name subscript
    return found
  match use with
  | .plain => return site.shown (← checked)
  | .length =>
      let held ← checked
      let count := match held, subscript with
        | .several items _, some _ => items.length
        | held, _ => (held.text site.separators).length
      if (← isExtended) && (name = ['@'] || name = ['*']) then
        return site.shown (.single (Octets.ofNat (← process).positional.length))
      return site.shown (.single (Octets.ofNat count))
  | .fallback kind colon word => substituted site name subscript found kind colon word
  | .without side longest word =>
      return site.shown (← withoutEnd site (← checked) side longest word)
  | .slice start count =>
      let start := (← Arithmetic.value (← site.text start)).toInt
      let count ← match count with
        | some count => do
            let text ← site.text count
            pure (some (← Arithmetic.value text).toInt)
        | none => pure none
      return site.shown (← slice name subscript (← checked) start count)
  | .replace reach pattern new =>
      let pattern ← site.pattern pattern
      let new ← site.nested false new
      let stands ← isChosen "patsub_replacement"
      return site.shown ((← checked).map (replaced reach pattern (replacement stands new)))
  | .recase change all pattern =>
      let pattern ← if pattern.isEmpty then pure none else some <$> site.pattern pattern
      return site.shown ((← checked).map (recased change all pattern))
  | .keys =>
      let keys := ((← Held.valueOf? (← target name).1).map Value.keys).getD []
      return site.shown (.several keys (subscript = some ['*']))
  | .names joins => return site.shown (.several (← namesFrom name) joins)
  | .form letter =>
      let isValue := letter ≠ 'A' && letter ≠ 'a'
      let held ← if isValue then checked else pure found
      return site.shown (← formed letter name subscript held)
  | .indirect _ => return []
  | .meaningless text =>
      if ← isExtended then
        if found = .missing && text.head? = some '@' then return site.shown found
        discardWith ("$\x7b".toList ++ name ++ text ++ "\x7d: bad substitution".toList) 1
      failWith "Bad substitution".toList 2

def parameter (site : Site) (name : Octets) (subscript : Option Octets) (use : Use) :
    Act (List Glyph) := do
  match use with
  | .indirect use =>
      match ← variableOf? name with
      | some ⟨some (.single text), _, _, _, _, _, true⟩ =>
          applied site name none (.single text) use
      | _ =>
          let found ← Held.ofParameter name subscript
          let (name, subscript) ← named site.separators name found
          applied site name subscript (← Held.ofParameter name subscript) use
  | .names _ => applied site name subscript .missing use
  | use => applied site name subscript (← Held.ofParameter name subscript) use

/-! ## Words -/

def firstPassage : Nat := 63

/-- The path of a file that stands for a command: its output, or what it will read. -/
def passagePath (output : Output) (reads : Bool) (body : Command) : Act Octets := do
  let content ← if reads then do
      let before := (← process).outputStatus
      let content ← output body
      modifyProcess fun process => { process with outputStatus := before }
      pure content
    else pure []
  let place ← newChannel (.ofContent (Octets.toBytes content))
  let used := (← process).descriptors.map (·.1)
  let descriptor := ((List.range firstPassage).find? fun n =>
    !used.contains (firstPassage - n)).map (firstPassage - ·)
  let descriptor := descriptor.getD firstPassage
  connect descriptor (some place)
  modifyProcess fun process =>
    { process with
      passages := descriptor :: process.passages
      readers := if reads then process.readers else (place, body) :: process.readers }
  return "/dev/fd/".toList ++ Octets.ofNat descriptor

/-- The pieces that a word makes up, nested at most `fuel` deep. -/
def glyphs (output : Output) : (fuel : Nat) → (fields : Bool) → Word → Act (List Glyph)
  | 0, _, _ => return []
  | fuel + 1, fields, word => do
      let nested := glyphs output fuel
      let pieces ← word.mapM fun (part : Part) => do
        match part with
        | .literal text => return Glyph.ofText .literal text
        | .quoted text => return Glyph.ofQuoted text
        | .parameter name subscript use quoted =>
            let subscript ← match subscript with
              | some index => do pure (some (Glyph.text (← nested false index)))
              | none => pure none
            parameter ⟨nested, fields, quoted, ← separators⟩ name subscript use
        | .output body quoted =>
            let text := Octets.dropFeeds ((← output body).filter (· ≠ '\x00'))
            return if quoted then Glyph.ofQuoted text else Glyph.ofText .expanded text
        | .value expression quoted =>
            let written := Glyph.text (← nested false expression)
            let text := Arithmetic.digits (← Arithmetic.value written)
            return if quoted then Glyph.ofQuoted text else Glyph.ofText .expanded text
        | .passage reads body => return Glyph.ofText .literal (← passagePath output reads body)
      return pieces.flatten

def depth : Nat := 1000

def text (output : Output) (word : Word) : Act Octets := do
  return Glyph.text (← glyphs output depth false (← withoutTilde word))

/-- A word as a pattern; the flag says that it may have groups whatever has been chosen. -/
def pattern (output : Output) (groups : Bool) (word : Word) : Act Pattern := do
  let groups := groups || ((← isExtended) && (← isChosen "extglob"))
  let marks := Glyph.marks (← glyphs output depth false (← withoutTilde word))
  let found := Pattern.ofMarks groups marks
  return if ← isChosen "nocasematch" then found.caseless Pattern.groupDepth else found

/-- How fields give way to the names of files. -/
def globbing : Act Field.Globbing := do
  let extended ← isExtended
  let chosen (name : String) : Act Bool := do return extended && (← isChosen name)
  return {
    namesDots := !extended || !(← isChosen "globskipdots")
    groups := ← chosen "extglob"
    showsHidden := ← chosen "dotglob"
    caseless := ← chosen "nocaseglob"
    recurses := ← chosen "globstar" }

/-- What becomes of a pattern that no file matches. -/
def unmatched (field : Field) : Act (List Octets) := do
  let text := Field.text field
  if ← isExtended then
    if ← isChosen "failglob" then discardWith ("no match: ".toList ++ text) 1
    if ← isChosen "nullglob" then return []
  return [text]

def arguments (output : Output) (word : Word) : Act (List Octets) := do
  let words := if (← isExtended) && (← isSet 'B') then Braces.words word else [word]
  let texts ← words.mapM fun word => do
    let glyphs ← glyphs output depth true (← withoutTilde word)
    let fields := Field.ofGlyphs (← separators) glyphs
    if ← isSet 'f' then return fields.map Field.text
    let globbing ← globbing
    let found ← fields.mapM fun field => do
      match Field.paths? (← tree) globbing field with
      | none => return [Field.text field]
      | some [] => unmatched field
      | some paths => return paths
    return found.flatten
  return texts.flatten

def allArguments (output : Output) (words : List Word) : Act (List Octets) :=
  return (← words.mapM (arguments output)).flatten

/-- The value that a word gives to a variable; a tilde may also follow a colon. -/
def assigned (output : Output) (word : Word) : Act Octets := do
  return Glyph.text (← glyphs output depth false (← withoutTildes true word))

end BlockExtension.Shell.Expansion
