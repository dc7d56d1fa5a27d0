import BlockExtension.Shell.Machine
import BlockExtension.Shell.Variable

/-!
# Options of programs

How a program that is no part of the shell takes its arguments apart. Options
are letters behind a hyphen or words behind two; a word may be cut short as long
as it stays clear which one is meant. Options may stand between operands, unless
the operands are themselves a command.
-/

namespace BlockExtension.Shell.Utility

open Act
open Quotation (unprintable escapedOctet)

/-! ## Complaints of programs -/

def quoted (text : Octets) : Octets :=
  '\'' :: (text.flatMap fun c =>
    if c = '\'' || c = '\\' then ['\\', c]
    else if c = '\n' then ['\\', 'n']
    else if c = '\t' then ['\\', 't']
    else if c < ' ' || '\x7f' ≤ c then
      '\\' :: [c.toNat / 64, c.toNat / 8 % 8, c.toNat % 8].flatMap Octets.ofNat
    else [c]) ++ ['\'']

/-- A character that a name may hold without being put in quotation marks. -/
def isPlain (isFirst isOnly : Bool) (c : Char) : Bool :=
  match c with
  | '\x7b' => !isOnly
  | '\x7d' => !isOnly
  | '#' => !isFirst
  | '~' => !isFirst
  | c => !(" !\"$&()*;<=>[^\x60|?'\\".toList.contains c) && ' ' < c && c < '\x7f'

/-- The stretches of a name in quotation marks; `inside` says of which kind the last one is. -/
def quotedStretches : (inside : Bool) → Octets → Octets
  | false, [] => ['\'']
  | true, [] => ['\'']
  | false, c :: rest =>
      if unprintable c then "'$'".toList ++ escapedOctet c ++ quotedStretches true rest
      else if c = '\'' then "'\\''".toList ++ quotedStretches false rest
      else c :: quotedStretches false rest
  | true, c :: rest =>
      if unprintable c then escapedOctet c ++ quotedStretches true rest
      else if c = '\'' then "''\\''".toList ++ quotedStretches false rest
      else "''".toList ++ c :: quotedStretches false rest

/-- A name as complaints put it: in quotation marks if a shell would not take it as it is. -/
def named (name : Octets) : Octets :=
  let plain := match name with
    | [] => false
    | first :: rest =>
        isPlain true rest.isEmpty first && rest.all (isPlain false false)
  if plain then name
  else if name.contains '\'' && !name.any fun c =>
      unprintable c || ['"', '$', '\x60', '\\', '!'].contains c then
    '"' :: name ++ ['"']
  else '\'' :: quotedStretches false name

/-- Says that something is wrong, in the name of a program. -/
def complainAs (self text : Octets) : Act Unit := do
  report (self ++ ':' :: ' ' :: text ++ ['\n'])

def pointToHelp (self : Octets) : Act Unit := do
  report ("Try '".toList ++ self ++ " --help' for more information.\n".toList)

/-- Says of a file why something could not be done with it. -/
def complainOf (self name : Octets) (error : Files.OsError) : Act Unit := do
  complainAs self (named name ++ (": " ++ error.wording).toList)

/-! ## Taking arguments apart -/

/-- Whether a value comes with an option. -/
inductive Takes where
  | nothing
  | value
  | perhaps
  deriving DecidableEq, Repr

/-- An option that a program knows: a word, and perhaps a letter for it. -/
structure OptionRule where
  word : String
  letter : Option Char
  takes : Takes
  deriving DecidableEq, Repr

def switch (word : String) (letter : Char) : OptionRule := ⟨word, some letter, .nothing⟩

def setting (word : String) (letter : Char) : OptionRule := ⟨word, some letter, .value⟩

/-- An option that was given: the word for it, and its value. -/
structure GivenOption where
  word : String
  value : Option Octets
  deriving DecidableEq, Repr

/-- The arguments of a program, taken apart. -/
structure Invocation where
  options : List GivenOption
  operands : List Octets
  deriving DecidableEq, Repr

namespace Invocation

def has (invocation : Invocation) (word : String) : Bool :=
  invocation.options.any (·.word = word)

def value? (invocation : Invocation) (word : String) : Option Octets :=
  (invocation.options.filter (·.word = word)).getLast?.bind (·.value)

def values (invocation : Invocation) (word : String) : List Octets :=
  (invocation.options.filter (·.word = word)).filterMap (·.value)

end Invocation

def meanings (rules : List OptionRule) (word : String) : List OptionRule :=
  match rules.filter (·.word = word) with
  | [] => rules.filter (·.word.startsWith word)
  | exact => exact

/-- The options in some letters behind a hyphen; true if the next argument belongs to them. -/
def letters (rules : List OptionRule) :
    Octets → Except Octets (List GivenOption × Option OptionRule)
  | [] => .ok ([], none)
  | c :: rest =>
      match rules.find? (·.letter = some c) with
      | none => .error ("invalid option -- '".toList ++ [c, '\''])
      | some rule =>
          match rule.takes with
          | .nothing =>
              match letters rules rest with
              | .error text => .error text
              | .ok (given, open?) => .ok (⟨rule.word, none⟩ :: given, open?)
          | .perhaps => .ok ([⟨rule.word, if rest.isEmpty then none else some rest⟩], none)
          | .value =>
              if rest.isEmpty then .ok ([], some rule)
              else .ok ([⟨rule.word, some rest⟩], none)

def withOption (given : GivenOption) (invocation : Invocation) : Invocation :=
  { invocation with options := given :: invocation.options }

/-- Takes arguments apart; `permutes` says that options may stand behind operands. -/
def takeApart (rules : List OptionRule) (permutes : Bool) :
    (fuel : Nat) → List Octets → Except Octets Invocation
  | 0, _ => .ok ⟨[], []⟩
  | _, [] => .ok ⟨[], []⟩
  | fuel + 1, argument :: rest =>
      match argument with
      | ['-', '-'] => .ok ⟨[], rest⟩
      | '-' :: '-' :: long => do
          let (word, value) := long.span (· ≠ '=')
          let text := String.ofList word
          let shown := "option '--".toList
          match meanings rules text with
          | [] => .error ("unrecognized ".toList ++ "option '".toList ++ argument ++ ['\''])
          | [rule] =>
              let name := rule.word.toList
              match rule.takes, value with
              | .nothing, [] =>
                  return withOption ⟨rule.word, none⟩ (← takeApart rules permutes fuel rest)
              | .nothing, _ => .error (shown ++ name ++ "' doesn't allow an argument".toList)
              | .perhaps, [] =>
                  return withOption ⟨rule.word, none⟩ (← takeApart rules permutes fuel rest)
              | .value, [] =>
                  match rest with
                  | [] => .error (shown ++ name ++ "' requires an argument".toList)
                  | value :: rest =>
                      return withOption ⟨rule.word, some value⟩
                        (← takeApart rules permutes fuel rest)
              | _, _ :: value =>
                  return withOption ⟨rule.word, some value⟩
                    (← takeApart rules permutes fuel rest)
          | several =>
              .error (shown ++ word ++ "' is ambiguous; possibilities:".toList ++
                several.flatMap fun rule => " '--".toList ++ rule.word.toList ++ ['\''])
      | '-' :: c :: more => do
          let (given, open?) ← letters rules (c :: more)
          let behind (given : List GivenOption) (rest : List Octets) : Except Octets Invocation :=
            do
              let found ← takeApart rules permutes fuel rest
              return { found with options := given ++ found.options }
          match open? with
          | none => behind given rest
          | some rule =>
              match rest with
              | [] =>
                  .error ("option requires an argument -- '".toList ++ rule.letter.toList ++
                    ['\''])
              | value :: rest =>
                  let before := (letters rules ((c :: more).dropLast)).toOption
                  let given := (before.map (·.1)).getD []
                  behind (given ++ [⟨rule.word, some value⟩]) rest
      | operand =>
          if permutes then do
            let found ← takeApart rules permutes fuel rest
            return { found with operands := operand :: found.operands }
          else .ok ⟨[], operand :: rest⟩

/-! ## Values of options -/

/--
The word of some that a text, which may be cut short, stands for: the first of
those that mean the same.
-/
def chosen? (words : List (List String)) (text : Octets) : Option String :=
  let text := String.ofList text
  match words.find? (·.contains text) with
  | some group => group.head?
  | none =>
      match words.filter (·.any (·.startsWith text)) with
      | [group] => group.head?
      | _ => none

/-- Says that a value of an option is not one of some words, and which those are. -/
def sayChoices (self : Octets) (kind option : String) (words : List (List String))
    (text : Octets) : Act Unit := do
  complainAs self (kind.toList ++ " argument ".toList ++ quoted text ++ " for '".toList ++
    option.toList ++ ['\''])
  report "Valid arguments are:\n".toList
  words.forM fun group =>
    report ("  - ".toList ++
      Octets.joined ", ".toList (group.map fun word => quoted word.toList) ++ ['\n'])

/-- Says that a value of an option is not one of some words, and where help is to be had. -/
def refuseChoice (self : Octets) (kind option : String) (words : List (List String))
    (text : Octets) : Act Unit := do
  sayChoices self kind option words text
  pointToHelp self

/-- Says which words, perhaps cut short, an option may have as its value. -/
def complainOfChoice (self : Octets) (option : String) (words : List (List String))
    (text : Octets) : Act Unit := do
  let isAmbiguous := 1 < words.countP (·.any (·.startsWith (String.ofList text)))
  refuseChoice self (if isAmbiguous then "ambiguous" else "invalid") option words text

/-- An argument with the name of an option before a number that stands by itself. -/
def spelledOut (option : String) (argument : Octets) : Octets :=
  match argument with
  | '-' :: c :: _ => if c.isDigit then option.toList ++ argument.drop 1 else argument
  | _ => argument

/-- Does something with the arguments of a program, or complains about them. -/
def withOptions (self : Octets) (rules : List OptionRule) (permutes : Bool) (failure : Nat)
    (arguments : List Octets) (act : Invocation → Act Nat) : Act Nat := do
  match takeApart rules permutes (arguments.length + 1) arguments with
  | .ok invocation => act invocation
  | .error text =>
      complainAs self text
      pointToHelp self
      return failure

end BlockExtension.Shell.Utility
