/-!
# Code templates

The code of an operation once its placeholders are bound: stretches of literal
code and, between them, the identifiers of arguments. A template is written in
two ways. `interpolated` shows every identifier as a substitution and leaves the
literal code as it is; it is for readers. `literalBody` is the text between the
back quotes of a template literal of the emitted script, so the literal code is
escaped in it: a backslash, a back quote and a `$` before a brace each get a
backslash in front.
-/

namespace BlockExtension

/-- A stretch of a code template. -/
inductive CodeSegment where
  | literal (text : String)
  | argument (id : String)
  deriving DecidableEq, Repr

/-- Code whose placeholders are bound to identifiers. -/
structure CodeTemplate where
  segments : List CodeSegment
  deriving DecidableEq, Repr

namespace CodeTemplate

def substitution (id : String) : String := "$\x7b" ++ id ++ "\x7d"

/--
Literal code as it stands between the back quotes of a template literal. A `$` is left alone
unless a brace follows it.
-/
def escape : List Char → List Char
  | [] => []
  | '\\' :: rest => '\\' :: '\\' :: escape rest
  | '\x60' :: rest => '\\' :: '\x60' :: escape rest
  | '$' :: '\x7b' :: rest => '\\' :: '$' :: '\x7b' :: escape rest
  | c :: rest => c :: escape rest

/-- The template with every identifier shown as a substitution. -/
def interpolated (template : CodeTemplate) : String :=
  String.join (template.segments.map fun
    | .literal text => text
    | .argument id => substitution id)

def literalBody (template : CodeTemplate) : String :=
  String.join (template.segments.map fun
    | .literal text => String.ofList (escape text.toList)
    | .argument id => substitution id)

/-- The template holds no code at all. -/
def isEmpty (template : CodeTemplate) : Bool :=
  template.segments.all fun
    | .literal text => text.isEmpty
    | .argument _ => false

end CodeTemplate

end BlockExtension
