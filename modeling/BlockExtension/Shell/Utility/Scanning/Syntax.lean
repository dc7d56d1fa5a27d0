import BlockExtension.Shell.Regex

/-!
# Programs of the pattern scanner

A program of the pattern scanner goes through its inputs record by record. It is
made of rules, each a pattern and an action, and of functions. Actions are
statements, and statements are made of expressions.
-/

namespace BlockExtension.Shell.Utility.Scanning

/-- Where a value is kept that has a name. -/
inductive Place where
  | global (name : Octets)
  | parameter (index : Nat)
  deriving DecidableEq, Repr

/-- An operation on two numbers. -/
inductive Operation where
  | plus
  | minus
  | times
  | quotient
  | remainder
  | power
  deriving DecidableEq, Repr

/-- A comparison. -/
inductive Relation where
  | equal
  | unequal
  | less
  | lessOrEqual
  | greater
  | greaterOrEqual
  deriving DecidableEq, Repr

mutual

/-- An expression. -/
inductive Expr where
  | number (value : Float)
  | text (octets : Octets)
  | pattern (source : Octets) (regex : Regex)
  | name (place : Place)
  /-- An expression in parentheses, to which nothing can be assigned. -/
  | group (body : Expr)
  | element (table : Place) (subscripts : List Expr)
  | field (index : Expr)
  /-- The target becomes the value, or its own value changed by it. -/
  | assign (operation : Option Operation) (target value : Expr)
  | choice (condition first second : Expr)
  | both (first second : Expr)
  | either (first second : Expr)
  | negation (body : Expr)
  | isIn (subscripts : List Expr) (table : Place)
  | matching (wanted : Bool) (text pattern : Expr)
  | compared (relation : Relation) (first second : Expr)
  | joined (first second : Expr)
  | binary (operation : Operation) (first second : Expr)
  | sign (minus : Bool) (body : Expr)
  /-- The target goes up or down by one; the value is the one before or behind that. -/
  | step (up before : Bool) (target : Expr)
  | builtin (name : String) (arguments : List Expr)
  | call (name : Octets) (arguments : List Expr)
  | input (source : Source) (target : Option Expr)

/-- Where a record is read from. -/
inductive Source where
  | main
  | file (name : Expr)
  | command (text : Expr)

end

/-- Where something is written to. -/
inductive Target where
  | output
  | file (appends : Bool) (name : Expr)
  | command (text : Expr)

/-- A statement. -/
inductive Statement where
  | nothing
  | expression (body : Expr)
  | print (values : List Expr) (target : Target)
  | format (values : List Expr) (target : Target)
  | sequence (first second : Statement)
  | branch (condition : Expr) (consequence alternative : Statement)
  /-- The body runs as long as the condition holds; the step runs behind each round. -/
  | loop (condition : Option Expr) (body step : Statement)
  /-- The body runs once before the condition is looked at. -/
  | again (body : Statement) (condition : Expr)
  | each (target : Expr) (table : Place) (body : Statement)
  | leave
  | resume
  | nextRecord
  | nextFile
  | exit (status : Option Expr)
  | back (value : Option Expr)
  | delete (table : Place) (subscripts : Option (List Expr))

/-- When the action of a rule runs. -/
inductive Pattern where
  | start
  | finish
  | always
  | condition (test : Expr)
  /-- From a record that meets the first test up to one that meets the second. -/
  | range (first last : Expr)

/-- A rule. -/
structure Rule where
  pattern : Pattern
  action : Statement

/-- A function: how many parameters it has, and its body. -/
structure Function where
  parameters : Nat
  body : Statement

/-- A program. -/
structure Script where
  rules : List Rule
  functions : List (Octets × Function)

namespace Script

def starts (script : Script) : List Statement :=
  script.rules.filterMap fun rule => match rule.pattern with
    | .start => some rule.action
    | _ => none

/-- The actions of rules that run at the end. -/
def finishes (script : Script) : List Statement :=
  script.rules.filterMap fun rule => match rule.pattern with
    | .finish => some rule.action
    | _ => none

def recordRules (script : Script) : List Rule :=
  script.rules.filter fun rule => match rule.pattern with
    | .start => false
    | .finish => false
    | _ => true

end Script

end BlockExtension.Shell.Utility.Scanning
