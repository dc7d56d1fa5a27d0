/-!
# Paths as texts

A path is a text of names between slashes. Two things are read off it: the names
that lead to what it names, and the text of the path of its directory.

For the second, an empty stretch between slashes and the name `.` say nothing,
except that a leading `.` stands for itself. So `x//y.js` is in `x`, `x/.` is in
the working directory as `x` is, and `./x` is in `.`.
-/

namespace BlockExtension.Files.Path

/-- The stretches between slashes, the empty ones included. -/
def splitSlash : List Char → List (List Char)
  | [] => [[]]
  | c :: rest =>
      if c = '/' then [] :: splitSlash rest
      else
        match splitSlash rest with
        | [] => [[c]]
        | part :: more => (c :: part) :: more

def joinSlash : List (List Char) → List Char
  | [] => []
  | [part] => part
  | part :: more => part ++ '/' :: joinSlash more

/-- The names of a path, in order; `.` and `..` are names like any other. -/
def names (path : String) : List String :=
  ((splitSlash path.toList).filter (!·.isEmpty)).map String.ofList

/-- The path starts at the root. -/
def isAbsolute (path : String) : Bool :=
  match path.toList with
  | '/' :: _ => true
  | _ => false

/-- The path ends in a slash, so it can name a directory only. -/
def endsInSlash (path : String) : Bool :=
  match path.toList.reverse with
  | '/' :: _ => true
  | _ => false

def saysNothing (part : List Char) : Bool := part.isEmpty || part = ['.']

/-- Without the stretches at the end that say nothing. -/
def dropSilent (parts : List (List Char)) : List (List Char) :=
  (parts.reverse.dropWhile saysNothing).reverse

/--
The path of the directory that a path is in; the root and the empty path are in none. It is
read off the text, whatever the names lead to.
-/
def parent? (path : String) : Option String :=
  match splitSlash path.toList with
  | [] => none
  | first :: rest =>
      match dropSilent rest with
      | [] => if first.isEmpty then none else some ""
      | kept =>
          let left := first :: dropSilent kept.dropLast
          some (String.ofList (if left = [[]] then ['/'] else joinSlash left))

def directory (path : String) : String :=
  match parent? path with
  | none => "."
  | some "" => "."
  | some parent => parent

/-- A text that the operating system takes for a path holds no NUL character. -/
def hasNul (path : String) : Bool := path.toList.contains '\x00'

def nameLimit : Nat := 255

def pathLimit : Nat := 4095

end BlockExtension.Files.Path
