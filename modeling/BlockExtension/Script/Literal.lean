import BlockExtension.Association
import BlockExtension.Json.Writer
import BlockExtension.Script.Identifier

/-!
# Literals of the emitted script

A tree of object and array literals that may name things of the host. It has two
views. `render` is the script text, laid out with one entry on each line and a
comma after every entry, in which a reference stands as the path it is. `toJson`
is the document that the same tree stands for when nobody evaluates it; there a
reference is the text of its path.
-/

namespace BlockExtension.Script

/--
A literal of the emitted script. It is either written out or embedded: `reference` is a path
of the host, and `json` a document as it is.
-/
inductive Literal where
  | text (value : String)
  | flag (value : Bool)
  /-- A document that stands in the script as it is. -/
  | json (value : Json)
  /-- A path to something of the host, such as `Scratch.BlockType.COMMAND`. -/
  | reference (path : String)
  | record (fields : List (String × Literal))
  | sequence (items : List Literal)
  deriving Repr

/-- A string literal; the JSON form of a string is one in the script as well. -/
def quote (text : String) : String := Json.quote text

/-- `n` spaces. -/
def spaces (n : Nat) : String := "".pushn ' ' n

/-- A key as it stands in a literal: bare if it is an identifier. -/
def writeKey (key : String) : String := if isIdentifier key then key else quote key

/-- An entry on a line of its own, with the comma that follows it. -/
def entryLine (indent : Nat) (entry : String) : String :=
  spaces indent ++ entry ++ ",\n"

/-- A container around its entries, which stand two spaces deeper. -/
def enclose (opening closing : String) (indent : Nat) (entries : List String) : String :=
  if entries.isEmpty then opening ++ closing
  else
    opening ++ "\n" ++ String.join (entries.map (entryLine (indent + 2))) ++
      spaces indent ++ closing

namespace Literal

mutual

/--
The script text of a literal that starts `indent` spaces deep. The first line has no spaces
in front; that is up to what stands before it.
-/
def render (indent : Nat) : Literal → String
  | .text value => quote value
  | .flag true => "true"
  | .flag false => "false"
  | .json value => value.compact
  | .reference path => path
  | .record fields => enclose "\x7b" "\x7d" indent (renderFields (indent + 2) fields)
  | .sequence items => enclose "[" "]" indent (renderItems (indent + 2) items)

def renderFields (indent : Nat) : List (String × Literal) → List String
  | [] => []
  | (key, value) :: rest =>
      (writeKey key ++ ": " ++ render indent value) :: renderFields indent rest

def renderItems (indent : Nat) : List Literal → List String
  | [] => []
  | item :: rest => render indent item :: renderItems indent rest

end

mutual

/--
The document that a literal stands for. A reference becomes a string, and of fields with one
key the last counts.
-/
def toJson : Literal → Json
  | .text value => .string value
  | .flag value => .bool value
  | .json value => value
  | .reference path => .string path
  | .record fields => .object (Association.putAll (fieldsToJson fields))
  | .sequence items => .array (itemsToJson items)

def fieldsToJson : List (String × Literal) → List (String × Json)
  | [] => []
  | (key, value) :: rest => (key, toJson value) :: fieldsToJson rest

def itemsToJson : List Literal → List Json
  | [] => []
  | item :: rest => toJson item :: itemsToJson rest

end

end Literal

end BlockExtension.Script
