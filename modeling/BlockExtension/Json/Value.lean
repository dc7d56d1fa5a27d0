import BlockExtension.Association
import BlockExtension.Decimal.Double

/-!
# JSON values

A document as a tree. Numbers keep apart what the text kept apart: an integer
that fits 64 bits is an integer, every other number is a double. The fields of
an object stand in the order in which their keys first appeared, and a key that
is written again keeps its place and takes the new value (`settle`).
-/

namespace BlockExtension

/-- A JSON number. -/
inductive Json.Number where
  | integer (value : Int)
  | double (value : Decimal.Double)
  deriving DecidableEq, Repr

/-- A JSON value. -/
inductive Json where
  | null
  | bool (value : Bool)
  | number (value : Json.Number)
  | string (value : String)
  | array (items : List Json)
  | object (fields : List (String × Json))
  deriving Repr

namespace Json

/-! ## Views -/

/-- The value of a field of an object; nothing for any other value. -/
def field? (value : Json) (key : String) : Option Json :=
  match value with
  | .object fields => fields.lookup key
  | _ => none

/-- The text of a string; nothing for any other value. -/
def string? : Json → Option String
  | .string value => some value
  | _ => none

/-! ## Keys that are written again -/

mutual

/--
A document with one field for each key, where the last one written of them counts. The field
keeps the place of the first one.
-/
def settle : Json → Json
  | .array items => .array (settleItems items)
  | .object fields => .object (Association.putAll (settleFields fields))
  | .null => .null
  | .bool value => .bool value
  | .number value => .number value
  | .string value => .string value

def settleItems : List Json → List Json
  | [] => []
  | item :: rest => settle item :: settleItems rest

def settleFields : List (String × Json) → List (String × Json)
  | [] => []
  | (key, value) :: rest => (key, settle value) :: settleFields rest

end

end Json

end BlockExtension
