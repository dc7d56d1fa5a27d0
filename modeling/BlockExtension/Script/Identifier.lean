/-!
# Identifiers

The names that configurations may use: ASCII letters, digits, `_` and `$`, with
no digit in front. This is a subset of what the emitted script accepts as a
name, and it is the same class that placeholders are made of.

## Main results

* `isIdentifierPart_of_isIdentifierStart`: what may start a name may continue it.
* `isIdentifierText_append`: a name stays one when parts are added at its end.
-/

namespace BlockExtension.Script

def isIdentifierStart (c : Char) : Bool := c.isAlpha || c = '_' || c = '$'

def isIdentifierPart (c : Char) : Bool := isIdentifierStart c || c.isDigit

/-- A text that is an identifier from its first character to its last. -/
def isIdentifierText : List Char → Bool
  | [] => false
  | first :: rest => isIdentifierStart first && rest.all isIdentifierPart

/-- A string that is an identifier from its first character to its last. -/
def isIdentifier (text : String) : Bool := isIdentifierText text.toList

theorem isIdentifierPart_of_isIdentifierStart {c : Char} (h : isIdentifierStart c) :
    isIdentifierPart c := by
  simp [isIdentifierPart, h]

/-- An identifier stays one when identifier characters are added at its end. -/
theorem isIdentifierText_append {name more : List Char} (h : isIdentifierText name)
    (hMore : more.all isIdentifierPart) : isIdentifierText (name ++ more) := by
  cases name with
  | nil => cases h
  | cons first rest =>
      simp only [isIdentifierText, Bool.and_eq_true, List.cons_append, List.all_append] at h ⊢
      exact ⟨h.1, h.2, hMore⟩

end BlockExtension.Script
