/-!
# Blank characters and trimming

Which characters count as blank, and what is left of a text once the blank
characters at its ends are gone. The class is Unicode's `White_Space` property,
which is wider than the ASCII class of `Char.isWhitespace`: it has the next-line
control, the no-break space, the typographic spaces and the two separators, and
it lacks the zero-width space and the byte-order mark.
-/

namespace BlockExtension.Text

/-- The ranges of the `White_Space` property, in ascending order. -/
def blankRanges : List (Nat × Nat) :=
  [(0x9, 0xD), (0x20, 0x20), (0x85, 0x85), (0xA0, 0xA0), (0x1680, 0x1680),
   (0x2000, 0x200A), (0x2028, 0x2029), (0x202F, 0x202F), (0x205F, 0x205F),
   (0x3000, 0x3000)]

/-- A character with the `White_Space` property. -/
def isBlank (c : Char) : Bool :=
  blankRanges.any fun range => range.1 ≤ c.toNat && c.toNat ≤ range.2

def trimStart (text : List Char) : List Char := text.dropWhile isBlank

/-- The text without the blank characters at its end. -/
def trimEnd (text : List Char) : List Char :=
  (text.reverse.dropWhile isBlank).reverse

/-- The text without the blank characters at either end. -/
def trim (text : List Char) : List Char := trimEnd (trimStart text)

end BlockExtension.Text
