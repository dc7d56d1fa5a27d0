import BlockExtension.Text.Utf8

/-!
# Octets as text

What a shell works on is octets, of which most are meant as characters. Here an
octet is the character with its number, so that a list of characters can hold
octets that are no UTF-8, and a rule about the letter `a` can name it as a
character.
-/

namespace BlockExtension.Shell

abbrev Octets := List Char

namespace Octets

/-- Octets in the form that the shell works on. -/
def ofBytes (bytes : ByteArray) : Octets :=
  bytes.data.toList.map fun octet => Char.ofNat octet.toNat

def toBytes (octets : Octets) : ByteArray :=
  ⟨(octets.map fun c => UInt8.ofNat c.toNat).toArray⟩

private theorem ofNat_toNat_ofNat (octet : UInt8) :
    UInt8.ofNat (Char.ofNat octet.toNat).toNat = octet := by
  have hBound := octet.toNat_lt
  have hValid : octet.toNat.isValidChar := Or.inl (by omega)
  have hNat : (Char.ofNat octet.toNat).toNat = octet.toNat := by
    rw [Char.ofNat, dif_pos hValid]
    rfl
  rw [hNat, UInt8.ofNat_toNat]

def ofText (text : String) : Octets := ofBytes text.toUTF8

def toText (octets : Octets) : String := Text.Utf8.decodeLossily (toBytes octets)

def ofNat (n : Nat) : Octets := Nat.toDigits 10 n

/-- The decimal digits of a number, with its sign if it is below zero. -/
def ofInt (n : Int) : Octets := if n < 0 then '-' :: ofNat n.natAbs else ofNat n.natAbs

def isBlank (c : Char) : Bool := c = ' ' || c = '\t'

/-- Blanks, and the characters that end a line or a page. -/
def isSpace (c : Char) : Bool := c = ' ' || ('\t' ≤ c && c ≤ '\r')

def isNameStart (c : Char) : Bool := c.isAlpha || c = '_'

def isNamePart (c : Char) : Bool := isNameStart c || c.isDigit

def isName : Octets → Bool
  | [] => false
  | c :: rest => isNameStart c && rest.all isNamePart

def valueOf (digits : Octets) : Nat :=
  digits.foldl (fun total c => total * 10 + (c.toNat - '0'.toNat)) 0

def number? (text : Octets) : Option Nat :=
  if !text.isEmpty && text.all Char.isDigit then some (valueOf text) else none

/-- The pieces between the places where a character stands. -/
def cutAt (mark : Char) : Octets → List Octets
  | [] => [[]]
  | c :: rest =>
      if c = mark then [] :: cutAt mark rest
      else
        match cutAt mark rest with
        | [] => [[c]]
        | piece :: more => (c :: piece) :: more

/-- Pieces with a text between them. -/
def joined (between : Octets) : List Octets → Octets
  | [] => []
  | [piece] => piece
  | piece :: more => piece ++ between ++ joined between more

/-- The lines of a text, each without its line feed; none follows the last line feed. -/
def lines (text : Octets) : List Octets :=
  match text with
  | [] => []
  | text =>
      let pieces := cutAt '\n' text
      if pieces.getLast? = some [] then pieces.dropLast else pieces

/-- The lines of a text with the marks that end them; the last one may be without. -/
def keepingEnds (mark : Char) : Octets → List Octets
  | [] => []
  | c :: rest =>
      if c = mark then [c] :: keepingEnds mark rest
      else
        match keepingEnds mark rest with
        | [] => [[c]]
        | line :: more => (c :: line) :: more

def unlines (lines : List Octets) : Octets := lines.flatMap (· ++ ['\n'])

def dropFeeds (text : Octets) : Octets := (text.reverse.dropWhile (· = '\n')).reverse

/-- A text with blanks before it, as many as its width lacks. -/
def padLeft (width : Nat) (text : Octets) : Octets :=
  List.replicate (width - text.length) ' ' ++ text

/-- What is left of a text behind a start that it must have. -/
def behind? : (start text : Octets) → Option Octets
  | [], text => some text
  | _ :: _, [] => none
  | a :: start, b :: text => if a = b then behind? start text else none

/-- The order of octets, from the first that differs on. -/
def le : Octets → Octets → Bool
  | [], _ => true
  | _ :: _, [] => false
  | a :: left, b :: right => a < b || (a = b && le left right)

end Octets

end BlockExtension.Shell
