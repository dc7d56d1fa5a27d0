/-!
# Decoding octets

How a sequence of octets is cut into UTF-8 characters and faults. An octet that
cannot continue the character begun before it ends that character as a fault,
whose size is the number of octets that fitted, at least one; a sequence that
stops inside a character is cut short there.

One walk, `pieces`, serves both readers: `fault?` names the first fault, and
`decodeLossily` puts the replacement character in place of each.
-/

namespace BlockExtension.Text.Utf8

/-- What a decoder meets at one place of a sequence of octets. -/
inductive Piece where
  | char (c : Char)
  /-- Octets that start no character, and how many of them there are. -/
  | invalid (size : Nat)
  /-- The sequence ends inside a character begun here. -/
  | incomplete (size : Nat)
  deriving DecidableEq, Repr

/-- The number of octets that a piece spans. -/
def Piece.size : Piece → Nat
  | .char c => c.utf8Size
  | .invalid size => size
  | .incomplete size => size

private def isTail (octet : Nat) : Bool := 0x80 ≤ octet && octet ≤ 0xBF

private def isSecondOfThree (first second : Nat) : Bool :=
  if first = 0xE0 then 0xA0 ≤ second && second ≤ 0xBF
  else if first = 0xED then 0x80 ≤ second && second ≤ 0x9F
  else isTail second

private def isSecondOfFour (first second : Nat) : Bool :=
  if first = 0xF0 then 0x90 ≤ second && second ≤ 0xBF
  else if first = 0xF4 then 0x80 ≤ second && second ≤ 0x8F
  else isTail second

/--
The piece at the start of a sequence whose first octet is `first`. An octet that does not go
on the character that was begun is left to the next piece.
-/
def Piece.read (first : Nat) (rest : List Nat) : Piece :=
  if first < 0x80 then .char (Char.ofNat first)
  else if 0xC2 ≤ first && first ≤ 0xDF then
    match rest with
    | [] => .incomplete 1
    | a :: _ =>
        if isTail a then .char (Char.ofNat ((first - 0xC0) * 0x40 + (a - 0x80)))
        else .invalid 1
  else if 0xE0 ≤ first && first ≤ 0xEF then
    match rest with
    | [] => .incomplete 1
    | a :: rest =>
        if isSecondOfThree first a then
          match rest with
          | [] => .incomplete 2
          | b :: _ =>
              if isTail b then
                .char (Char.ofNat
                  (((first - 0xE0) * 0x40 + (a - 0x80)) * 0x40 + (b - 0x80)))
              else .invalid 2
        else .invalid 1
  else if 0xF0 ≤ first && first ≤ 0xF4 then
    match rest with
    | [] => .incomplete 1
    | a :: rest =>
        if isSecondOfFour first a then
          match rest with
          | [] => .incomplete 2
          | b :: rest =>
              if isTail b then
                match rest with
                | [] => .incomplete 3
                | c :: _ =>
                    if isTail c then
                      .char (Char.ofNat
                        ((((first - 0xF0) * 0x40 + (a - 0x80)) * 0x40 + (b - 0x80)) * 0x40
                          + (c - 0x80)))
                    else .invalid 3
              else .invalid 2
        else .invalid 1
  else .invalid 1

/-- The pieces of a sequence, after skipping the octets that belong to the piece before. -/
def piecesFrom : (skip : Nat) → List Nat → List Piece
  | _, [] => []
  | skip + 1, _ :: rest => piecesFrom skip rest
  | 0, first :: rest =>
      let piece := Piece.read first rest
      piece :: piecesFrom (piece.size - 1) rest

/-- A sequence of octets, cut into characters and faults. -/
def pieces (octets : List Nat) : List Piece := piecesFrom 0 octets

/-- The first place at which octets are not UTF-8. -/
inductive Fault where
  /-- `size` octets from `index` on start no character. -/
  | invalid (size index : Nat)
  /-- The octets end inside the character that begins at `index`. -/
  | incomplete (index : Nat)
  deriving DecidableEq, Repr

/-- The fault in words. -/
def Fault.message : Fault → String
  | .invalid size index => s!"invalid utf-8 sequence of {size} bytes from index {index}"
  | .incomplete index => s!"incomplete utf-8 byte sequence from index {index}"

/-- The first fault among pieces of which the first begins at `index`. -/
def firstFault (index : Nat) : List Piece → Option Fault
  | [] => none
  | .char c :: rest => firstFault (index + c.utf8Size) rest
  | .invalid size :: _ => some (.invalid size index)
  | .incomplete _ :: _ => some (.incomplete index)

def Piece.shown : Piece → Char
  | .char c => c
  | _ => '\uFFFD'

private def octetsOf (bytes : ByteArray) : List Nat := bytes.toList.map UInt8.toNat

def fault? (bytes : ByteArray) : Option Fault :=
  firstFault 0 (pieces (octetsOf bytes))

/-- The text of a byte array, with U+FFFD in place of each fault. -/
def decodeLossily (bytes : ByteArray) : String :=
  String.ofList ((pieces (octetsOf bytes)).map Piece.shown)

/-- The text of a byte array that is UTF-8 throughout. -/
def decode (bytes : ByteArray) : Except Fault String :=
  match fault? bytes with
  | some fault => .error fault
  | none => .ok (decodeLossily bytes)

end BlockExtension.Text.Utf8
