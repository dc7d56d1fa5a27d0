import BlockExtension.Shell.Utility.Input

/-!
# Octets as letters and numbers

The programs that write what files hold as letters, or as numbers that tell them apart.
-/

/-!
## Octets as letters

The program that writes octets as letters of an alphabet of sixty-four and reads them back. A
letter stands for six bits; letters come in groups of four, and a group that is not full is filled
up with marks.
-/

namespace BlockExtension.Shell.Utility.Encoding

open Act

/-- A list in pieces of a size; the last one may be shorter. -/
def pieces {α : Type} (size : Nat) : (fuel : Nat) → List α → List (List α)
  | 0, _ => []
  | _, [] => []
  | fuel + 1, list => list.take size :: pieces size fuel (list.drop size)

def span (first last : Char) : List Char :=
  (List.range (last.toNat + 1 - first.toNat)).map fun n => Char.ofNat (first.toNat + n)

def alphabet : List Char := span 'A' 'Z' ++ span 'a' 'z' ++ span '0' '9' ++ ['+', '/']

def bitsOf (count n : Nat) : List Bool := (List.range count).reverse.map n.testBit

def numberOf (bits : List Bool) : Nat := bits.foldl (fun n bit => 2 * n + bit.toNat) 0

/-- Octets as letters, filled up with marks to whole groups. -/
def encoded (octets : Octets) : Octets :=
  let bits := octets.flatMap fun c => bitsOf 8 c.toNat
  let letters := (pieces 6 bits.length bits).map fun piece =>
    alphabet.getD (numberOf (piece ++ List.replicate (6 - piece.length) false)) '='
  letters ++ List.replicate ((4 - letters.length % 4) % 4) '='

def group? (text : Octets) : Octets × Bool :=
  let places := (text.map alphabet.idxOf?).takeWhile Option.isSome |>.filterMap id
  let bits := places.flatMap (bitsOf 6)
  let whole := (pieces 8 bits.length bits).filter (·.length = 8)
  (whole.map fun piece => Char.ofNat (numberOf piece),
    text.length = 4 && places.length * 6 % 8 < 6 && !places.isEmpty &&
      (text.drop places.length).all (· = '='))

/-- The octets of groups, up to the first that is not how octets are written. -/
def decoded : List Octets → Octets × Bool
  | [] => ([], true)
  | text :: rest =>
      match group? text with
      | (octets, false) => (octets, false)
      | (octets, true) =>
          let (more, isWhole) := decoded rest
          (octets ++ more, isWhole)

/-- A text in lines of a width; a width of nought is none. -/
def wrapped (width : Nat) (text : Octets) : Octets :=
  if width = 0 then text else Octets.unlines (pieces width text.length text)

/-- Writes octets as letters, or reads them. -/
def base64 : Program := fun self arguments =>
  let rules := [switch "decode" 'd', switch "ignore-garbage" 'i', setting "wrap" 'w']
  withOptions self rules true 1 arguments fun given => do
    let width? := match given.value? "wrap" with
      | none => some 76
      | some text => Octets.number? text
    let some width := width?
      | do
          complainAs self ("invalid wrap size: ".toList ++
            quoted ((given.value? "wrap").getD []))
          return 1
    if let _ :: extra :: _ := given.operands then return ← refuseExtra self extra
    let (text, all) ← readJoined self { plainVoice with unread := fun _ => "read error".toList }
      given.operands
    if !all then return 1
    if given.has "decode" then
      let letters := text.filter fun c =>
        c ≠ '\n' && (!given.has "ignore-garbage" || ('=' :: alphabet).contains c)
      let (octets, isWhole) := decoded (pieces 4 letters.length letters)
      put octets
      if isWhole then return 0
      complainAs self "invalid input".toList
      return 1
    finish (wrapped width (encoded text)) true

end BlockExtension.Shell.Utility.Encoding

/-!
## Checksums

The programs that tell files apart by numbers that are made of what they hold: the digests of two
families, and the remainder of a division of polynomials. For a digest a message is followed by
octets that make it a number of whole blocks, and a block is a number of words.
-/

namespace BlockExtension.Shell.Utility.Checksum

open Act
open Encoding (pieces)

/-! ### Octets and numbers -/

/-- The last octets of a number, the least significant first. -/
def littleEndian : (count : Nat) → Nat → Octets
  | 0, _ => []
  | count + 1, n => Char.ofNat (n % 256) :: littleEndian count (n / 256)

/-- The last octets of a number, the most significant first. -/
def bigEndian (count n : Nat) : Octets := (littleEndian count n).reverse

/-- The number that octets make, the most significant first. -/
def fromBigEndian (octets : Octets) : Nat := octets.foldl (fun n c => n * 256 + c.toNat) 0

/-- The number that octets make, the least significant first. -/
def fromLittleEndian (octets : Octets) : Nat := fromBigEndian octets.reverse

/-- The digits of octets to the base sixteen. -/
def hexadecimal (octets : Octets) : Octets :=
  let digit (n : Nat) : Char := Nat.digitChar (n % 16)
  octets.flatMap fun c => [digit (c.toNat / 16), digit c.toNat]

/-! ### Blocks -/

def wordsOf {w : Nat} (number : Octets → Nat) (block : Octets) : Array (BitVec w) :=
  ((pieces (w / 8) block.length block).map fun octets => BitVec.ofNat w (number octets)).toArray

/-- How many zeros are put between a message of a size and the octets of its length. -/
def zeros (block field size : Nat) : Nat := (block - (size + 1 + field) % block) % block

/-- A message with a mark, zeros, and the number of its bits in some octets behind it. -/
def padded (block : Nat) (lengthOctets : Nat → Octets) (message : Octets) : Octets :=
  let field := lengthOctets (message.length * 8)
  message ++ '\x80' :: List.replicate (zeros block field.length message.length) '\x00' ++ field

def blocks (block : Nat) (lengthOctets : Nat → Octets) (message : Octets) : List Octets :=
  let whole := padded block lengthOctets message
  pieces block (whole.length / block) whole

/-! ### Digests of five words and fewer -/

/-- The state of the digest of four words. -/
structure Four where
  a : BitVec 32
  b : BitVec 32
  c : BitVec 32
  d : BitVec 32

def sines : Array (BitVec 32) := #[
    0xd76aa478, 0xe8c7b756, 0x242070db, 0xc1bdceee, 0xf57c0faf, 0x4787c62a, 0xa8304613, 0xfd469501,
    0x698098d8, 0x8b44f7af, 0xffff5bb1, 0x895cd7be, 0x6b901122, 0xfd987193, 0xa679438e, 0x49b40821,
    0xf61e2562, 0xc040b340, 0x265e5a51, 0xe9b6c7aa, 0xd62f105d, 0x02441453, 0xd8a1e681, 0xe7d3fbc8,
    0x21e1cde6, 0xc33707d6, 0xf4d50d87, 0x455a14ed, 0xa9e3e905, 0xfcefa3f8, 0x676f02d9, 0x8d2a4c8a,
    0xfffa3942, 0x8771f681, 0x6d9d6122, 0xfde5380c, 0xa4beea44, 0x4bdecfa9, 0xf6bb4b60, 0xbebfbc70,
    0x289b7ec6, 0xeaa127fa, 0xd4ef3085, 0x04881d05, 0xd9d4d039, 0xe6db99e5, 0x1fa27cf8, 0xc4ac5665,
    0xf4292244, 0x432aff97, 0xab9423a7, 0xfc93a039, 0x655b59c3, 0x8f0ccc92, 0xffeff47d, 0x85845dd1,
    0x6fa87e4f, 0xfe2ce6e0, 0xa3014314, 0x4e0811a1, 0xf7537e82, 0xbd3af235, 0x2ad7d2bb, 0xeb86d391]

def distances : Array Nat := #[7, 12, 17, 22, 5, 9, 14, 20, 4, 11, 16, 23, 6, 10, 15, 21]

def Four.step (words : Array (BitVec 32)) (state : Four) (i : Nat) : Four :=
  let ⟨a, b, c, d⟩ := state
  let (mixed, place) := match i / 16 with
    | 0 => ((b &&& c) ||| (~~~b &&& d), i)
    | 1 => ((d &&& b) ||| (~~~d &&& c), 5 * i + 1)
    | 2 => (b ^^^ c ^^^ d, 3 * i + 5)
    | _ => (c ^^^ (b ||| ~~~d), 7 * i)
  let sum := a + mixed + (sines[i]?.getD 0) + (words[place % 16]?.getD 0)
  ⟨d, b + sum.rotateLeft (distances[i / 16 * 4 + i % 4]?.getD 0), b, c⟩

/-- The state behind a block. -/
def Four.behind (state : Four) (block : Octets) : Four :=
  let words := wordsOf fromLittleEndian block
  let last := (List.range 64).foldl (Four.step words) state
  ⟨state.a + last.a, state.b + last.b, state.c + last.c, state.d + last.d⟩

/-- The digest of four words. -/
def md5 (message : Octets) : Octets :=
  let start : Four := ⟨0x67452301, 0xefcdab89, 0x98badcfe, 0x10325476⟩
  let last := (blocks 64 (littleEndian 8) message).foldl Four.behind start
  [last.a, last.b, last.c, last.d].flatMap fun word => littleEndian 4 word.toNat

/-- The state of the digest of five words. -/
structure Five where
  a : BitVec 32
  b : BitVec 32
  c : BitVec 32
  d : BitVec 32
  e : BitVec 32

/-- The words of the steps: those of a block, and more that come of them. -/
def fiveSchedule (block : Octets) : Array (BitVec 32) :=
  (List.range 64).foldl (fun words i =>
    let back (distance : Nat) : BitVec 32 := words[i + 16 - distance]?.getD 0
    words.push ((back 3 ^^^ back 8 ^^^ back 14 ^^^ back 16).rotateLeft 1))
    (wordsOf fromBigEndian block)

def Five.step (words : Array (BitVec 32)) (state : Five) (i : Nat) : Five :=
  let ⟨a, b, c, d, e⟩ := state
  let (mixed, constant) : BitVec 32 × BitVec 32 := match i / 20 with
    | 0 => ((b &&& c) ||| (~~~b &&& d), 0x5a827999)
    | 1 => (b ^^^ c ^^^ d, 0x6ed9eba1)
    | 2 => ((b &&& c) ||| (b &&& d) ||| (c &&& d), 0x8f1bbcdc)
    | _ => (b ^^^ c ^^^ d, 0xca62c1d6)
  ⟨a.rotateLeft 5 + mixed + e + constant + (words[i]?.getD 0), a, b.rotateLeft 30, c, d⟩

/-- The state behind a block. -/
def Five.behind (state : Five) (block : Octets) : Five :=
  let last := (List.range 80).foldl (Five.step (fiveSchedule block)) state
  ⟨state.a + last.a, state.b + last.b, state.c + last.c, state.d + last.d, state.e + last.e⟩

/-- The digest of five words. -/
def sha1 (message : Octets) : Octets :=
  let start : Five := ⟨0x67452301, 0xefcdab89, 0x98badcfe, 0x10325476, 0xc3d2e1f0⟩
  let last := (blocks 64 (bigEndian 8) message).foldl Five.behind start
  [last.a, last.b, last.c, last.d, last.e].flatMap fun word => bigEndian 4 word.toNat

/-! ## Digests of eight words

The digests of this family differ in the size of their words, in what they start from, and in how
much of the last state they keep. Their constants are the first bits behind the point of roots of
the first prime numbers.
-/

def primes : List Nat :=
  (List.range 410).filter fun n => 2 ≤ n && (List.range n).all fun m => m < 2 || n % m ≠ 0

/-- The product of as many equal factors as a degree says. -/
def raised (base : Nat) : Nat → Nat
  | 0 => 1
  | degree + 1 => raised base degree * base

def root (degree n : Nat) : Nat :=
  (List.range 80).reverse.foldl (fun found bit =>
    let larger := found + 1 <<< bit
    if raised larger degree ≤ n then larger else found) 0

/-- The first 64 bits behind the point of the root of a number. -/
def fraction (degree n : Nat) : BitVec 64 := BitVec.ofNat 64 (root degree (n <<< (64 * degree)))

def cubes : Array (BitVec 64) := ((primes.take 80).map (fraction 3)).toArray

/-- What digests start from that keep all of the last state. -/
def squares : List (BitVec 64) := (primes.take 8).map (fraction 2)

/-- What digests start from that keep only a part of the last state. -/
def laterSquares : List (BitVec 64) := ((primes.drop 8).take 8).map (fraction 2)

/-- How the digests of the family differ. -/
structure Family (w : Nat) where
  rounds : Nat
  constant : Nat → BitVec w
  /-- The distances that words are rotated by, in the steps and for further words. -/
  major : Nat × Nat × Nat
  minor : Nat × Nat × Nat
  /-- Two distances to rotate by, and one to shift by. -/
  first : Nat × Nat × Nat
  second : Nat × Nat × Nat

/-- The digests of words of 32 bits. -/
def narrow : Family 32 :=
  ⟨64, fun i => ((cubes[i]?.getD 0) >>> 32).setWidth 32, (2, 13, 22), (6, 11, 25), (7, 18, 3),
    (17, 19, 10)⟩

def wide : Family 64 :=
  ⟨80, fun i => cubes[i]?.getD 0, (28, 34, 39), (14, 18, 41), (1, 8, 7), (19, 61, 6)⟩

/-- A word rotated by three distances. -/
def turned {w : Nat} (distances : Nat × Nat × Nat) (word : BitVec w) : BitVec w :=
  word.rotateRight distances.1 ^^^ word.rotateRight distances.2.1 ^^^
    word.rotateRight distances.2.2

/-- A word rotated by two distances and shifted by one. -/
def moved {w : Nat} (distances : Nat × Nat × Nat) (word : BitVec w) : BitVec w :=
  word.rotateRight distances.1 ^^^ word.rotateRight distances.2.1 ^^^ word >>> distances.2.2

/-- The words of the steps: those of a block, and more that come of them. -/
def Family.schedule {w : Nat} (family : Family w) (block : Octets) : Array (BitVec w) :=
  (List.range (family.rounds - 16)).foldl (fun words i =>
    let back (distance : Nat) : BitVec w := words[i + 16 - distance]?.getD 0
    words.push (moved family.second (back 2) + back 7 + moved family.first (back 15) + back 16))
    (wordsOf fromBigEndian block)

def Family.step {w : Nat} (family : Family w) (words : Array (BitVec w))
    (state : List (BitVec w)) (i : Nat) : List (BitVec w) :=
  match state with
  | [a, b, c, d, e, f, g, h] =>
      let sum := h + turned family.minor e + ((e &&& f) ^^^ (~~~e &&& g)) + family.constant i +
        (words[i]?.getD 0)
      let other := turned family.major a + ((a &&& b) ^^^ (a &&& c) ^^^ (b &&& c))
      [sum + other, a, b, c, d + sum, e, f, g]
  | state => state

/-- The state behind a block. -/
def Family.behind {w : Nat} (family : Family w) (state : List (BitVec w)) (block : Octets) :
    List (BitVec w) :=
  let words := family.schedule block
  List.zipWith (· + ·) state ((List.range family.rounds).foldl (family.step words) state)

/-- The digest of a message that starts from a state and keeps some octets of the last one. -/
def Family.digest {w : Nat} (family : Family w) (start : List (BitVec w)) (kept : Nat)
    (message : Octets) : Octets :=
  let last := (blocks (w * 2) (bigEndian (w / 4)) message).foldl family.behind start
  (last.flatMap fun word => bigEndian (w / 8) word.toNat).take kept

/-- The words of 32 bits at the start of longer ones. -/
def upper (words : List (BitVec 64)) : List (BitVec 32) :=
  words.map fun (word : BitVec 64) => (word >>> (32 : Nat)).setWidth 32

/-- The words of 32 bits at the end of longer ones. -/
def lower (words : List (BitVec 64)) : List (BitVec 32) := words.map (·.setWidth 32)

def sha224 : Octets → Octets := narrow.digest (lower laterSquares) 28

def sha256 : Octets → Octets := narrow.digest (upper squares) 32

def sha384 : Octets → Octets := wide.digest laterSquares 48

def sha512 : Octets → Octets := wide.digest squares 64

/-! ### The remainder of a division -/

/-- A remainder after one more bit, which is nought. -/
def shifted (remainder : BitVec 32) : BitVec 32 :=
  if remainder.msb then (remainder <<< 1) ^^^ 0x04c11db7 else remainder <<< 1

/-- A remainder after one more octet. -/
def divided (remainder : BitVec 32) (c : Char) : BitVec 32 :=
  (List.range 8).foldl (fun remainder _ => shifted remainder)
    (remainder ^^^ (BitVec.ofNat 32 c.toNat <<< 24))

def lengthOctets : (fuel : Nat) → Nat → Octets
  | 0, _ => []
  | fuel + 1, n => if n = 0 then [] else Char.ofNat (n % 256) :: lengthOctets fuel (n / 256)

/-- The remainder of a message with its length behind it, with all bits turned over. -/
def cyclic (message : Octets) : Nat :=
  (~~~(lengthOctets 8 message.length).foldl divided (message.foldl divided 0)).toNat

/-! ### The programs -/

/-- A name without the characters that would spoil a line, and whether it had some. -/
def escaped (name : Octets) : Octets × Bool :=
  (name.flatMap fun c =>
    match c with
    | '\\' => ['\\', '\\']
    | '\n' => ['\\', 'n']
    | '\r' => ['\\', 'r']
    | c => [c], name.any ['\\', '\n', '\r'].contains)

/-- The line for a file; `tag?` is the name of the digest where lines are marked with it. -/
def line (tag? : Option String) (isBinary : Bool) (lineEnd : Char) (digest : Octets → Octets)
    (name message : Octets) : Octets :=
  let shown := hexadecimal (digest message)
  let (safe, isEscaped) := if lineEnd = '\n' then escaped name else (name, false)
  let line := match tag? with
    | some tag => tag.toList ++ " (".toList ++ safe ++ ") = ".toList ++ shown
    | none => shown ++ ' ' :: (if isBinary then '*' else ' ') :: safe
  (if isEscaped then ['\\'] else []) ++ line ++ [lineEnd]

/-- Writes a line for each input. -/
def display (self : Octets) (line : (name message : Octets) → Octets) :
    List Octets → Act Bool
  | [] => return true
  | name :: rest => do
      let (inputs, all) ← readInputs self plainVoice [name]
      inputs.forM fun (_, message) => put (line name message)
      return (← display self line rest) && all

/-- Writes the digests of files. -/
def sumBy (tag : String) (digest : Octets → Octets) : Program := fun self arguments =>
  let rules := [switch "zero" 'z', ⟨"tag", none, .nothing⟩, switch "binary" 'b', switch "text" 't']
  withOptions self rules true 1 arguments fun given => do
    let last := (given.options.filter fun option => option.word ≠ "zero").getLast?.map (·.word)
    if given.has "tag" && last = some "text" then
      complainAs self "--tag does not support --text mode".toList
      pointToHelp self
      return 1
    let tag? := if given.has "tag" then some tag else none
    let lineEnd := if given.has "zero" then '\x00' else '\n'
    let all ← display self (line tag? (last = some "binary") lineEnd digest)
      (inputNames given.operands)
    return if all then 0 else 1

/-- Writes remainders and sizes of files. -/
def cksum : Program := fun self arguments =>
  withOptions self [] true 1 arguments fun given => do
    let line (name message : Octets) : Octets :=
      Octets.ofNat (cyclic message) ++ ' ' :: Octets.ofNat message.length ++
        (if given.operands.isEmpty then [] else ' ' :: name) ++ ['\n']
    let all ← display self line (inputNames given.operands)
    return if all then 0 else 1

def programs : List (String × Program) :=
  [("md5sum", sumBy "MD5" md5), ("sha1sum", sumBy "SHA1" sha1),
    ("sha224sum", sumBy "SHA224" sha224), ("sha256sum", sumBy "SHA256" sha256),
    ("sha384sum", sumBy "SHA384" sha384), ("sha512sum", sumBy "SHA512" sha512)]

end BlockExtension.Shell.Utility.Checksum
