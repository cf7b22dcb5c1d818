import CallWatch.Word

/-!
# RIPEMD-160

The 20-byte digest of a message in blocks of 64 bytes.  Two lines of eighty steps work on each
block, and their results are added crosswise.
-/

namespace CallWatch.Ripemd160

/-- Rotates a word to the left by `n` bits, for `0 < n < 32`. -/
def rotate (a : UInt32) (n : UInt32) : UInt32 :=
  (a <<< n) ||| (a >>> (32 - n))

/-- The five working words. -/
structure State where
  a : UInt32 := 0x67452301
  b : UInt32 := 0xefcdab89
  c : UInt32 := 0x98badcfe
  d : UInt32 := 0x10325476
  e : UInt32 := 0xc3d2e1f0

/-- The mixing function with this number, from 0 to 4. -/
def mix (number : Nat) (x y z : UInt32) : UInt32 :=
  match number with
  | 0 => x ^^^ y ^^^ z
  | 1 => (x &&& y) ||| (~~~x &&& z)
  | 2 => (x ||| ~~~y) ^^^ z
  | 3 => (x &&& z) ||| (y &&& ~~~z)
  | _ => x ^^^ (y ||| ~~~z)

/-- Sixteen steps of a line: what they share, and the word and rotation of each. -/
structure Round where
  /-- The number of the mixing function. -/
  mixing : Nat
  /-- The additive constant. -/
  constant : UInt32
  /-- Which word of the block each step takes. -/
  order : List Nat
  /-- How far each step rotates. -/
  shifts : List UInt32

/-- The rounds of the left line. -/
def leftLine : List Round :=
  [ ⟨0, 0x00000000, [0, 1, 2, 3, 4, 5, 6, 7, 8, 9, 10, 11, 12, 13, 14, 15],
      [11, 14, 15, 12, 5, 8, 7, 9, 11, 13, 14, 15, 6, 7, 9, 8]⟩,
    ⟨1, 0x5a827999, [7, 4, 13, 1, 10, 6, 15, 3, 12, 0, 9, 5, 2, 14, 11, 8],
      [7, 6, 8, 13, 11, 9, 7, 15, 7, 12, 15, 9, 11, 7, 13, 12]⟩,
    ⟨2, 0x6ed9eba1, [3, 10, 14, 4, 9, 15, 8, 1, 2, 7, 0, 6, 13, 11, 5, 12],
      [11, 13, 6, 7, 14, 9, 13, 15, 14, 8, 13, 6, 5, 12, 7, 5]⟩,
    ⟨3, 0x8f1bbcdc, [1, 9, 11, 10, 0, 8, 12, 4, 13, 3, 7, 15, 14, 5, 6, 2],
      [11, 12, 14, 15, 14, 15, 9, 8, 9, 14, 5, 6, 8, 6, 5, 12]⟩,
    ⟨4, 0xa953fd4e, [4, 0, 5, 9, 7, 12, 2, 10, 14, 1, 3, 8, 11, 6, 15, 13],
      [9, 15, 5, 11, 6, 8, 13, 12, 5, 12, 13, 14, 11, 8, 5, 6]⟩ ]

/-- The rounds of the right line. -/
def rightLine : List Round :=
  [ ⟨4, 0x50a28be6, [5, 14, 7, 0, 9, 2, 11, 4, 13, 6, 15, 8, 1, 10, 3, 12],
      [8, 9, 9, 11, 13, 15, 15, 5, 7, 7, 8, 11, 14, 14, 12, 6]⟩,
    ⟨3, 0x5c4dd124, [6, 11, 3, 7, 0, 13, 5, 10, 14, 15, 8, 12, 4, 9, 1, 2],
      [9, 13, 15, 7, 12, 8, 9, 11, 7, 7, 12, 7, 6, 15, 13, 11]⟩,
    ⟨2, 0x6d703ef3, [15, 5, 1, 3, 7, 14, 6, 9, 11, 8, 12, 2, 10, 0, 4, 13],
      [9, 7, 15, 11, 8, 6, 6, 14, 12, 13, 5, 14, 13, 13, 7, 5]⟩,
    ⟨1, 0x7a6d76e9, [8, 6, 4, 1, 3, 11, 15, 0, 5, 12, 2, 13, 9, 7, 10, 14],
      [15, 5, 8, 11, 14, 14, 6, 14, 6, 9, 12, 9, 12, 5, 15, 8]⟩,
    ⟨0, 0x00000000, [12, 15, 10, 4, 1, 5, 8, 7, 6, 2, 13, 14, 0, 3, 9, 11],
      [8, 5, 12, 9, 12, 5, 14, 6, 8, 13, 6, 5, 15, 13, 11, 11]⟩ ]

/-- One step of round `r` on the block word `x` with the rotation `shift`. -/
def step (r : Round) (s : State) (x shift : UInt32) : State :=
  let t := rotate (s.a + mix r.mixing s.b s.c s.d + x + r.constant) shift + s.e
  { a := s.e, b := t, c := s.b, d := rotate s.c 10, e := s.d }

/-- Runs a line of rounds over the words of a block. -/
def run (line : List Round) (words : Array UInt32) (s : State) : State :=
  line.foldl (fun s r =>
    (r.order.zip r.shifts).foldl (fun s p => step r s (words.getD p.1 0) p.2) s) s

/-- The word that four bytes spell, least significant first. -/
def word (b : Bytes) : UInt32 :=
  UInt32.ofNat (Bytes.toNat b.reverse)

/-- Works one block into the state. -/
def compress (s : State) (block : Bytes) : State :=
  let words := ((Bytes.chunks 4 16 block).map word).toArray
  let l := run leftLine words s
  let r := run rightLine words s
  { a := s.b + l.c + r.d, b := s.c + l.d + r.e, c := s.d + l.e + r.a
    d := s.e + l.a + r.b, e := s.a + l.b + r.c }

/-- Fills the message up to whole blocks; the last eight bytes hold its length in bits, least
significant first. -/
def pad (message : Bytes) : Bytes :=
  let zeros := (64 - (message.length + 9) % 64) % 64
  message ++ 0x80 :: List.replicate zeros 0x00 ++ (Bytes.ofNat 8 (8 * message.length)).reverse

/-- The 20 bytes of the digest. -/
def digest (message : Bytes) : Bytes :=
  let padded := pad message
  let s := (Bytes.chunks 64 (padded.length / 64) padded).foldl compress {}
  [s.a, s.b, s.c, s.d, s.e].flatMap fun w => (Bytes.ofNat 4 w.toNat).reverse

end CallWatch.Ripemd160
