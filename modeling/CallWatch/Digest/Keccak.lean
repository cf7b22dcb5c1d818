import CallWatch.Word

/-!
# Keccak-256

The sponge over 25 lanes of 64 bits with a rate of 136 bytes and the padding `0x01 … 0x80`.  The
lane at column `x` and row `y` has the index `x + 5 * y`.
-/

namespace CallWatch.Keccak

/-- The 25 lanes. -/
abbrev Lanes := Vector UInt64 25

/-- Rotates a lane to the left by `n` bits, for `n < 64`. -/
def rotate (a : UInt64) (n : UInt64) : UInt64 :=
  if n = 0 then a else (a <<< n) ||| (a >>> (64 - n))

/-- The constants that break the symmetry of the rounds, one a round. -/
def roundConstants : List UInt64 :=
  [0x0000000000000001, 0x0000000000008082, 0x800000000000808A, 0x8000000080008000,
    0x000000000000808B, 0x0000000080000001, 0x8000000080008081, 0x8000000000008009,
    0x000000000000008A, 0x0000000000000088, 0x0000000080008009, 0x000000008000000A,
    0x000000008000808B, 0x800000000000008B, 0x8000000000008089, 0x8000000000008003,
    0x8000000000008002, 0x8000000000000080, 0x000000000000800A, 0x800000008000000A,
    0x8000000080008081, 0x8000000000008080, 0x0000000080000001, 0x8000000080008008]

/-- How far each lane is rotated. -/
def rotations : Vector UInt64 25 :=
  #v[0, 1, 62, 28, 27, 36, 44, 6, 55, 20, 3, 10, 43, 25, 39, 41, 45, 15, 21, 8, 18, 2, 61, 56, 14]

/-- The lane at column `x` and row `y`, both taken modulo 5. -/
def lane (s : Lanes) (x y : Nat) : UInt64 :=
  s[x % 5 + 5 * (y % 5)]

/-- The parity of each column. -/
def parities (s : Lanes) : Vector UInt64 5 :=
  Vector.ofFn fun x =>
    lane s x 0 ^^^ lane s x 1 ^^^ lane s x 2 ^^^ lane s x 3 ^^^ lane s x 4

/-- Adds to each lane the parities of two neighbouring columns. -/
def mixColumns (s : Lanes) : Lanes :=
  let columns := parities s
  let mixed : Vector UInt64 5 := Vector.ofFn fun x =>
    columns[(x.val + 4) % 5] ^^^ rotate columns[(x.val + 1) % 5] 1
  Vector.ofFn fun i => s[i] ^^^ mixed[i.val % 5]

/-- Rotates every lane and moves it to its next place. -/
def scatter (s : Lanes) : Lanes :=
  Vector.ofFn fun i =>
    let j := (i.val % 5 + 3 * (i.val / 5)) % 5 + 5 * (i.val % 5)
    rotate s[j] rotations[j]

/-- Combines each lane with the next two of its row. -/
def mixRows (s : Lanes) : Lanes :=
  Vector.ofFn fun i =>
    let x := i.val % 5
    let y := i.val / 5
    s[i] ^^^ (~~~(lane s (x + 1) y) &&& lane s (x + 2) y)

/-- One round. -/
def round (s : Lanes) (constant : UInt64) : Lanes :=
  let t := mixRows (scatter (mixColumns s))
  t.set 0 (t[0] ^^^ constant)

/-- The permutation of the sponge. -/
def permute (s : Lanes) : Lanes :=
  roundConstants.foldl round s

/-- The number of bytes absorbed at a time. -/
def rate : Nat := 136

/-- Fills the message up to a whole number of blocks. -/
def pad (message : Bytes) : Bytes :=
  let missing := rate - message.length % rate
  -- the first and the last byte of the padding may be the same one
  if missing = 1 then message ++ [0x81]
  else message ++ 0x01 :: List.replicate (missing - 2) 0x00 ++ [0x80]

/-- The lane that eight bytes spell, least significant first. -/
def littleEndian (b : Bytes) : UInt64 :=
  b.foldr (fun x n => (n <<< 8) ||| x.toUInt64) 0

/-- Adds a block to the first lanes and permutes. -/
def absorb (s : Lanes) (block : Bytes) : Lanes :=
  let words := (Bytes.chunks 8 (rate / 8) block).toArray.map littleEndian
  permute (Vector.ofFn fun i => s[i] ^^^ words.getD i 0)

/-- The eight bytes of a lane, least significant first. -/
def laneBytes (a : UInt64) : Bytes :=
  (Bytes.ofNat 8 a.toNat).reverse

/-- The 32 bytes of the digest. -/
def digest (message : Bytes) : Bytes :=
  let s := (Bytes.chunks rate (message.length / rate + 1) (pad message)).foldl absorb
    (Vector.replicate 25 0)
  [s[0], s[1], s[2], s[3]].flatMap laneBytes

end CallWatch.Keccak

namespace CallWatch

/-- The Keccak-256 digest of a message, as a word. -/
def keccak (message : Bytes) : Word :=
  Word.ofBytes (Keccak.digest message)

end CallWatch
