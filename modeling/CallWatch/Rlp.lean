import CallWatch.Digest.Keccak

/-!
# Recursive length prefixes, and the address of a new contract

An item is a byte string or a list of items.  A single byte below `0x80` stands for itself; every
other item is its content behind a header that tells its kind and length.  Numbers are written as
byte strings without leading zeros, so that zero is the empty string.

`contractAddress` is the address that a creation by `sender` with a given nonce gets: the last 20
bytes of the digest of `creationPreimage`.
-/

namespace CallWatch

namespace Rlp

/-- The bytes of a number without leading zeros. -/
def minimal (n : Nat) : Bytes :=
  (Bytes.ofNat 8 n).dropWhile (· = 0)

/-- A content of this length behind its header; `base` tells strings (`0x80`) from lists
(`0xc0`). -/
def withHeader (base : Nat) (content : Bytes) : Bytes :=
  if content.length < 56 then UInt8.ofNat (base + content.length) :: content
  else
    let size := minimal content.length
    UInt8.ofNat (base + 55 + size.length) :: size ++ content

/-- The encoding of a byte string. -/
def string (b : Bytes) : Bytes :=
  match b with
  | [x] => if x < 0x80 then [x] else withHeader 0x80 [x]
  | _ => withHeader 0x80 b

/-- The encoding of a list of items that are already encoded. -/
def list (items : List Bytes) : Bytes :=
  withHeader 0xc0 items.flatten

end Rlp

/-- The bytes whose digest names a new contract: the list of its creator and the creator's nonce. -/
def creationPreimage (sender : Address) (nonce : UInt64) : Bytes :=
  Rlp.list [Rlp.string sender.toBytes, Rlp.string (Rlp.minimal nonce.toNat)]

/-- The address of the contract that `sender` creates with this nonce. -/
def contractAddress (sender : Address) (nonce : UInt64) : Address :=
  Address.ofBytes (Keccak.digest (creationPreimage sender nonce))

end CallWatch
