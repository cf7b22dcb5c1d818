import CallWatch.Digest.Ripemd160
import CallWatch.Digest.Sha256
import CallWatch.Failure
import CallWatch.Frame
import CallWatch.Text.Hex

/-!
# Built-in contracts

A precompile is a contract that is selected by its address and not by its code.  It has a price
for every input, which the frame pays before the contract runs.

The three standard ones are priced by the word: a base price and a price for every 32 bytes or
part of them.  A price that leaves the range of the gas counter cannot be paid.
-/

namespace CallWatch

/-- A built-in contract. -/
structure Precompile where
  name : String
  /-- The price of an input. -/
  price : Bytes → Except Failure UInt64
  /-- The answer to an input. -/
  answer : Bytes → Except Failure Bytes

namespace Precompile

/-- The price of an input of this length: `base`, and `perWord` for every word or part of one. -/
def wordPrice? (base perWord : UInt64) (length : Nat) : Option UInt64 := do
  let size ← Checked.ofNat length
  let padded ← Checked.add size 31
  let dynamic ← Checked.mul perWord (padded / 32)
  Checked.add base dynamic

/-- A contract that is priced by the word. -/
def pricedByWord (name : String) (base perWord : UInt64) (answer : Bytes → Bytes) : Precompile where
  name
  price input := (wordPrice? base perWord input.length).elim (.error .outOfGas) .ok
  answer input := .ok (answer input)

/-- The SHA-256 digest of the input. -/
def sha256 : Precompile :=
  pricedByWord "SHA256" 60 12 Sha256.digest

/-- The RIPEMD-160 digest of the input, filled up to a word. -/
def ripemd160 : Precompile :=
  pricedByWord "RIPEMD160" 600 120 fun input =>
    List.replicate 12 0 ++ Ripemd160.digest input

/-- The input itself. -/
def identity : Precompile :=
  pricedByWord "ID" 15 3 id

/-- Charges the price of the input to the frame and runs the contract; also the frame after it. -/
def run (p : Precompile) (frame : Frame) (input : Bytes) : Except Failure Bytes × Frame :=
  match p.price input with
  | .error failure => (.error failure, frame)
  | .ok price =>
    match frame.charge? price with
    | none => (.error .outOfGas, frame)
    | some paid => (p.answer input, paid)

end Precompile

/-- The built-in contracts of a machine. -/
abbrev PrecompileSet := Std.ExtTreeMap Address Precompile

namespace PrecompileSet

/-- The three standard contracts at the addresses 2 to 4. -/
def standard : PrecompileSet :=
  ((({} : PrecompileSet).insert 2 .sha256).insert 3 .ripemd160).insert 4 .identity

/-- The addresses and names of the contracts, in words. -/
def describe (set : PrecompileSet) : String :=
  let entries := set.toList.map fun (a, p) => "(" ++ a.toHex ++ ", \"" ++ p.name ++ "\")"
  "PrecompileSet \x7b contracts: [" ++ ", ".intercalate entries ++ "] \x7d"

end PrecompileSet

end CallWatch
