/-!
# Two's complement

Integers as bytes with the highest first, of which the first bit gives the sign.
`TwosComplement.decode` reads any number of bytes and `TwosComplement.encode` writes a given one.
-/

namespace Changefeed.TwosComplement

/-- The natural number of bytes with the highest first. -/
def unsigned (bs : List UInt8) : Nat :=
  bs.foldl (fun n b => n * 256 + b.toNat) 0

/-- The integer of bytes with the highest first; no bytes are zero. -/
def decode (bs : List UInt8) : Int :=
  let n := unsigned bs
  let range := Nat.pow 256 bs.length
  if range ≤ 2 * n then (n : Int) - range else n

/-- The last `k` bytes of a natural number. -/
def bytesOf : (k n : Nat) → List UInt8
  | 0, _ => []
  | k + 1, n => bytesOf k (n / 256) ++ [UInt8.ofNat (n % 256)]

/-- The `k` bytes of an integer. -/
def encode (k : Nat) (n : Int) : List UInt8 :=
  bytesOf k (n % Nat.pow 256 k).toNat

end Changefeed.TwosComplement
