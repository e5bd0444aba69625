import Changefeed.Numeral.Basic

/-!
# Binary64 numbers

A number with a 53-bit mantissa is kept as its exact value ±m·2^e, so reading a decimal
(`Double.ofScientific`), cutting off the fraction (`Double.truncate?`) and writing the fewest
digits that read back (`Double.shortest`, `Double.toText`) are all exact arithmetic on naturals.
-/

namespace Changefeed

/-- A binary64 number; `finite negative m e` has the value ±m·2^e, where `m < 2^53` and
`-1074 ≤ e ≤ 971`. -/
inductive Double where
  | nan
  | infinite (negative : Bool)
  | finite (negative : Bool) (mantissa : Nat) (exponent : Int)
deriving DecidableEq, Repr, Inhabited

namespace Double

/-- The least exponent of a binary64 number. -/
def minExponent : Int := -1074

/-- The greatest exponent of a binary64 number. -/
def maxExponent : Int := 971

/-- The least mantissa of 53 bits, which is 2^52. -/
def leastNormal : Nat := 0x10000000000000

/-- The greatest `e` with `2^e ≤ num / den`, both positive. -/
def floorLog2 (num den : Nat) : Int :=
  let e : Int := (num.log2 : Int) - den.log2
  if den <<< e.toNat ≤ num <<< (-e).toNat then e else e - 1

/-- The binary64 number nearest to ±`num / den`, a half to the even mantissa. -/
def ofRatio (negative : Bool) (num den : Nat) : Double :=
  if num = 0 then .finite negative 0 minExponent
  else
    let e := max (floorLog2 num den - 52) minExponent
    let m := Numeral.roundHalfEven (num <<< (-e).toNat) (den <<< e.toNat)
    let (m, e) := if m = 2 * leastNormal then (leastNormal, e + 1) else (m, e)
    if e > maxExponent then .infinite negative else .finite negative m e

/-- The binary64 number nearest to ±`digits`·10^`exponent`.  Beyond 310 places on either side of
the point nothing but the side matters. -/
def ofScientific (negative : Bool) (digits : Nat) (exponent : Int) : Double :=
  let places : Int := (Nat.toDigits 10 digits).length + exponent
  if digits = 0 then .finite negative 0 minExponent
  else if places > 310 then .infinite negative
  else if places < -330 then .finite negative 0 minExponent
  else ofRatio negative (digits * Nat.pow 10 exponent.toNat) (Nat.pow 10 (-exponent).toNat)

/-- The binary64 number nearest to an integer, unless it lies beyond the finite ones. -/
def ofInt? (n : Int) : Option Double :=
  match ofRatio (n < 0) n.natAbs 1 with
  | .infinite _ => none
  | x => some x

/-- The integer part of a finite number, the fraction cut off. -/
def truncate? : Double → Option Int
  | .finite negative m e =>
    let n : Int := Int.ofNat ((m <<< e.toNat) >>> (-e).toNat)
    some (if negative then -n else n)
  | _ => none

/-- Whether a number is finite and has no fraction. -/
def isIntegral : Double → Bool
  | .finite _ m e => (m <<< e.toNat) % (1 <<< (-e).toNat) == 0
  | _ => false

/-- Whether a number is zero, of either sign. -/
def isZero : Double → Bool
  | .finite _ m _ => m == 0
  | _ => false

/-- The greatest `k` with `10^k ≤ num / den`, both positive. -/
def floorLog10 (num den : Nat) : Int :=
  if den ≤ num then ((Nat.toDigits 10 (num / den)).length : Int) - 1
  else
    let quotient := (den + num - 1) / num
    Int.negOfNat (Nat.toDigits 10 (quotient - 1)).length

/-- The nearest of the points `q` and `q + 1` of the grid `10^g` that lies among the reals that
round to `m·2^e`.  Both sides are scaled to naturals: a grid point `c` is `c * a` and the number
itself is `4 * m * b`. -/
def onGrid? (m : Nat) (e g : Int) : Option Nat :=
  let a := Nat.pow 10 g.toNat <<< (2 - e).toNat
  let b := Nat.pow 10 (-g).toNat <<< (e - 2).toNat
  let low := (4 * m - (if m = leastNormal ∧ e > minExponent then 1 else 2)) * b
  let high := (4 * m + 2) * b
  let value := 4 * m * b
  let reads (c : Nat) : Bool :=
    if m % 2 = 0 then low ≤ c * a && c * a ≤ high else low < c * a && c * a < high
  let q := value / a
  match reads q, reads (q + 1) with
  | true, false => some q
  | false, true => some (q + 1)
  | true, true =>
    let below := value - q * a
    let above := (q + 1) * a - value
    some (if below < above ∨ (below = above ∧ q % 2 = 0) then q else q + 1)
  | false, false => none

/-- The digits `c` and the exponent `g` of the shortest decimal `c·10^g` that reads back as
`m·2^e`, the nearest of those with that many digits. -/
def shortest (m : Nat) (e : Int) : Nat × Int :=
  let k := floorLog10 (m <<< e.toNat) (1 <<< (-e).toNat)
  let grids : List Int := (List.range 17).map fun n => k - Int.ofNat n
  (grids.findSome? fun g => (onGrid? m e g).map (·, g)).getD (0, 0)

/-- How a number is written: positionally while its first digit stands for 10^`low` up to, but not
including, 10^`high`, else with an exponent of a sign and at least `exponentDigits` digits. -/
structure Format where
  low : Int
  high : Int
  exponentDigits : Nat

/-- Positional from 1e-4 to below 1e16, exponents with two digits or more. -/
def Format.plain : Format := ⟨-4, 16, 2⟩

/-- The digits `ds` with the first one standing for 10^`k`. -/
def Format.write (f : Format) (ds : List Char) (k : Int) : List Char :=
  if f.low ≤ k ∧ k < f.high then
    if k < 0 then '0' :: '.' :: List.replicate (-k - 1).toNat '0' ++ ds
    else
      let whole := ds.take (k + 1).toNat
      let fraction := ds.drop (k + 1).toNat
      whole ++ List.replicate ((k + 1).toNat - ds.length) '0' ++
        '.' :: (if fraction.isEmpty then ['0'] else fraction)
  else
    let mantissa := match ds with
      | [] => []
      | [d] => [d]
      | d :: rest => d :: '.' :: rest
    mantissa ++ 'e' :: (if k < 0 then '-' else '+') ::
      Text.padded f.exponentDigits k.natAbs

/-- The text of a number: the fewest digits that read back. -/
def toText : Double → List Char
  | .nan => "nan".toList
  | .infinite negative => (if negative then "-inf" else "inf").toList
  | .finite negative m e =>
    let sign := if negative then ['-'] else []
    if m = 0 then sign ++ "0.0".toList
    else
      let (c, g) := shortest m e
      let ds := Nat.toDigits 10 c
      let k : Int := ds.length - 1 + g
      sign ++ Format.plain.write ((ds.reverse.dropWhile (· == '0')).reverse) k

end Double
end Changefeed
