import Changefeed.Numeral.Basic
import Changefeed.Text.Blank

/-!
# Decimal numbers

Decimal floating-point numbers of the General Decimal Arithmetic: a sign, a coefficient and an
exponent, of which trailing zeros are a part.  `Decimal.ofText?` reads a number exactly,
`Decimal.scaled` shifts the exponent of a number and rounds it to the working precision, and
`Decimal.toText` writes the scientific string.
-/

namespace Changefeed

/-- A decimal number; `finite negative c e` has the value ±c·10^e.  The payload of a NaN is zero
where it has none. -/
inductive Decimal where
  | finite (negative : Bool) (coefficient : Nat) (exponent : Int)
  | infinite (negative : Bool)
  | nan (negative signaling : Bool) (payload : Nat)
deriving DecidableEq, Repr, Inhabited

namespace Decimal

/-- The number of decimal digits of a coefficient; zero has one. -/
def digitCount (n : Nat) : Nat :=
  (Nat.toDigits 10 n).length

/-! ### Working precision -/

/-- The digits of a coefficient that arithmetic keeps. -/
def precision : Nat := 28

/-- The greatest exponent of a first digit. -/
def maxExponent : Int := 999999

/-- The least exponent of a first digit with all digits kept. -/
def minExponent : Int := -999999

/-- The least exponent of a last digit. -/
def leastExponent : Int := minExponent - (precision - 1)

/-- Why arithmetic on decimals gives no number. -/
inductive Trap where
  | invalidOperation
  | overflow
deriving DecidableEq, Repr

/-- The quotient `c / 10^k` to the nearest natural, a half to the even neighbour. -/
def dropDigits (c k : Nat) : Nat :=
  Numeral.roundHalfEven c (Nat.pow 10 k)

/-- The number ±c·10^e in the working precision.  Where the last digit lies below the least exponent
the number loses digits there; else it loses those beyond the precision. -/
def round (negative : Bool) (c : Nat) (e : Int) : Except Trap Decimal :=
  if c = 0 then
    .ok (.finite negative 0 (min (max e leastExponent) maxExponent))
  else
    let first : Int := e + digitCount c - 1
    if first > maxExponent then .error .overflow
    else if first < minExponent ∧ e < leastExponent then
      .ok (.finite negative (dropDigits c (leastExponent - e).toNat) leastExponent)
    else if digitCount c ≤ precision then .ok (.finite negative c e)
    else
      let k := digitCount c - precision
      let c' := dropDigits c k
      -- all nines round up to one digit more
      let (c', e') := if c' = Nat.pow 10 precision then (c' / 10, e + k + 1) else (c', e + k)
      if e' + precision - 1 > maxExponent then .error .overflow
      else .ok (.finite negative c' e')

/-- The greatest shift of an exponent, in either direction. -/
def maxShift : Int := 2 * (maxExponent + precision)

/-- The number ±n·10^(-scale) in the working precision. -/
def scaled (n scale : Int) : Except Trap Decimal :=
  if scale.natAbs > maxShift.toNat then .error .invalidOperation
  else round (n < 0) n.natAbs (-scale)

/-! ### Texts -/

/-- What stands in `s` behind the letters `w` in either case; `w` is in lower case. -/
def dropWord? (w s : List Char) : Option (List Char) :=
  match w, s with
  | [], s => some s
  | a :: w, c :: s => if c = a ∨ c = a.toUpper then dropWord? w s else none
  | _ :: _, [] => none

/-- The value of a text of ASCII digits, of which there may be none. -/
def digits? (s : List Char) : Option Nat :=
  (s.mapM Text.asciiDigit?).map (Text.ofDigits 10)

/-- The exponent behind a coefficient: nothing, or the letter e, a sign and digits. -/
def exponentPart? : List Char → Option Int
  | [] => some 0
  | c :: s =>
    if c = 'e' ∨ c = 'E' then
      let (negative, ds) := Numeral.takeSign s
      if ds.isEmpty then none
      else (digits? ds).map fun n => if negative then -(n : Int) else n
    else none

/-- The greatest exponent of a first digit that a text may have. -/
def maxTextExponent : Int := 999999999999999999

/-- The least exponent of a last digit that a text may have. -/
def leastTextExponent : Int := -1999999999999999997

/-- The number ±c·10^e, unless the exponent is out of reach. -/
def inReach? (negative : Bool) (c : Nat) (e : Int) : Option Decimal :=
  if e + digitCount c - 1 ≤ maxTextExponent ∧ leastTextExponent ≤ e then
    some (.finite negative c e)
  else none

/-- An unsigned number of ASCII characters. -/
def magnitude? (negative : Bool) (s : List Char) : Option Decimal :=
  match dropWord? "infinity".toList s, dropWord? "inf".toList s with
  | some [], _ => some (.infinite negative)
  | _, some [] => some (.infinite negative)
  | _, _ =>
    match dropWord? "nan".toList s, dropWord? "snan".toList s with
    | some rest, _ => (digits? rest).map (.nan negative false)
    | _, some rest => (digits? rest).map (.nan negative true)
    | none, none =>
      let whole := s.takeWhile Text.isAsciiDigit
      let rest := s.dropWhile Text.isAsciiDigit
      let (fraction, rest) := match rest with
        | '.' :: r => (r.takeWhile Text.isAsciiDigit, r.dropWhile Text.isAsciiDigit)
        | r => ([], r)
      if whole.isEmpty && fraction.isEmpty then none
      else do
        let c ← digits? (whole ++ fraction)
        let e ← exponentPart? rest
        inReach? negative c (e - fraction.length)

/-- The ASCII form of a number: underscores go, digits of any script become ASCII digits. -/
def asciiForm? (s : List Char) : Option (List Char) :=
  (s.filter (· != '_')).mapM fun c =>
    if 0 < c.toNat ∧ c.toNat < 128 then some c
    else (Text.digitValue? c).map fun d => Char.ofNat (48 + d)

/-- The number that a text denotes, exactly. -/
def ofText? (s : List Char) : Option Decimal := do
  let (negative, rest) := Numeral.takeSign (← asciiForm? (Text.trim Text.isBlank s))
  magnitude? negative rest

/-- The scientific string of a number: positional for an exponent up to zero and a first digit
not below 10^-6, else with one digit before the point. -/
def toText : Decimal → List Char
  | .infinite negative => (if negative then "-Infinity" else "Infinity").toList
  | .nan negative signaling payload =>
    (if negative then ['-'] else []) ++ (if signaling then ['s'] else []) ++ "NaN".toList ++
      (if payload = 0 then [] else Nat.toDigits 10 payload)
  | .finite negative c e =>
    let ds := Nat.toDigits 10 c
    let first : Int := e + ds.length - 1
    (if negative then ['-'] else []) ++
      if e ≤ 0 ∧ -6 ≤ first then
        if e = 0 then ds
        else
          let whole := ds.take (ds.length - (-e).toNat)
          let fraction := ds.drop (ds.length - (-e).toNat)
          (if whole.isEmpty then ['0'] else whole) ++
            '.' :: List.replicate ((-e).toNat - ds.length) '0' ++ fraction
      else
        let mantissa := match ds with
          | d :: d' :: rest => d :: '.' :: d' :: rest
          | ds => ds
        mantissa ++ 'E' :: (if first < 0 then '-' else '+') :: Nat.toDigits 10 first.natAbs

end Decimal
end Changefeed
