import Changefeed.Text.Digit

/-!
# Numerals

What the readings of integers, decimals and doubles share: a sign in front, a bound on the number of
digits, and the rounding of a half to the even neighbour.
-/

namespace Changefeed.Numeral

/-- The most digits that an integer may have. -/
def maxDigits : Nat := 4300

/-- A sign in front of a number, true for minus, and what follows it. -/
def takeSign : List Char → Bool × List Char
  | '-' :: s => (true, s)
  | '+' :: s => (false, s)
  | s => (false, s)

/-- The integer `n` or its negative. -/
def signed (negative : Bool) (n : Nat) : Int :=
  if negative then -(n : Int) else n

/-- The quotient `num / den` to the nearest natural, a half to the even neighbour. -/
def roundHalfEven (num den : Nat) : Nat :=
  let q := num / den
  let r := num % den
  if 2 * r < den then q
  else if 2 * r > den then q + 1
  else if q % 2 = 0 then q else q + 1

end Changefeed.Numeral
