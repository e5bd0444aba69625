import Changefeed.Numeral.Double
import Changefeed.Text.Blank

/-!
# Numbers as people write them

The lenient readings of a number: blanks around it, a sign, single underscores between digits.
`integer?` takes digits of any script, `plainInteger?` ASCII digits and a fraction of zeros, and
`double?` the decimal notations of a double.
-/

namespace Changefeed.Numeral

/-- The values of digits with at most one underscore between two of them. -/
def groupedDigits? (digit? : Char → Option Nat) : List Char → Option (List Nat)
  | [] => none
  | [c] => (digit? c).map fun d => [d]
  | c :: '_' :: rest => do some ((← digit? c) :: (← groupedDigits? digit? rest))
  | c :: rest => do some ((← digit? c) :: (← groupedDigits? digit? rest))

/-- A sign and digits of one kind, without blanks. -/
def signedDigits? (digit? : Char → Option Nat) (s : List Char) : Option Int := do
  let (negative, s) := takeSign s
  let ds ← groupedDigits? digit? s
  if ds.length > maxDigits then none
  else some (signed negative (Text.ofDigits 10 ds))

/-- An integer with digits of any script. -/
def integer? (s : List Char) : Option Int :=
  signedDigits? Text.digitValue? (Text.trim Text.isSpace s)

/-- An integer of ASCII characters. -/
def asciiInteger? (s : List Char) : Option Int :=
  signedDigits? Text.asciiDigit? (Text.trim (fun c => c.toNat < 128 && Text.isSpace c) s)

/-- An integer of ASCII digits, behind which a point and zeros may stand. -/
def plainInteger? (s : List Char) : Option Int :=
  let s := Text.trim Text.isSpace s
  let whole := s.takeWhile (· != '.')
  let fraction := s.drop (whole.length + 1)
  if fraction.all (· == '0') then signedDigits? Text.asciiDigit? whole else none

/-- The text `s` in lower case, as far as ASCII goes. -/
def asciiLower (s : List Char) : List Char :=
  s.map Char.toLower

/-- A power of ten behind a number: nothing, or the letter e with a sign and digits. -/
def exponent? : List Char → Option Int
  | [] => some 0
  | c :: s =>
    if c = 'e' ∨ c = 'E' then do
      let (negative, s) := takeSign s
      some (signed negative (Text.ofDigits 10 (← groupedDigits? Text.asciiDigit? s)))
    else none

/-- The values of the digits of a part of a number, of which there may be none. -/
def partDigits? (s : List Char) : Option (List Nat) :=
  if s.isEmpty then some [] else groupedDigits? Text.asciiDigit? s

/-- An unsigned decimal number: digits with or without a point, and an exponent. -/
def decimalDouble? (negative : Bool) (s : List Char) : Option Double := do
  let isMark := fun c => c == 'e' || c == 'E'
  let mantissa := s.takeWhile (!isMark ·)
  let e ← exponent? (s.drop mantissa.length)
  let whole ← partDigits? (mantissa.takeWhile (· != '.'))
  let fraction ← partDigits? ((mantissa.dropWhile (· != '.')).drop 1)
  if whole.isEmpty && fraction.isEmpty then none
  else some (.ofScientific negative (Text.ofDigits 10 (whole ++ fraction)) (e - fraction.length))

/-- A double in decimal notation, or the words for infinity and for no number. -/
def double? (s : List Char) : Option Double :=
  let (negative, s) := takeSign (Text.trim Text.isSpace s)
  let word := String.ofList (asciiLower s)
  if word = "inf" ∨ word = "infinity" then some (.infinite negative)
  else if word = "nan" then some .nan
  else decimalDouble? negative s

end Changefeed.Numeral
