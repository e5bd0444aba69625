/-!
# Base64

Bytes as text, three bytes in four characters.  `Base64.decode?` takes the characters of the
alphabet only, with the padding that completes the last group, and ignores the unused bits of that
group; behind complete groups any padding is passed over.
-/

namespace Changefeed.Base64

/-- The value of a character of the alphabet. -/
def sextet? (c : Char) : Option Nat :=
  if 'A' ≤ c && c ≤ 'Z' then some (c.toNat - 65)
  else if 'a' ≤ c && c ≤ 'z' then some (c.toNat - 71)
  else if '0' ≤ c && c ≤ '9' then some (c.toNat + 4)
  else if c = '+' then some 62
  else if c = '/' then some 63
  else none

/-- The character of the alphabet with a value below 64. -/
def ofSextet (n : Nat) : Char :=
  if n < 26 then Char.ofNat (n + 65)
  else if n < 52 then Char.ofNat (n + 71)
  else if n < 62 then Char.ofNat (n - 4)
  else if n = 62 then '+'
  else '/'

/-- The bytes of groups of four values; a last group may have three or two. -/
def decodeGroups : List Nat → List UInt8
  | a :: b :: c :: d :: rest =>
    UInt8.ofNat (a * 4 + b / 16) :: UInt8.ofNat (b % 16 * 16 + c / 4) ::
      UInt8.ofNat (c % 4 * 64 + d) :: decodeGroups rest
  | [a, b, c] => [UInt8.ofNat (a * 4 + b / 16), UInt8.ofNat (b % 16 * 16 + c / 4)]
  | [a, b] => [UInt8.ofNat (a * 4 + b / 16)]
  | _ => []

/-- Whether `pads` padding characters complete `n` characters of the alphabet. -/
def isComplete (n pads : Nat) : Bool :=
  match n % 4 with
  | 0 => n ≠ 0 || pads = 0
  | 2 => pads = 2
  | 3 => pads = 1
  | _ => false

/-- The bytes that a text stands for. -/
def decode? (s : List Char) : Option (List UInt8) := do
  let data := s.takeWhile fun c => (sextet? c).isSome
  let pads := s.drop data.length
  if pads.all (· == '=') && isComplete data.length pads.length then
    some (decodeGroups (data.filterMap sextet?))
  else none

/-- The text of bytes. -/
def encode : List UInt8 → List Char
  | a :: b :: c :: rest =>
    let n := (a.toNat * 256 + b.toNat) * 256 + c.toNat
    ofSextet (n / 262144) :: ofSextet (n / 4096 % 64) :: ofSextet (n / 64 % 64) ::
      ofSextet (n % 64) :: encode rest
  | [a, b] =>
    let n := (a.toNat * 256 + b.toNat) * 4
    [ofSextet (n / 4096), ofSextet (n / 64 % 64), ofSextet (n % 64), '=']
  | [a] =>
    let n := a.toNat * 16
    [ofSextet (n / 64), ofSextet (n % 64), '=', '=']
  | [] => []

end Changefeed.Base64
