import Changefeed.Calendar.Date

/-!
# Times and timestamps

A time of day counts microseconds and may carry an offset from universal time; a timestamp is a
date with a time.  `Timestamp.ofMicroseconds?` finds the timestamp of an instant that is counted
from the start of 1970.
-/

namespace Changefeed

/-- A time of day, with the offset from universal time in minutes where it is known. -/
structure TimeOfDay where
  hour : Nat
  minute : Nat
  second : Nat
  microsecond : Nat
  offset : Option Int := none
deriving DecidableEq, Repr, Inhabited

namespace TimeOfDay

/-- The `n`-th microsecond of a day. -/
def ofMicroseconds (n : Nat) : TimeOfDay where
  hour := n / 3600000000
  minute := n / 60000000 % 60
  second := n / 1000000 % 60
  microsecond := n % 1000000

/-- The microseconds since the start of the day. -/
def toMicroseconds (t : TimeOfDay) : Nat :=
  ((t.hour * 60 + t.minute) * 60 + t.second) * 1000000 + t.microsecond

/-- The time with these parts, if a day has it. -/
def ofParts? (hour minute second microsecond : Nat) (offset : Option Int) : Option TimeOfDay :=
  if hour < 24 ∧ minute < 60 ∧ second < 60 ∧ microsecond < 1000000 then
    some ⟨hour, minute, second, microsecond, offset⟩
  else none

/-- An offset as a sign, hours and minutes. -/
def offsetText (minutes : Int) : List Char :=
  (if minutes < 0 then '-' else '+') :: Text.padded 2 (minutes.natAbs / 60) ++
    ':' :: Text.padded 2 (minutes.natAbs % 60)

/-- The time as HH:MM:SS, with six digits of a fraction unless it is zero, and the offset. -/
def toText (t : TimeOfDay) : List Char :=
  Text.padded 2 t.hour ++ ':' :: Text.padded 2 t.minute ++ ':' :: Text.padded 2 t.second ++
    (if t.microsecond = 0 then [] else '.' :: Text.padded 6 t.microsecond) ++
    (t.offset.map offsetText).getD []

end TimeOfDay

/-- A date and a time. -/
structure Timestamp where
  date : Date
  time : TimeOfDay
deriving DecidableEq, Repr, Inhabited

namespace Timestamp

/-- The microseconds of a day. -/
def dayMicroseconds : Nat := 86400000000

/-- The timestamp `n` microseconds after the start of 1970, within the years 1 to 9999. -/
def ofMicroseconds? (n : Int) : Option Timestamp :=
  (Date.ofDay? (n / dayMicroseconds)).map fun date =>
    ⟨date, TimeOfDay.ofMicroseconds (n % dayMicroseconds).toNat⟩

/-- The date, the letter T and the time. -/
def toText (t : Timestamp) : List Char :=
  t.date.toText ++ 'T' :: t.time.toText

end Timestamp
end Changefeed
