import Changefeed.Numeral.Reading
import Changefeed.Parser.Standard

/-!
# A reader of dates and times in ISO 8601 form

`Iso.reader` is the reader that the program runs with; what is proved of the program is proved for
every reader.  It takes a date of years and months, weeks or days of the year, with or without
dashes, then any one character and a time.  A time stands with or without colons, with a fraction
and an offset.  The midnight at the end of a day may be written 24:00.
-/

open Changefeed.Parser (fault orFault)

namespace Changefeed.Iso

/-- The number that the first `n` characters denote, and what follows.  Like other integers it may
have blanks around it and a plus in front. -/
def takeNumber (n : Nat) (s : List Char) : Option (Nat × List Char) :=
  if s.length < n then none
  else
    match Numeral.asciiInteger? (s.take n) with
    | some (.ofNat k) => some (k, s.drop n)
    | _ => none

/-! ### Dates -/

/-- Year, month and day before they are checked, and what follows. -/
abbrev Parts := (Nat × Nat × Nat) × List Char

/-- A year, or a year with a month behind a dash, or a year with month and day and two dashes or
none. -/
def calendarDate? (s : List Char) : Option Parts := do
  let (year, s) ← takeNumber 4 s
  match s with
  | [] => some ((year, 1, 1), [])
  | '-' :: s =>
    let (month, s) ← takeNumber 2 s
    match s with
    | [] => some ((year, month, 1), [])
    | '-' :: s =>
      let (day, s) ← takeNumber 2 s
      some ((year, month, day), s)
    | _ => none
  | s =>
    let (month, s) ← takeNumber 2 s
    let (day, s) ← takeNumber 2 s
    some ((year, month, day), s)

/-- The parts of the day that lies `offset` days after the day number `start`. -/
def partsOfDay (start : Int) (offset : Int) (rest : List Char) : Except Fault Parts := do
  let d ← orFault .outOfRange (Date.ofDay? (start + offset))
  .ok ((d.year, d.month, d.day), rest)

/-- The day number of the Monday of the first week of a year, the week that holds 4 January. -/
def firstMonday (year : Nat) : Int :=
  let fourth := Date.toDay ⟨year, 1, 4⟩
  -- 1970-01-01 was a Thursday
  fourth - (fourth + 3) % 7

/-- The weekday behind a week, Monday if nothing follows.  It has a dash in front if the week
has one. -/
def weekday? (dashed : Bool) : List Char → Option (Nat × List Char)
  | [] => some (1, [])
  | '-' :: s => if dashed then takeNumber 1 s else none
  | s => if dashed then none else takeNumber 1 s

/-- A date of a year and either a week with a weekday or a day of the year. -/
def ordinalDate (s : List Char) : Except Fault Parts := do
  let (year, s) ← orFault .invalidValue (takeNumber 4 s)
  let dashed := s.head? = some '-'
  match if dashed then s.drop 1 else s with
  | 'W' :: s =>
    let (week, s) ← orFault .invalidValue (takeNumber 2 s)
    let (day, s) ← orFault .invalidValue (weekday? dashed s)
    if 1 ≤ week ∧ week ≤ 53 ∧ 1 ≤ day ∧ day ≤ 7 ∧ 1 ≤ year then
      partsOfDay (firstMonday year) ((week - 1) * 7 + (day - 1)) s
    else fault .invalidValue
  | s =>
    let (n, s) ← orFault .invalidValue (takeNumber 3 s)
    if 1 ≤ n ∧ n ≤ Date.yearLength year ∧ 1 ≤ year then
      partsOfDay (Date.toDay ⟨year, 1, 1⟩) (n - 1) s
    else fault .invalidValue

/-- A date in any of the forms, and what follows. -/
def date (s : List Char) : Except Fault Parts :=
  match calendarDate? s with
  | some parts => .ok parts
  | none => ordinalDate s

/-! ### Times -/

/-- Whether a character starts an offset. -/
def startsOffset (c : Char) : Bool :=
  c = '-' || c = '+' || c = 'Z' || c = 'z'

/-- An offset in minutes: the letter Z, or a sign with hours, or with hours and minutes. -/
def offset? (s : List Char) : Option Int :=
  match s with
  | ['Z'] => some 0
  | ['z'] => some 0
  | sign :: rest => do
    let (hours, rest) ← takeNumber 2 rest
    let (minutes, rest) ← match rest with
      | [] => some (0, [])
      | ':' :: rest => takeNumber 2 rest
      | rest => takeNumber 2 rest
    if rest.isEmpty ∧ minutes ≤ 59 ∧ hours ≤ 23 then
      let n : Int := (hours * 60 + minutes : Nat)
      if sign = '+' then some n else if sign = '-' then some (-n) else none
    else none
  | [] => none

/-- The microseconds that the digits of a fraction denote; those beyond the sixth are dropped. -/
def fraction (ds : List Nat) : Nat :=
  let kept := ds.take 6
  Text.ofDigits 10 kept * Nat.pow 10 (6 - kept.length)

/-- The fraction of a second: a point or a comma and digits. -/
def takeFraction (s : List Char) : Nat × List Char :=
  match s with
  | c :: rest =>
    let ds := rest.takeWhile Text.isAsciiDigit
    if (c = '.' ∨ c = ',') ∧ !ds.isEmpty then
      (fraction (ds.filterMap Text.asciiDigit?), rest.drop ds.length)
    else (0, s)
  | [] => (0, [])

/-- The parts of a time before they are checked. -/
structure Clock where
  hour : Nat := 0
  minute : Nat := 0
  second : Nat := 0
  microsecond : Nat := 0
  offset : Option Int := none

/-- The offset that ends a time, if there is one. -/
def Clock.finish? (t : Clock) (s : List Char) : Option Clock :=
  match s with
  | [] => some t
  | c :: _ => if startsOffset c then (offset? s).map fun o => { t with offset := some o } else none

/-- What a time continues with behind the hour or the minute: another number of two digits, with
a colon in front if `colon` is set, unless the time ends or an offset follows. -/
def takeNext (colon : Bool) (s : List Char) : Option (Option (Nat × List Char)) :=
  match s with
  | [] => some none
  | c :: rest =>
    if startsOffset c then some none
    else if colon then
      if c = ':' then (takeNumber 2 rest).map some else none
    else (takeNumber 2 s).map some

/-- A time.  The colon stands before the minute and the second or before neither. -/
def clock? (s : List Char) : Option Clock :=
  if s.length < 2 then none
  else do
    match ← takeNext false s with
    | none => Clock.finish? {} s
    | some (hour, s) =>
      let colon := s.head? = some ':'
      match ← takeNext colon s with
      | none => Clock.finish? { hour } s
      | some (minute, s) =>
        match ← takeNext colon s with
        | none => Clock.finish? { hour, minute } s
        | some (second, s) =>
          let (microsecond, s) := takeFraction s
          Clock.finish? { hour, minute, second, microsecond } s

/-- Whether the hour is 24, which it may be at the end of a day only. -/
def Clock.endsDay (t : Clock) : Bool :=
  t.hour = 24 && t.minute = 0 && t.second = 0 && t.microsecond = 0

/-- The time that a text denotes; 24:00 is the midnight 00:00. -/
def time? (s : List Char) : Option TimeOfDay := do
  let t ← clock? s
  TimeOfDay.ofParts? (if t.endsDay then 0 else t.hour) t.minute t.second t.microsecond t.offset

/-- The timestamp of a date and a time that are not checked yet; at 24:00 the next day starts. -/
def assemble (year month day : Nat) (t : Clock) : Except Fault Timestamp := do
  let date ← orFault .invalidValue (Date.ofParts? year month day)
  let time ← orFault .invalidValue (TimeOfDay.ofParts? (if t.endsDay then 0 else t.hour) t.minute
    t.second t.microsecond t.offset)
  if t.endsDay then (orFault .outOfRange (Date.ofDay? (date.toDay + 1))).map (⟨·, time⟩)
  else .ok ⟨date, time⟩

/-- The time that stands behind a date and one more character; without it, midnight. -/
def clockBehind : List Char → Except Fault Clock
  | [] => .ok {}
  | _ :: s => orFault .invalidValue (clock? s)

/-- The timestamp that a text denotes. -/
def timestamp (s : List Char) : Except Fault Timestamp := do
  let ((year, month, day), rest) ← date s
  let t ← clockBehind rest
  assemble year month day t

/-! ### Values -/

/-- The characters of a text, which are ASCII, or of a byte string.  A list or a mapping is too
short for a text if it has fewer than `least` elements. -/
def characters (least : Nat) (listFault : FaultKind) : Value → Except Fault (List Char)
  | .text s => if s.toList.any fun c => 128 ≤ c.toNat then fault .invalidValue else .ok s.toList
  | .bytes bs => .ok (bs.map fun b => Char.ofNat b.toNat)
  | .list vs => if vs.length < least then fault .invalidValue else fault listFault
  | .object ms => if ms.length < least then fault .invalidValue else fault .wrongType
  | _ => fault .wrongType

/-- The reader that the program runs with. -/
def reader : IsoReader where
  timestamp v := do timestamp (← characters 4 .noSuchAttribute v)
  time v := do orFault .invalidValue (time? (← characters 2 .wrongType v))

end Changefeed.Iso
