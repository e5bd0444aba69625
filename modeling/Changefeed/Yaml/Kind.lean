import Changefeed.Text.Lower
import Changefeed.Yaml.Cursor

/-!
# Kinds of nodes

A tag says what a node stands for.  A plain scalar without a tag has the kind that its text looks
like (`Kind.ofPlain`).
-/

namespace Changefeed.Yaml

/-- What a node stands for. -/
inductive Kind where
  | null
  | bool
  | int
  | float
  | binary
  | timestamp
  | text
  | sequence
  | mapping
  | set
  | pairs
  | orderedPairs
  /-- A key whose value is a mapping with further members. -/
  | merge
  /-- A key for the value of a mapping that stands for a scalar. -/
  | value
  | unknown
deriving DecidableEq, Repr, Inhabited

namespace Kind

/-- What the tags of the format start with. -/
def tagStart : String := "tag:yaml.org,2002:"

/-- The kinds by the tags of the format. -/
def tags : List (String × Kind) :=
  [("null", null), ("bool", bool), ("int", int), ("float", float), ("binary", binary),
    ("timestamp", timestamp), ("str", text), ("seq", sequence), ("map", mapping), ("set", set),
    ("pairs", pairs), ("omap", orderedPairs), ("merge", merge), ("value", value)].map
    fun (name, k) => (tagStart ++ name, k)

/-- The kind that a tag gives. -/
def ofTag (tag : String) : Kind :=
  (tags.lookup tag).getD .unknown

/-! ### Numbers -/

/-- Digits, and underscores between and behind them. -/
def isGrouped (digit : Char → Bool) : List Char → Bool
  | [] => false
  | c :: rest => digit c && rest.all fun c => digit c || c = '_'

/-- A text without a sign in front. -/
def unsigned : List Char → List Char
  | '+' :: s => s
  | '-' :: s => s
  | s => s

/-- Groups of two digits below sixty, each behind a colon; the first of a pair may be left out. -/
def isSexagesimal : (fuel : Nat) → List Char → Bool
  | 0, _ => false
  | fuel + 1, s =>
    match s with
    | ':' :: a :: rest =>
      let isUnit := Text.isAsciiDigit a && (rest.isEmpty || isSexagesimal fuel rest)
      let isPair := '0' ≤ a && a ≤ '5' &&
        match rest with
        | b :: rest' => Text.isAsciiDigit b && (rest'.isEmpty || isSexagesimal fuel rest')
        | [] => false
      isUnit || isPair
    | _ => false

/-- Whether a part before a colon is a number that does not start with zero, and what follows are
groups of digits. -/
def isClock (startsWithZero : Bool) (s : List Char) : Bool :=
  let first := s.takeWhile (· ≠ ':')
  isGrouped Text.isAsciiDigit first && (startsWithZero || first.head? ≠ some '0') &&
    isSexagesimal s.length (s.drop first.length)

/-- The texts of integers: binary, octal, decimal, hexadecimal, and groups to the base sixty. -/
def isInt (s : List Char) : Bool :=
  match unsigned s with
  | '0' :: 'b' :: rest => !rest.isEmpty && rest.all fun c => c = '0' || c = '1' || c = '_'
  | '0' :: 'x' :: rest => !rest.isEmpty && rest.all fun c => (Text.hexDigit? c).isSome || c = '_'
  | ['0'] => true
  | '0' :: rest => rest.all fun c => ('0' ≤ c && c ≤ '7') || c = '_'
  | s => isGrouped Text.isAsciiDigit s || isClock false s

/-- An exponent with a sign, or nothing. -/
def isExponent : List Char → Bool
  | [] => true
  | e :: sign :: d :: rest =>
    (e = 'e' || e = 'E') && (sign = '+' || sign = '-') && (d :: rest).all Text.isAsciiDigit
  | _ => false

/-- Digits of a fraction with an exponent behind them. -/
def isFraction (s : List Char) : Bool :=
  isExponent (s.dropWhile fun c => Text.isAsciiDigit c || c = '_')

/-- The texts of floating point numbers, which need a point. -/
def isFloat (s : List Char) : Bool :=
  let plain := unsigned s
  let whole := plain.takeWhile (· ≠ '.')
  match plain.drop whole.length with
  | [] => false
  | _ :: fraction =>
    if whole.isEmpty then
      ["inf", "Inf", "INF"].contains (String.ofList fraction) ||
        (plain.length = s.length &&
          (["nan", "NaN", "NAN"].contains (String.ofList fraction) ||
            ((fraction.head?.map Text.isAsciiDigit).getD false && isFraction fraction)))
    else
      (isGrouped Text.isAsciiDigit whole && isFraction fraction) ||
        (isClock true whole && fraction.all fun c => Text.isAsciiDigit c || c = '_')

/-! ### Dates -/

/-- The digits at the front of a text, at least `least` and at most `most`, and what follows. -/
def takeNumber? (least most : Nat) (s : List Char) : Option (Nat × List Char) :=
  let ds := (s.take most).takeWhile Text.isAsciiDigit
  if ds.length < least then none
  else some (Text.ofDigits 10 (ds.filterMap Text.asciiDigit?), s.drop ds.length)

/-- A text without the character `c` in front, which has to be there. -/
def after? (c : Char) : List Char → Option (List Char)
  | d :: rest => if d = c then some rest else none
  | [] => none

/-- The parts of a date with what follows it, whose month and day have `least` digits or more. -/
def takeDate? (least : Nat) (s : List Char) : Option ((Nat × Nat × Nat) × List Char) := do
  let (year, s) ← takeNumber? 4 4 s
  let (month, s) ← takeNumber? least 2 (← after? '-' s)
  let (day, s) ← takeNumber? least 2 (← after? '-' s)
  some ((year, month, day), s)

/-- The parts of a time. -/
structure ClockParts where
  hour : Nat
  minute : Nat
  second : Nat
  microsecond : Nat
  offset : Option Int
deriving DecidableEq, Repr, Inhabited

/-- The offset behind a time, or nothing; a sign needs hours, and minutes may follow. -/
def offset? (s : List Char) : Option (Option Int) :=
  match s.dropWhile isGap with
  | [] => if s.isEmpty then some none else none
  | ['Z'] => some (some 0)
  | sign :: rest =>
    if sign = '+' ∨ sign = '-' then do
      let (hour, rest) ← takeNumber? 1 2 rest
      let (minute, rest) ← if rest.isEmpty then some (0, []) else
        takeNumber? 2 2 (← after? ':' rest)
      if !rest.isEmpty then none
      else
        let minutes : Int := hour * 60 + minute
        some (some (if sign = '-' then -minutes else minutes))
    else none

/-- The parts of a time behind a date: the letter T or gaps stand between them. -/
def clock? (s : List Char) : Option ClockParts := do
  let s ← match s with
    | 'T' :: rest => some rest
    | 't' :: rest => some rest
    | s => if (s.takeWhile isGap).isEmpty then none else some (s.dropWhile isGap)
  let (hour, s) ← takeNumber? 1 2 s
  let (minute, s) ← takeNumber? 2 2 (← after? ':' s)
  let (second, s) ← takeNumber? 2 2 (← after? ':' s)
  let (fraction, s) := match s with
    | '.' :: rest => (rest.takeWhile Text.isAsciiDigit, rest.dropWhile Text.isAsciiDigit)
    | s => ([], s)
  let microsecond :=
    Text.ofDigits 10 ((fraction ++ List.replicate 6 '0').take 6 |>.filterMap Text.asciiDigit?)
  some ⟨hour, minute, second, microsecond, ← offset? s⟩

/-- The parts of a date that stands alone, or of a date with a time. -/
def dateParts? (least : Nat) (s : List Char) : Option ((Nat × Nat × Nat) × Option ClockParts) :=
  match takeDate? least s with
  | some (d, []) => some (d, none)
  | _ => do
    let (d, rest) ← takeDate? 1 s
    some (d, some (← clock? rest))

/-- The texts of dates: a date alone needs all digits, one with a time does not. -/
def isTimestamp (s : List Char) : Bool :=
  (dateParts? 2 s).isSome

/-! ### Plain scalars -/

/-- The words for true. -/
def trueWords : List String := ["yes", "true", "on"]

/-- The words for false. -/
def falseWords : List String := ["no", "false", "off"]

/-- A word in lower case, in upper case, or with a capital. -/
def spellings (word : String) : List String :=
  [word, word.toUpper, word.capitalize]

/-- The kind that a plain scalar has by its text. -/
def ofPlain (text : String) : Kind :=
  let s := text.toList
  if ((trueWords ++ falseWords).flatMap spellings).contains text then .bool
  else if ("" :: "~" :: spellings "null").contains text then .null
  else if text = "<<" then .merge
  else if text = "=" then .value
  else if isFloat s then .float
  else if isInt s then .int
  else if isTimestamp s then .timestamp
  else .text

end Kind
end Changefeed.Yaml
