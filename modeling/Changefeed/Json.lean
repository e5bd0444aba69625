import Changefeed.Value

/-!
# JSON documents

`Json.read` reads one document.  Numbers with a point or an exponent become doubles and the others
integers of any size; besides the grammar of the format it takes `NaN`, `Infinity` and
`-Infinity`.  Of two members with one name the later one counts.
-/

namespace Changefeed.Json

/-- Why a text is no document. -/
inductive Fault where
  | malformed
  /-- An integer has more digits than the reader takes. -/
  | tooManyDigits
deriving DecidableEq, Repr

/-- The white space of the format. -/
def isSpace (c : Char) : Bool :=
  c = ' ' || c = '\t' || c = '\n' || c = '\r'

/-- The text `s` from its first character that is no white space. -/
def skipSpace (s : List Char) : List Char :=
  s.dropWhile isSpace

/-! ### Strings -/

/-- The UTF-16 units of a string behind its opening quote, and what follows its closing quote.
`units` are those read before, in reverse. -/
def stringUnits (units : List Nat) : List Char → Option (List Nat × List Char)
  | [] => none
  | '"' :: s => some (units.reverse, s)
  | '\\' :: 'u' :: a :: b :: c :: d :: s =>
    match [a, b, c, d].mapM Text.hexDigit? with
    | some ds => stringUnits (Text.ofDigits 16 ds :: units) s
    | none => none
  | '\\' :: c :: s =>
    match c with
    | '"' => stringUnits (0x22 :: units) s
    | '\\' => stringUnits (0x5C :: units) s
    | '/' => stringUnits (0x2F :: units) s
    | 'b' => stringUnits (0x08 :: units) s
    | 'f' => stringUnits (0x0C :: units) s
    | 'n' => stringUnits (0x0A :: units) s
    | 'r' => stringUnits (0x0D :: units) s
    | 't' => stringUnits (0x09 :: units) s
    | _ => none
  | c :: s => if c.toNat < 0x20 then none else stringUnits (c.toNat :: units) s

/-- The characters of units, a pair of surrogates being one character and a lone one the
replacement character. -/
def joinUnits : List Nat → List Char
  | [] => []
  | [u] => [if 0xD800 ≤ u ∧ u < 0xE000 then '\uFFFD' else Char.ofNat u]
  | u :: w :: rest =>
    if 0xD800 ≤ u ∧ u < 0xDC00 ∧ 0xDC00 ≤ w ∧ w < 0xE000 then
      Char.ofNat (0x10000 + (u - 0xD800) * 0x400 + (w - 0xDC00)) :: joinUnits rest
    else
      (if 0xD800 ≤ u ∧ u < 0xE000 then '\uFFFD' else Char.ofNat u) :: joinUnits (w :: rest)

/-- A string behind its opening quote. -/
def readString (s : List Char) : Option (String × List Char) :=
  (stringUnits [] s).map fun (units, rest) => (String.ofList (joinUnits units), rest)

/-! ### Numbers -/

/-- The digits at the front of `s`, as their values, and what follows. -/
def takeDigits (s : List Char) : List Nat × List Char :=
  ((s.takeWhile Text.isAsciiDigit).filterMap Text.asciiDigit?, s.dropWhile Text.isAsciiDigit)

/-- The fraction at the front of `s`: a point and at least one digit. -/
def takeFraction (s : List Char) : Option (List Nat × List Char) :=
  match s with
  | '.' :: rest =>
    let (ds, rest) := takeDigits rest
    if ds.isEmpty then none else some (ds, rest)
  | _ => none

/-- The exponent at the front of `s`: the letter e, a sign or none, and at least one digit. -/
def takeExponent (s : List Char) : Option (Int × List Char) :=
  match s with
  | c :: rest =>
    if c = 'e' ∨ c = 'E' then
      let (negative, rest) := Numeral.takeSign rest
      let (ds, rest) := takeDigits rest
      if ds.isEmpty then none
      else
        let n : Int := Text.ofDigits 10 ds
        some (if negative then -n else n, rest)
    else none
  | [] => none

/-- A number without its sign. -/
def readMagnitude (negative : Bool) (s : List Char) : Except Fault (Value × List Char) :=
  let (whole, rest) := match s with
    | '0' :: rest => ([0], rest)
    | s => takeDigits s
  if whole.isEmpty then .error .malformed
  else
    let fraction := takeFraction rest
    let (fractionDigits, rest) := fraction.getD ([], rest)
    let exponent := takeExponent rest
    let (e, rest) := exponent.getD (0, rest)
    if fraction.isSome ∨ exponent.isSome then
      let digits := Text.ofDigits 10 (whole ++ fractionDigits)
      .ok (.double (.ofScientific negative digits (e - fractionDigits.length)), rest)
    else if whole.length > Numeral.maxDigits then .error .tooManyDigits
    else
      let n : Int := Text.ofDigits 10 whole
      .ok (.int (if negative then -n else n), rest)

/-! ### Values -/

/-- The words that are values. -/
def words : List (String × Value) :=
  [("null", .null), ("true", .bool true), ("false", .bool false), ("NaN", .double .nan),
    ("Infinity", .double (.infinite false)), ("-Infinity", .double (.infinite true))]

/-- A word or a number. -/
def readAtom (s : List Char) : Except Fault (Value × List Char) :=
  match words.find? fun (word, _) => word.toList.isPrefixOf s with
  | some (word, v) => .ok (v, s.drop word.length)
  | none =>
    match s with
    | '-' :: rest => readMagnitude true rest
    | s => readMagnitude false s

mutual

/-- A value at the front of `s`, and what follows. -/
def readValue : (fuel : Nat) → List Char → Except Fault (Value × List Char)
  | 0, _ => .error .malformed
  | fuel + 1, s =>
    match s with
    | '"' :: s =>
      match readString s with
      | some (t, rest) => .ok (.text t, rest)
      | none => .error .malformed
    | '[' :: s =>
      match skipSpace s with
      | ']' :: rest => .ok (.list [], rest)
      | s => readItems fuel [] s
    | '\x7b' :: s =>
      match skipSpace s with
      | '\x7d' :: rest => .ok (.object [], rest)
      | s => readMembers fuel [] s
    | s => readAtom s

/-- The items of a list up to its closing bracket.  `items` are those read before, in reverse. -/
def readItems : (fuel : Nat) → List Value → List Char → Except Fault (Value × List Char)
  | 0, _, _ => .error .malformed
  | fuel + 1, items, s => do
    let (v, s) ← readValue fuel s
    match skipSpace s with
    | ']' :: rest => .ok (.list (v :: items).reverse, rest)
    | ',' :: rest => readItems fuel (v :: items) (skipSpace rest)
    | _ => .error .malformed

/-- The members of a mapping up to its closing brace.  `members` are those read before. -/
def readMembers : (fuel : Nat) → Members → List Char → Except Fault (Value × List Char)
  | 0, _, _ => .error .malformed
  | fuel + 1, members, s =>
    match s with
    | '"' :: s =>
      match readString s with
      | none => .error .malformed
      | some (name, s) =>
        match skipSpace s with
        | ':' :: s => do
          let (v, s) ← readValue fuel (skipSpace s)
          match skipSpace s with
          | '\x7d' :: rest => .ok (.object (members.insert name v), rest)
          | ',' :: rest => readMembers fuel (members.insert name v) (skipSpace rest)
          | _ => .error .malformed
        | _ => .error .malformed
    | _ => .error .malformed

end

/-- The document that `s` is; white space may stand around it. -/
def read (s : List Char) : Except Fault Value := do
  let (v, rest) ← readValue (s.length + 1) (skipSpace s)
  if (skipSpace rest).isEmpty then .ok v else .error .malformed

end Changefeed.Json
