import Changefeed.Yaml.Cursor

/-!
# Quoted scalars

Text between single or double quotes.  Within it the end of a line counts as a space, and empty
lines count as ends of lines; double quotes also have escapes.
-/

namespace Changefeed.Yaml

open Scan

/-- The escapes of one character. -/
def escapes : List (Char × Char) :=
  [('0', '\x00'), ('a', '\x07'), ('b', '\x08'), ('t', '\t'), ('\t', '\t'), ('n', '\n'),
    ('v', '\x0B'), ('f', '\x0C'), ('r', '\r'), ('e', '\x1B'), (' ', ' '), ('"', '"'),
    ('\\', '\\'), ('/', '/'), ('N', '\u0085'), ('_', '\u00A0'), ('L', '\u2028'), ('P', '\u2029')]

/-- The escapes that give the number of a character, and how many digits it has. -/
def escapeWidths : List (Char × Nat) :=
  [('x', 2), ('u', 4), ('U', 8)]

/-- The character with a number. -/
def charOfNumber (n : Nat) : Scan Char :=
  if n < 0x110000 then return Char.ofNat n
  else if n ≤ 0x7FFFFFFF then throw { kind := .invalidValue }
  else throw { kind := .outOfRange }

/-- The number that the next `width` hexadecimal digits give. -/
def takeHex (width : Nat) : Scan Nat := do
  match ((← get).rest.take width).mapM Text.hexDigit? with
  | some ds =>
    if ds.length < width then fail
    else
      skip width
      return Text.ofDigits 16 ds
  | none => fail

/-- The ends of empty lines, with the gaps in front of them.  A new document must not start here. -/
def takeEmptyLines : (fuel : Nat) → Scan (List Char)
  | 0 => return []
  | fuel + 1 => do
    if ← atDocumentMark then fail
    let _ ← takeWhile isGap
    match ← takeBreak with
    | some b => return b :: (← takeEmptyLines fuel)
    | none => return []

/-- An escape behind its backslash. -/
def takeEscape (fuel : Nat) : Scan (List Char) := do
  match ← peek with
  | none => fail
  | some c =>
    match escapes.lookup c, escapeWidths.lookup c with
    | some d, _ =>
      skip 1
      return [d]
    | none, some width =>
      skip 1
      return [← charOfNumber (← takeHex width)]
    | none, none =>
      match ← takeBreak with
      | some _ => takeEmptyLines fuel
      | none => fail

/-- What a gap or the end of a line between words stands for. -/
def takeFold (fuel : Nat) : Scan (List Char) := do
  let gap ← takeWhile isGap
  match ← peek with
  | none => fail
  | some _ =>
    match ← takeBreak with
    | none => return gap
    | some b =>
      let empty ← takeEmptyLines fuel
      return (if b ≠ '\n' then [b] else if empty.isEmpty then [' '] else []) ++ empty

/-- The rest of a quoted scalar up to its closing quote. -/
def takeQuoted (double : Bool) : (fuel : Nat) → Scan (List Char)
  | 0 => fail
  | fuel + 1 => do
    let word ← takeWhile fun c => !(isGap c || isBreak c || c = '\'' || c = '"' || c = '\\')
    let quote := if double then '"' else '\''
    match ← peek, ← peekAt 1 with
    | none, _ => fail
    | some c, next =>
      if c = '\'' && !double && next = some '\'' then
        skip 2
        return word ++ '\'' :: (← takeQuoted double fuel)
      else if c = quote then
        skip 1
        return word
      else if c = '\\' && double then
        skip 1
        return word ++ (← takeEscape fuel) ++ (← takeQuoted double fuel)
      else if isGap c || isBreak c then
        return word ++ (← takeFold fuel) ++ (← takeQuoted double fuel)
      else
        skip 1
        return word ++ c :: (← takeQuoted double fuel)

/-- A quoted scalar. -/
def quotedScalar (double : Bool) : Scan (List Char) := do
  skip 1
  takeQuoted double ((← get).rest.length + 1)

end Changefeed.Yaml
