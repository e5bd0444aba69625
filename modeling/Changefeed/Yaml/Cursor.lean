import Changefeed.Failure

/-!
# Reading YAML character by character

The layout of a YAML document matters, so a `Cursor` keeps the line and the column of what follows.
A `Scan` moves a cursor and may find that the text is no YAML.
-/

namespace Changefeed.Yaml

/-! ### Classes of characters -/

/-- The characters that end a line. -/
def isBreak (c : Char) : Bool :=
  c = '\n' || c = '\u0085' || c = '\u2028' || c = '\u2029'

/-- A space or a tab. -/
def isGap (c : Char) : Bool :=
  c = ' ' || c = '\t'

/-- The end of the text or of a line. -/
def endsLine : Option Char → Bool
  | none => true
  | some c => isBreak c

/-- What ends a word: a gap, the end of a line or of the text. -/
def endsWord : Option Char → Bool
  | none => true
  | some c => isGap c || isBreak c

/-- A space, the end of a line or of the text. -/
def endsField (c : Option Char) : Bool :=
  c = some ' ' || endsLine c

/-- The characters of names: ASCII letters and digits, the hyphen and the underscore. -/
def isNameChar (c : Char) : Bool :=
  c.isAlphanum || c = '-' || c = '_'

/-- The characters that a document may hold. -/
def isPrintable (c : Char) : Bool :=
  let n := c.toNat
  c = '\t' || c = '\n' || c = '\r' || (0x20 ≤ n && n ≤ 0x7E) || n = 0x85 ||
    (0xA0 ≤ n && n ≠ 0xFFFE && n ≠ 0xFFFF)

/-! ### Cursors -/

/-- What is left of a text, and where it stands. -/
structure Cursor where
  rest : List Char
  index : Nat := 0
  line : Nat := 0
  column : Nat := 0
deriving Repr, Inhabited

namespace Cursor

/-- The cursor behind the next character.  A byte order mark has no width. -/
def step (c : Cursor) : Cursor :=
  match c.rest with
  | [] => c
  | ch :: rest =>
    if isBreak ch then { rest, index := c.index + 1, line := c.line + 1, column := 0 }
    else if ch = '\uFEFF' then { c with rest, index := c.index + 1 }
    else { c with rest, index := c.index + 1, column := c.column + 1 }

/-- The cursor `n` characters further on. -/
def advance : (n : Nat) → Cursor → Cursor
  | 0, c => c
  | n + 1, c => advance n c.step

end Cursor

/-! ### Scans -/

/-- A step through a text. -/
abbrev Scan := StateT Cursor (Except Fault)

namespace Scan

/-- The text is no YAML. -/
def fail {α : Type} : Scan α :=
  fun _ => .error { kind := .invalidYaml }

/-- The next character. -/
def peek : Scan (Option Char) := do
  return (← get).rest.head?

/-- The character `k` places behind the next one. -/
def peekAt (k : Nat) : Scan (Option Char) := do
  return (← get).rest[k]?

/-- Passes over `n` characters. -/
def skip (n : Nat) : Scan Unit :=
  modify (Cursor.advance n)

/-- The characters of a class at the front. -/
def takeWhile (p : Char → Bool) : Scan (List Char) := do
  let taken := (← get).rest.takeWhile p
  skip taken.length
  return taken

/-- Passes over spaces. -/
def skipSpaces : Scan Unit := do
  let _ ← takeWhile (· = ' ')

/-- Passes over the end of a line, if it comes next, and gives the character that it counts as. -/
def takeBreak : Scan (Option Char) := do
  match ← peek with
  | some c =>
    if isBreak c then
      skip 1
      return some (if c = '\u0085' then '\n' else c)
    else return none
  | none => return none

/-- Whether a line of three hyphens or three dots comes next, at the start of a line. -/
def atDocumentMark : Scan Bool := do
  let rest := (← get).rest
  return (rest.take 3 = "---".toList || rest.take 3 = "...".toList) && endsWord rest[3]?

/-- Passes over the rest of a line, which may hold a comment only. -/
def skipLineEnd : Scan Unit := do
  skipSpaces
  if (← peek) = some '#' then
    let _ ← takeWhile (!isBreak ·)
  if !endsLine (← peek) then fail
  let _ ← takeBreak

/-- Passes over spaces up to the column `indent`. -/
def skipIndent (indent : Nat) : Scan Unit := do
  let c ← get
  skip (min (c.rest.takeWhile (· = ' ')).length (indent - c.column))

end Scan
end Changefeed.Yaml
