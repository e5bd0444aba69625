import Changefeed.Yaml.Cursor

/-!
# Tags, anchors and directives

The properties that stand in front of a node, and the directives that stand in front of a document.
A tag is written with a handle, which directives can define, and a suffix.
-/

namespace Changefeed.Yaml

open Scan

/-- A tag as it is written: a handle, unless the tag is given in full, and what follows it. -/
structure RawTag where
  handle : Option String
  suffix : String
deriving DecidableEq, Repr, Inhabited

/-- A directive. -/
inductive Directive where
  | version (major : Nat)
  | tagHandle (handle start : String)
  | other
deriving DecidableEq, Repr, Inhabited

/-- A name of at least one character. -/
def takeName : Scan String := do
  let name ← takeWhile isNameChar
  if name.isEmpty then fail else return String.ofList name

/-- The name of an anchor or an alias, behind its sign. -/
def anchorName : Scan String := do
  skip 1
  let name ← takeName
  let next ← peek
  if endsWord next || (next.map "?:,]\x7d%@\x60".toList.contains).getD false then return name
  else fail

/-! ### Tags -/

/-- The characters of tags besides ASCII letters, digits and escapes. -/
def tagMarks : List Char :=
  "-;/?:@&=+$,_.!~*'()[]".toList

/-- The bytes that escapes of a percent sign and two digits stand for. -/
def takeTagBytes : (fuel : Nat) → Scan (List UInt8)
  | 0 => return []
  | fuel + 1 => do
    match (← get).rest with
    | '%' :: a :: b :: _ =>
      match Text.hexDigit? a, Text.hexDigit? b with
      | some x, some y =>
        skip 3
        return UInt8.ofNat (x * 16 + y) :: (← takeTagBytes fuel)
      | _, _ => fail
    | '%' :: _ => fail
    | _ => return []

/-- The characters of a tag, of which there may be none. -/
def takeTagChars : (fuel : Nat) → Scan (List Char)
  | 0 => return []
  | fuel + 1 => do
    let plain ← takeWhile fun c => c.isAlphanum || tagMarks.contains c
    if (← peek) = some '%' then
      let bytes ← takeTagBytes ((← get).rest.length + 1)
      match String.fromUTF8? ⟨bytes.toArray⟩ with
      | some s => return plain ++ s.toList ++ (← takeTagChars fuel)
      | none => fail
    else return plain

/-- The characters of a tag. -/
def tagText : Scan String := do
  let cs ← takeTagChars ((← get).rest.length + 1)
  if cs.isEmpty then fail else return String.ofList cs

/-- A handle: an exclamation mark, or a name between two. -/
def tagHandle : Scan String := do
  if (← peek) ≠ some '!' then fail
  skip 1
  if (← peek) = some ' ' then return "!"
  else
    let name ← takeWhile isNameChar
    if (← peek) = some '!' then
      skip 1
      return "!" ++ String.ofList name ++ "!"
    else fail

/-- Whether a second exclamation mark follows in the same word. -/
def hasHandle (s : List Char) : Bool :=
  (s.takeWhile fun c => !(c = ' ' || isBreak c)).contains '!'

/-- A tag. -/
def rawTag : Scan RawTag := do
  let tag ← match ← peekAt 1 with
    | some '<' => do
      skip 2
      let suffix ← tagText
      if (← peek) ≠ some '>' then fail
      skip 1
      pure ⟨none, suffix⟩
    | next => do
      if endsWord next then
        skip 1
        pure ⟨none, "!"⟩
      else if hasHandle ((← get).rest.drop 1) then
        let handle ← tagHandle
        pure ⟨some handle, ← tagText⟩
      else
        skip 1
        pure ⟨some "!", ← tagText⟩
  if endsField (← peek) then return tag else fail

/-! ### Directives -/

/-- A number of a version. -/
def versionNumber : Scan Nat := do
  let ds ← takeWhile Text.isAsciiDigit
  if ds.isEmpty then fail else return Text.ofDigits 10 (ds.filterMap Text.asciiDigit?)

/-- The version of the format that a document follows; the first number decides. -/
def versionValue : Scan Directive := do
  skipSpaces
  let major ← versionNumber
  if (← peek) ≠ some '.' then fail
  skip 1
  let _ ← versionNumber
  if endsField (← peek) then return .version major else fail

/-- The handle that a directive defines, and what it stands for. -/
def handleValue : Scan Directive := do
  skipSpaces
  let handle ← tagHandle
  if (← peek) ≠ some ' ' then fail
  skipSpaces
  let start ← tagText
  if endsField (← peek) then return .tagHandle handle start else fail

/-- A directive with the rest of its line. -/
def directive : Scan Directive := do
  skip 1
  let name ← takeName
  if !endsField (← peek) then fail
  let d ← match name with
    | "YAML" => versionValue
    | "TAG" => handleValue
    | _ => do
      let _ ← takeWhile (!isBreak ·)
      pure .other
  skipLineEnd
  return d

end Changefeed.Yaml
