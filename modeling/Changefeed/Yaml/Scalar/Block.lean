import Changefeed.Yaml.Cursor

/-!
# Block scalars

Indented lines behind a bar keep their ends; behind an angle bracket the end of a line between two
lines of text counts as a space.  An indicator says what becomes of the ends behind the last line.
-/

namespace Changefeed.Yaml

open Scan

/-- What becomes of the ends of lines behind the text: one stays, none, or all. -/
inductive Chomping where
  | clip
  | strip
  | keep
deriving DecidableEq, Repr, Inhabited

/-- The sign for a chomping other than the usual one. -/
def takeChomping : Scan (Option Chomping) := do
  match ← peek with
  | some '+' =>
    skip 1
    return some .keep
  | some '-' =>
    skip 1
    return some .strip
  | _ => return none

/-- The digit for an indentation that is given. -/
def takeIncrement : Scan (Option Nat) := do
  match (← peek).bind Text.asciiDigit? with
  | some 0 => fail
  | some n =>
    skip 1
    return some n
  | none => return none

/-- The signs behind the indicator, in either order, and the rest of their line. -/
def takeBlockHeader : Scan (Chomping × Option Nat) := do
  let before ← takeChomping
  let increment ← takeIncrement
  let after ← if before.isNone && increment.isSome then takeChomping else pure none
  if !endsField (← peek) then fail
  skipLineEnd
  return ((before <|> after).getD .clip, increment)

/-- The empty lines in front of the text, and the widest indentation among them. -/
def takeLeadingLines : (fuel : Nat) → (widest : Nat) → Scan (List Char × Nat)
  | 0, widest => return ([], widest)
  | fuel + 1, widest => do
    skipSpaces
    let widest := max widest (← get).column
    match ← takeBreak with
    | some b =>
      let (bs, widest) ← takeLeadingLines fuel widest
      return (b :: bs, widest)
    | none => return ([], widest)

/-- The empty lines in front of a line that is indented to the column `indent`. -/
def takeBlankLines (indent : Nat) : (fuel : Nat) → Scan (List Char)
  | 0 => return []
  | fuel + 1 => do
    skipIndent indent
    match ← takeBreak with
    | some b => return b :: (← takeBlankLines indent fuel)
    | none => return []

/-- What stands between two lines: the end of the first, and the empty lines behind it. -/
def joinLines (folded : Bool) (b : Option Char) (blank : List Char) : List Char :=
  if folded && b = some '\n' then (if blank.isEmpty then [' '] else blank)
  else b.toList ++ blank

/-- The lines of text, indented to the column `indent`. -/
def takeLines (folded : Bool) (chomping : Chomping) (indent : Nat) :
    (fuel : Nat) → Scan (List Char)
  | 0 => return []
  | fuel + 1 => do
    let startsWithGap := ((← peek).map isGap).getD false
    let line ← takeWhile (!isBreak ·)
    let b ← takeBreak
    let blank ← takeBlankLines indent fuel
    let next ← peek
    if (← get).column = indent && next.isSome then
      let folds := folded && !startsWithGap && !((next.map isGap).getD false)
      return line ++ joinLines folds b blank ++ (← takeLines folded chomping indent fuel)
    else
      return line ++ match chomping with
        | .clip => b.toList
        | .strip => []
        | .keep => b.toList ++ blank

/-- A block scalar in a collection that is indented to the column `outer`, -1 if there is none. -/
def blockScalar (folded : Bool) (outer : Int) : Scan (List Char) := do
  skip 1
  let fuel := (← get).rest.length + 1
  let (chomping, increment) ← takeBlockHeader
  let least := (outer + 1).toNat.max 1
  let (leading, indent) ← match increment with
    | none => do
      let (leading, widest) ← takeLeadingLines fuel 0
      pure (leading, max least widest)
    | some n => do
      let indent := least + n - 1
      pure (← takeBlankLines indent fuel, indent)
  if (← get).column = indent && (← peek).isSome then
    return leading ++ (← takeLines folded chomping indent fuel)
  else
    return if chomping = .keep then leading else []

end Changefeed.Yaml
