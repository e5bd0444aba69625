import Changefeed.Yaml.Cursor

/-!
# Plain scalars

Words without quotes.  They end at a colon or a number sign that stands by itself, at the signs of
a surrounding flow collection, and in front of a line that is not indented more than what they
belong to.
-/

namespace Changefeed.Yaml

open Scan

/-- Whether a plain scalar can go on with the character `c` in front of `next`. -/
def isPlainChar (inFlow : Bool) (c : Char) (next : Option Char) : Bool :=
  if isGap c || isBreak c then false
  else if c = ':' then
    !(endsWord next || (inFlow && (next.map ",[]\x7b\x7d".toList.contains).getD false))
  else !(inFlow && ",?[]\x7b\x7d".toList.contains c)

/-- The number of characters of a plain word at the front of a text. -/
def plainLength (inFlow : Bool) : List Char → Nat
  | [] => 0
  | c :: rest => if isPlainChar inFlow c rest.head? then plainLength inFlow rest + 1 else 0

/-- Empty lines, up to a line that starts or ends a document; `none` if such a line comes. -/
def takePlainLines : (fuel : Nat) → Scan (Option (List Char))
  | 0 => return some []
  | fuel + 1 => do
    if ← atDocumentMark then return none
    skipSpaces
    match ← takeBreak with
    | some b => return (← takePlainLines fuel).map (b :: ·)
    | none => return some []

/-- What the gap behind a word stands for, and whether it holds the end of a line. -/
def takePlainGap (fuel : Nat) : Scan (List Char × Bool) := do
  let gap ← takeWhile (· = ' ')
  match ← takeBreak with
  | none => return (gap, false)
  | some b =>
    match ← takePlainLines fuel with
    | none => return ([], true)
    | some empty =>
      return ((if b ≠ '\n' then [b] else if empty.isEmpty then [' '] else []) ++ empty, true)

/-- The words of a plain scalar with the gaps between them.  `gap` stands in front of the next word,
and `line` says whether a line ended behind the last one. -/
def takeWords (inFlow : Bool) (indent : Int) :
    (fuel : Nat) → (gap : List Char) → (line : Bool) → Scan (List Char × Bool)
  | 0, _, line => return ([], line)
  | fuel + 1, gap, line => do
    let c ← get
    let n := plainLength inFlow c.rest
    if c.rest.head? = some '#' || n = 0 then return ([], line)
    let word := c.rest.take n
    skip n
    let (next, line) ← takePlainGap fuel
    let column : Int := (← get).column
    if next.isEmpty || (!inFlow && column < indent) then return (gap ++ word, line)
    let (rest, line') ← takeWords inFlow indent fuel next line
    return (gap ++ word ++ rest, line')

/-- A plain scalar in a collection that is indented to the column `outer`, and whether a line ended
behind its last word. -/
def plainScalar (inFlow : Bool) (outer : Int) : Scan (List Char × Bool) := do
  takeWords inFlow (outer + 1) ((← get).rest.length + 1) [] false

end Changefeed.Yaml
