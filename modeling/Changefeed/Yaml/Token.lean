import Changefeed.Yaml.Scalar.Block
import Changefeed.Yaml.Scalar.Plain
import Changefeed.Yaml.Scalar.Quoted
import Changefeed.Yaml.Tag

/-!
# Tokens

`Token.ofText` splits a YAML text into tokens.  In block style the indentation of a line opens and
closes collections, and a value that turns out to be followed by a colon is the key of a mapping;
the tokens for these are added where they belong (`Layout`).
-/

namespace Changefeed.Yaml

/-- A token. -/
inductive Token where
  | directive (d : Directive)
  | documentStart
  | documentEnd
  | blockSequenceStart
  | blockMappingStart
  | blockEnd
  | blockEntry
  | flowSequenceStart
  | flowSequenceEnd
  | flowMappingStart
  | flowMappingEnd
  | flowEntry
  | key
  | value
  | alias (name : String)
  | anchor (name : String)
  | tag (t : RawTag)
  | scalar (text : String) (isPlain : Bool)
  | streamEnd
  /-- The text behind is no YAML. -/
  | unreadable (f : Fault)
deriving DecidableEq, Repr, Inhabited

/-! ### Layout -/

/-- A place where the key of a mapping may have started: the number of the token there, whether
nothing but a key can stand there, and where in the text it is. -/
structure PossibleKey where
  token : Nat
  isRequired : Bool
  index : Nat
  line : Nat
  column : Nat
deriving DecidableEq, Repr, Inhabited

/-- The tokens so far, the indentation of the open collections in block style, the number of open
flow collections, and the possible keys by that number. -/
structure Layout where
  cursor : Cursor
  tokens : List Token := []
  indent : Int := -1
  outer : List Int := []
  flow : Nat := 0
  keyAllowed : Bool := true
  keys : List (Nat × PossibleKey) := []
deriving Inhabited

/-- A step of reading tokens. -/
abbrev Lay := StateT Layout (Except Fault)

namespace Lay

/-- The text is no YAML. -/
def fail {α : Type} : Lay α :=
  fun _ => .error { kind := .invalidYaml }

/-- A step through the text. -/
def scan {α : Type} (x : Scan α) : Lay α := fun l => do
  let (a, cursor) ← x l.cursor
  return (a, { l with cursor })

/-- The column of what follows. -/
def column : Lay Nat := do
  return (← get).cursor.column

/-- Adds a token. -/
def emit (t : Token) : Lay Unit :=
  modify fun l => { l with tokens := l.tokens ++ [t] }

/-- Adds a token in front of the one with a number. -/
def emitBefore (n : Nat) (t : Token) : Lay Unit :=
  modify fun l => { l with tokens := l.tokens.take n ++ t :: l.tokens.drop n }

/-- Sets whether a key may start behind. -/
def allowKey (b : Bool) : Lay Unit :=
  modify fun l => { l with keyAllowed := b }

/-- Closes the collections that are indented more than a column. -/
def closeTo (column : Int) : Lay Unit :=
  modify fun l =>
    if l.flow ≠ 0 then l
    else
      let levels := l.indent :: l.outer
      let closed := (levels.takeWhile (· > column)).length
      match levels.drop closed with
      | indent :: outer =>
        { l with indent, outer, tokens := l.tokens ++ List.replicate closed .blockEnd }
      | [] => l

/-- Opens a collection at a column that is indented more than those before; says whether it did. -/
def openAt (column : Int) : Lay Bool := do
  let l ← get
  if l.indent < column then
    set { l with indent := column, outer := l.indent :: l.outer }
    return true
  else return false

/-- Gives up possible keys that lie on a line before or too far back. -/
def dropStaleKeys : Lay Unit := do
  let l ← get
  let isStale := fun (k : PossibleKey) =>
    k.line ≠ l.cursor.line || l.cursor.index - k.index > 1024
  if l.keys.any fun (_, k) => isStale k && k.isRequired then fail
  set { l with keys := l.keys.filter fun (_, k) => !isStale k }

/-- Gives up the possible key in the innermost collection. -/
def dropKey : Lay Unit := do
  let l ← get
  match l.keys.lookup l.flow with
  | some k =>
    if k.isRequired then fail
    set { l with keys := l.keys.filter (·.1 ≠ l.flow) }
  | none => return ()

/-- Notes that a key may start here. -/
def noteKey : Lay Unit := do
  if (← get).keyAllowed then
    dropKey
    modify fun l =>
      let k : PossibleKey := {
        token := l.tokens.length
        isRequired := l.flow = 0 && l.indent = l.cursor.column
        index := l.cursor.index
        line := l.cursor.line
        column := l.cursor.column }
      { l with keys := (l.flow, k) :: l.keys }

/-! ### Tokens of each kind -/

/-- Passes over spaces, comments and ends of lines. -/
def skipToToken : (fuel : Nat) → Lay Unit
  | 0 => return ()
  | fuel + 1 => do
    scan Scan.skipSpaces
    if (← scan Scan.peek) = some '#' then
      let _ ← scan (Scan.takeWhile (!isBreak ·))
    match ← scan Scan.takeBreak with
    | some _ =>
      if (← get).flow = 0 then allowKey true
      skipToToken fuel
    | none => return ()

/-- Closes everything that is indented, before a sign at the level of documents. -/
def leaveDocument : Lay Unit := do
  closeTo (-1)
  dropKey
  allowKey false

/-- The start or the end of a document. -/
def documentMark (t : Token) : Lay Unit := do
  leaveDocument
  scan (Scan.skip 3)
  emit t

/-- The opening bracket of a flow collection. -/
def openFlow (t : Token) : Lay Unit := do
  noteKey
  modify fun l => { l with flow := l.flow + 1 }
  allowKey true
  scan (Scan.skip 1)
  emit t

/-- The closing bracket of a flow collection. -/
def closeFlow (t : Token) : Lay Unit := do
  dropKey
  if (← get).flow = 0 then fail
  modify fun l => { l with flow := l.flow - 1 }
  allowKey false
  scan (Scan.skip 1)
  emit t

/-- The comma between items of a flow collection. -/
def flowComma : Lay Unit := do
  allowKey true
  dropKey
  scan (Scan.skip 1)
  emit .flowEntry

/-- Opens a block collection in front of a sign, which has to stand where a key may start. -/
def startBlock (start : Token) : Lay Unit := do
  if (← get).flow = 0 then
    if !(← get).keyAllowed then fail
    if ← openAt (← column) then emit start

/-- The hyphen in front of an item. -/
def blockItem : Lay Unit := do
  startBlock .blockSequenceStart
  allowKey true
  dropKey
  scan (Scan.skip 1)
  emit .blockEntry

/-- The question mark in front of a key. -/
def explicitKey : Lay Unit := do
  startBlock .blockMappingStart
  allowKey ((← get).flow = 0)
  dropKey
  scan (Scan.skip 1)
  emit .key

/-- The colon behind a key, which may show only now that there was one. -/
def valueMark : Lay Unit := do
  let l ← get
  match l.keys.lookup l.flow with
  | some k =>
    set { l with keys := l.keys.filter (·.1 ≠ l.flow) }
    emitBefore k.token .key
    if l.flow = 0 then
      if ← openAt k.column then emitBefore k.token .blockMappingStart
    allowKey false
  | none =>
    startBlock .blockMappingStart
    allowKey (l.flow = 0)
    dropKey
  scan (Scan.skip 1)
  emit .value

/-- A token that a key may start with. -/
def keyStart (x : Scan Token) : Lay Unit := do
  noteKey
  allowKey false
  emit (← scan x)

/-- A plain scalar.  Behind the end of a line another key may start. -/
def plain : Lay Unit := do
  noteKey
  let l ← get
  let (text, endsLine) ← scan (plainScalar (l.flow ≠ 0) l.indent)
  allowKey endsLine
  emit (.scalar (String.ofList text) true)

/-- A quoted scalar. -/
def quoted (double : Bool) : Lay Unit :=
  keyStart do return .scalar (String.ofList (← quotedScalar double)) false

/-- A block scalar. -/
def block (folded : Bool) : Lay Unit := do
  allowKey true
  dropKey
  let text ← scan (blockScalar folded (← get).indent)
  emit (.scalar (String.ofList text) false)

/-- Whether a plain scalar may start with the character `c` in front of `next`. -/
def startsPlain (inFlow : Bool) (c : Char) (next : Option Char) : Bool :=
  !(isGap c || isBreak c || "-?:,[]\x7b\x7d#&*!|>'\"%@\x60".toList.contains c) ||
    (!endsWord next && (c = '-' || (!inFlow && (c = '?' || c = ':'))))

/-- The token that starts with the character `c` in front of `next`. -/
def dispatch (c : Char) (next : Option Char) : Lay Unit := do
  let l ← get
  let inFlow := l.flow ≠ 0
  let atMark ← scan Scan.atDocumentMark
  if c = '%' && l.cursor.column = 0 then
    leaveDocument
    emit (.directive (← scan directive))
  else if c = '-' && l.cursor.column = 0 && atMark then documentMark .documentStart
  else if c = '.' && l.cursor.column = 0 && atMark then documentMark .documentEnd
  else if c = '[' then openFlow .flowSequenceStart
  else if c = '\x7b' then openFlow .flowMappingStart
  else if c = ']' then closeFlow .flowSequenceEnd
  else if c = '\x7d' then closeFlow .flowMappingEnd
  else if c = ',' then flowComma
  else if c = '-' && endsWord next then blockItem
  else if c = '?' && (inFlow || endsWord next) then explicitKey
  else if c = ':' && (inFlow || endsWord next) then valueMark
  else if c = '*' then keyStart do return .alias (← anchorName)
  else if c = '&' then keyStart do return .anchor (← anchorName)
  else if c = '!' then keyStart do return .tag (← rawTag)
  else if c = '|' && !inFlow then block false
  else if c = '>' && !inFlow then block true
  else if c = '\'' then quoted false
  else if c = '"' then quoted true
  else if startsPlain inFlow c next then plain
  else fail

/-- The next token with those that belong in front of it; says whether the text goes on. -/
def next : Lay Bool := do
  skipToToken ((← get).cursor.rest.length + 1)
  dropStaleKeys
  closeTo (← column)
  match ← scan Scan.peek with
  | none =>
    leaveDocument
    emit .streamEnd
    return false
  | some c =>
    dispatch c (← scan (Scan.peekAt 1))
    return true

end Lay

namespace Token

/-- The tokens of the rest of a text, the last of which tells how it ends. -/
def read : (fuel : Nat) → Layout → List Token
  | 0, l => l.tokens ++ [.unreadable { kind := .invalidYaml }]
  | fuel + 1, l =>
    match Lay.next l with
    | .error f => l.tokens ++ [.unreadable f]
    | .ok (true, l) => read fuel l
    | .ok (false, l) => l.tokens

/-- The tokens of a text. -/
def ofText (s : List Char) : List Token :=
  if s.all isPrintable then
    let cursor : Cursor := { rest := s }
    read (s.length + 1) { cursor := if s.head? = some '\uFEFF' then cursor.step else cursor }
  else [.unreadable { kind := .invalidYaml }]

end Token
end Changefeed.Yaml
