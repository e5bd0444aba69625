import Changefeed.Yaml.Kind
import Changefeed.Yaml.Token

/-!
# Nodes

`Node.ofTokens?` gives the tree of the only document of a text, with each alias replaced by the node
that has its anchor.
-/

namespace Changefeed.Yaml

/-- A node of a document. -/
inductive Node where
  | scalar (kind : Kind) (text : String)
  | sequence (kind : Kind) (items : List Node)
  | mapping (kind : Kind) (entries : List (Node × Node))
deriving Repr, Inhabited

namespace Node

/-- What a node stands for. -/
def kind : Node → Kind
  | .scalar k _ | .sequence k _ | .mapping k _ => k

/-- The node where a document has nothing. -/
def absent : Node :=
  .scalar .null ""

end Node

/-- The tokens that are left, what the handles of tags stand for, and the nodes with an anchor. -/
structure Reading where
  tokens : List Token
  handles : List (String × String)
  anchors : List (String × Node) := []
deriving Inhabited

/-- A step of reading nodes. -/
abbrev Read := StateT Reading (Except Fault)

namespace Read

/-- The next token. -/
def peek : Read Token := do
  return (← get).tokens.headD .streamEnd

/-- Passes over a token. -/
def drop : Read Unit :=
  modify fun r => { r with tokens := r.tokens.tail }

/-- The next token cannot stand where it does. -/
def fail {α : Type} : Read α := do
  match ← peek with
  | .unreadable f => throw f
  | _ => throw { kind := .invalidYaml }

/-- Passes over the given token, which has to come next. -/
def expect (t : Token) : Read Unit := do
  if (← peek) = t then drop else fail

/-! ### Properties -/

/-- An anchor, if one comes next. -/
def anchor? : Read (Option String) := do
  match ← peek with
  | .anchor name =>
    drop
    return some name
  | _ => return none

/-- A tag, if one comes next. -/
def tag? : Read (Option RawTag) := do
  match ← peek with
  | .tag t =>
    drop
    return some t
  | _ => return none

/-- An anchor and a tag in either order, either of which may be lacking. -/
def properties : Read (Option String × Option RawTag) := do
  match ← anchor? with
  | some name => return (some name, ← tag?)
  | none =>
    match ← tag? with
    | some t => return (← anchor?, some t)
    | none => return (none, none)

/-- A tag in full; its handle has to be known. -/
def fullTag (t : RawTag) : Read String := do
  match t.handle with
  | none => return t.suffix
  | some handle =>
    match (← get).handles.lookup handle with
    | some start => return start ++ t.suffix
    | none => fail

/-- The kind of a node that is no scalar. -/
def kindOr (otherwise : Kind) (tag : Option String) : Kind :=
  match tag with
  | none | some "!" => otherwise
  | some tag => .ofTag tag

/-- The kind of a scalar: a plain one without a tag, and any with the tag for that, has the kind
that its text looks like. -/
def scalarKind (tag : Option String) (isPlain : Bool) (text : String) : Kind :=
  match tag with
  | none => if isPlain then .ofPlain text else .text
  | some "!" => .ofPlain text
  | some tag => .ofTag tag

/-- Notes the node that an anchor stands for. -/
def note (anchor : Option String) (n : Node) : Read Unit :=
  match anchor with
  | some name => modify fun r => { r with anchors := (name, n) :: r.anchors }
  | none => return ()

/-! ### Nodes -/

/-- Where a node may stand: in a flow collection, in block style, or in block style where a
sequence needs no indentation of its own. -/
inductive Place where
  | flow
  | block
  | value
deriving DecidableEq, Repr, Inhabited

mutual

/-- A node. -/
def node (place : Place) : (fuel : Nat) → Read Node
  | 0 => fail
  | fuel + 1 => do
    match ← peek with
    | .alias name =>
      match (← get).anchors.lookup name with
      | some n =>
        drop
        return n
      | none => fail
    | _ =>
      let (anchor, raw) ← properties
      let tag ← raw.mapM fullTag
      let known := (← get).anchors
      if (anchor.bind fun name => known.lookup name).isSome then fail
      let listKind := kindOr .sequence tag
      let mapKind := kindOr .mapping tag
      let n ← match ← peek with
        | .scalar text isPlain =>
          drop
          pure (.scalar (scalarKind tag isPlain text) text)
        | .flowSequenceStart =>
          note anchor (.sequence listKind [])
          drop
          pure (.sequence listKind (← flowItems true fuel))
        | .flowMappingStart =>
          note anchor (.mapping mapKind [])
          drop
          pure (.mapping mapKind (← flowEntries true fuel))
        | t =>
          if t = .blockEntry && place = .value then
            note anchor (.sequence listKind [])
            pure (.sequence listKind (← plainItems fuel))
          else if t = .blockSequenceStart && place ≠ .flow then
            note anchor (.sequence listKind [])
            drop
            pure (.sequence listKind (← blockItems fuel))
          else if t = .blockMappingStart && place ≠ .flow then
            note anchor (.mapping mapKind [])
            drop
            pure (.mapping mapKind (← blockEntries fuel))
          else if anchor.isSome || tag.isSome then
            pure (.scalar (scalarKind tag true "") "")
          else fail
      note anchor n
      return n

/-- A node, or none where one of the given tokens comes next. -/
def nodeUnless (stops : List Token) (place : Place) : (fuel : Nat) → Read Node
  | 0 => fail
  | fuel + 1 => do
    if stops.contains (← peek) then return .absent else node place fuel

/-- The items of an indented block sequence. -/
def blockItems : (fuel : Nat) → Read (List Node)
  | 0 => fail
  | fuel + 1 => do
    match ← peek with
    | .blockEntry =>
      drop
      let n ← nodeUnless [.blockEntry, .blockEnd] .block fuel
      return n :: (← blockItems fuel)
    | _ =>
      expect .blockEnd
      return []

/-- The items of a block sequence without an indentation of its own. -/
def plainItems : (fuel : Nat) → Read (List Node)
  | 0 => fail
  | fuel + 1 => do
    match ← peek with
    | .blockEntry =>
      drop
      let n ← nodeUnless [.blockEntry, .key, .value, .blockEnd] .block fuel
      return n :: (← plainItems fuel)
    | _ => return []

/-- The entries of a block mapping. -/
def blockEntries : (fuel : Nat) → Read (List (Node × Node))
  | 0 => fail
  | fuel + 1 => do
    let stops := [.key, .value, .blockEnd]
    match ← peek with
    | .key =>
      drop
      let k ← nodeUnless stops .value fuel
      let v ← match ← peek with
        | .value =>
          drop
          nodeUnless stops .value fuel
        | _ => pure .absent
      return (k, v) :: (← blockEntries fuel)
    | _ =>
      expect .blockEnd
      return []

/-- The items of a flow sequence; one of them may be a single entry of a mapping. -/
def flowItems (isFirst : Bool) : (fuel : Nat) → Read (List Node)
  | 0 => fail
  | fuel + 1 => do
    if (← peek) = .flowSequenceEnd then
      drop
      return []
    if !isFirst then expect .flowEntry
    match ← peek with
    | .key =>
      drop
      let k ← nodeUnless [.value, .flowEntry, .flowSequenceEnd] .flow fuel
      let v ← flowValue .flowSequenceEnd fuel
      return .mapping .mapping [(k, v)] :: (← flowItems false fuel)
    | .flowSequenceEnd =>
      drop
      return []
    | _ =>
      let n ← node .flow fuel
      return n :: (← flowItems false fuel)

/-- The entries of a flow mapping; a value may be lacking. -/
def flowEntries (isFirst : Bool) : (fuel : Nat) → Read (List (Node × Node))
  | 0 => fail
  | fuel + 1 => do
    if (← peek) = .flowMappingEnd then
      drop
      return []
    if !isFirst then expect .flowEntry
    match ← peek with
    | .key =>
      drop
      let k ← nodeUnless [.value, .flowEntry, .flowMappingEnd] .flow fuel
      let v ← flowValue .flowMappingEnd fuel
      return (k, v) :: (← flowEntries false fuel)
    | .flowMappingEnd =>
      drop
      return []
    | _ =>
      let k ← node .flow fuel
      return (k, .absent) :: (← flowEntries false fuel)

/-- The value behind a key in a flow collection, if there is one. -/
def flowValue (close : Token) : (fuel : Nat) → Read Node
  | 0 => fail
  | fuel + 1 => do
    match ← peek with
    | .value =>
      drop
      nodeUnless [.flowEntry, close] .flow fuel
    | _ => return .absent

end

/-! ### Documents -/

/-- The handles that every document knows. -/
def commonHandles : List (String × String) :=
  [("!", "!"), ("!!", Kind.tagStart)]

/-- The directives in front of a document: one version at most, of the first generation, and each
handle once. -/
def directives : (fuel : Nat) → (hasVersion : Bool) → Read Unit
  | 0, _ => fail
  | fuel + 1, hasVersion => do
    match ← peek with
    | .directive d =>
      match d with
      | .version major =>
        if hasVersion || major ≠ 1 then fail
        drop
        directives fuel true
      | .tagHandle handle start =>
        if ((← get).handles.lookup handle).isSome then fail
        drop
        modify fun r => { r with handles := (handle, start) :: r.handles }
        directives fuel hasVersion
      | .other =>
        drop
        directives fuel hasVersion
    | _ => return ()

/-- Passes over signs for the end of a document. -/
def dropDocumentEnds : (fuel : Nat) → Read Unit
  | 0 => return ()
  | fuel + 1 => do
    if (← peek) = .documentEnd then
      drop
      dropDocumentEnds fuel

/-- Whether a token can only stand in front of a document or behind the last one. -/
def isOutside : Token → Bool
  | .directive _ | .documentStart | .streamEnd => true
  | _ => false

/-- The content of a document behind its start, which may be lacking. -/
def content (fuel : Nat) : Read Node := do
  let t ← peek
  if isOutside t || t = .documentEnd then return .absent else node .block fuel

/-- The only document, if there is one. -/
def document (fuel : Nat) : Read (Option Node) := do
  let t ← peek
  if t = .streamEnd then return none
  let n ← if isOutside t then do
      directives fuel false
      expect .documentStart
      modify fun r => { r with handles := r.handles ++ commonHandles }
      content fuel
    else do
      modify fun r => { r with handles := commonHandles }
      node .block fuel
  dropDocumentEnds fuel
  expect .streamEnd
  return some n

end Read

/-- The node of the only document, if there is one. -/
def Node.ofTokens? (tokens : List Token) : Except Fault (Option Node) := do
  let (n, _) ← Read.document (3 * tokens.length + 3) { tokens, handles := [] }
  return n

end Changefeed.Yaml
