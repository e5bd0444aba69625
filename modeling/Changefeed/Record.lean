import Changefeed.Failure

/-!
# Records

A record is a change event as a topic delivers it: the key and the value of the event as raw
documents, and the name of the topic.
-/

namespace Changefeed

/-- A record of a topic.  Each part may be any value. -/
structure Record where
  value : Value
  key : Value := .null
  topic : Value := .null
deriving BEq, Repr, Inhabited

/-- The members of a part of a document; a part that counts as not given has none. -/
def Value.membersIfGiven (v : Value) : Except Fault Members :=
  match v with
  | .object ms => .ok ms
  | v => if v.isEmpty then .ok [] else .error { kind := .noSuchAttribute }

namespace Record

/-- Whether a record only says that older ones with its key may be dropped. -/
def isTombstone (r : Record) : Bool :=
  r.value.isNull

/-- The table that the event says it comes from, of whatever kind it is; null if it says none. -/
def sourceTable (r : Record) : Except Fault Value := do
  let value ← r.value.membersIfGiven
  let payload ← (Members.get value "payload").membersIfGiven
  let source ← (Members.get payload "source").membersIfGiven
  .ok (Members.get source "table")

/-- The record that a document describes. -/
def ofMembers (ms : Members) : Record where
  value := Members.get ms "value"
  key := Members.get ms "key"
  topic := Members.get ms "topic"

end Record
end Changefeed
