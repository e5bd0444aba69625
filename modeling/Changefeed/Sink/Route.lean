import Changefeed.Record
import Changefeed.Settings.Basic

/-!
# Routes

The target table of a record.  A mapping in the settings wins, then the table that the event comes
from, then the last part of the topic; a schema in the settings is put in front of a name that has
none.
-/

namespace Changefeed

/-- The part of a text behind its last dot, all of it if there is none. -/
def lastSegment (s : String) : String :=
  String.ofList ((s.toList.reverse.takeWhile (· ≠ '.')).reverse)

/-- The name that a topic gives to its table. -/
def topicTable (topic : Value) : Except Fault Value :=
  match topic with
  | .text s => .ok (.text (lastSegment s))
  | v => if v.isEmpty then .ok .null else .error { kind := .noSuchAttribute }

/-- Whether a dot is part of a table name, an item of a list or the name of a member. -/
def holdsDot (table : Value) : Except Fault Bool :=
  match table with
  | .text s => .ok (s.toList.contains '.')
  | .list vs => .ok (vs.any (·.isText "."))
  | .object ms => .ok (Members.get? ms ".").isSome
  | _ => .error { kind := .wrongType }

/-- The table of a record without the schema of the settings. -/
def unqualifiedTable (settings : Settings) (r : Record) : Except Failure Value := do
  let source ← r.sourceTable.mapError Failure.fault
  match settings.mappedTable r.topic source with
  | some table => .ok (.text table)
  | none => if source.isNull then (topicTable r.topic).mapError Failure.fault else .ok source

/-- The table that a record goes to. -/
def targetTable (settings : Settings) (r : Record) : Except Failure Value := do
  let table ← unqualifiedTable settings r
  if table.isEmpty then .error (.ofReason .noTargetTable)
  else
    match settings.destination.schema with
    | none | some "" => .ok table
    | some schema =>
      if ← (holdsDot table).mapError Failure.fault then .ok table
      else .ok (.text (schema ++ "." ++ table.display))

end Changefeed
