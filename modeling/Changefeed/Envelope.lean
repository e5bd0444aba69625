import Changefeed.Failure

/-!
# Envelopes of change events

A change event has a key and a value envelope: a schema and a payload each.  `KeyEnvelope.read` and
`ValueEnvelope.read` check a document against the shape of an envelope and ignore members that the
shape does not name; `toValue` writes an envelope back as a document.
-/

namespace Changefeed

/-! ### Operations -/

/-- What happened to a row, or why there is an event without a changed row. -/
inductive Operation where
  | read
  | create
  | update
  | delete
  | truncate
  | message
deriving DecidableEq, Repr, Inhabited

namespace Operation

/-- The operations in the order of their declaration. -/
def all : List Operation := [.read, .create, .update, .delete, .truncate, .message]

/-- The code that events carry. -/
def code : Operation → String
  | .read => "r"
  | .create => "c"
  | .update => "u"
  | .delete => "d"
  | .truncate => "t"
  | .message => "m"

/-- The name in capitals. -/
def name : Operation → String
  | .read => "READ"
  | .create => "CREATE"
  | .update => "UPDATE"
  | .delete => "DELETE"
  | .truncate => "TRUNCATE"
  | .message => "MESSAGE"

/-- The name in lower case, which labels counters. -/
def label : Operation → String
  | .read => "read"
  | .create => "create"
  | .update => "update"
  | .delete => "delete"
  | .truncate => "truncate"
  | .message => "message"

/-- The operation with a code. -/
def ofCode? (s : String) : Option Operation :=
  all.find? (·.code = s)

/-- The operation that a raw value names: only a text can. -/
def ofValue? : Value → Option Operation
  | .text s => ofCode? s
  | _ => none

/-- Each operation is found by its code. -/
@[simp] theorem ofCode?_code (op : Operation) : ofCode? op.code = some op := by
  cases op <;> decide

end Operation

/-! ### Schemas -/

/-- The schema of a field, or of a record with its fields. -/
inductive FieldSchema where
  | mk (type : String) (field name : Option String) (isOptional : Bool) (parameters : Members)
      (fields : List FieldSchema)
deriving BEq, Repr, Inhabited

namespace FieldSchema

/-- The type of the values of a field. -/
def type : FieldSchema → String
  | .mk type .. => type

/-- The name of the field in its record. -/
def field : FieldSchema → Option String
  | .mk _ field .. => field

/-- The name of the type's meaning. -/
def name : FieldSchema → Option String
  | .mk _ _ name .. => name

/-- Whether the field may be null. -/
def isOptional : FieldSchema → Bool
  | .mk _ _ _ isOptional .. => isOptional

/-- What the meaning of the type depends on. -/
def parameters : FieldSchema → Members
  | .mk _ _ _ _ parameters _ => parameters

/-- The schemas of the fields of a record. -/
def fields : FieldSchema → List FieldSchema
  | .mk _ _ _ _ _ fields => fields

/-- The first field with a name. -/
def find? (s : FieldSchema) (name : String) : Option FieldSchema :=
  s.fields.find? (·.field = some name)

mutual

/-- A schema of any depth. -/
def check : Value → Checked FieldSchema
  | .object ms =>
    FieldSchema.mk <$> Members.required ms "type" Value.checkText
      <*> Members.optional ms "field" none (Value.checkOptional Value.checkText)
      <*> Members.optional ms "name" none (Value.checkOptional Value.checkText)
      <*> Members.optional ms "optional" true Value.checkBool
      <*> Members.optional ms "parameters" [] Value.checkMapping
      <*> checkFields ms
  | _ => .problem .notModel

/-- The schemas under the first member `fields`, none if there is no such member. -/
def checkFields : List (String × Value) → Checked (List FieldSchema)
  | [] => .valid []
  | (name, v) :: ms => if name = "fields" then (checkList v).within "fields" else checkFields ms

/-- A list of schemas. -/
def checkList : Value → Checked (List FieldSchema)
  | .list vs => checkItems 0 vs
  | _ => .problem .notList

/-- The schemas of a list, of which the first has the position `n`. -/
def checkItems : (n : Nat) → List Value → Checked (List FieldSchema)
  | _, [] => .valid []
  | n, v :: vs => List.cons <$> (check v).within (toString n) <*> checkItems (n + 1) vs

end

mutual

/-- A schema as a document. -/
def toValue : FieldSchema → Value
  | .mk type field name isOptional parameters fields =>
    .object [("type", .text type), ("field", .textOrNull field), ("name", .textOrNull name),
      ("optional", .bool isOptional), ("parameters", .object parameters),
      ("fields", .list (toValues fields))]

/-- Schemas as documents. -/
def toValues : List FieldSchema → List Value
  | [] => []
  | s :: rest => toValue s :: toValues rest

end

end FieldSchema

/-- The member `schema` of an envelope, which may have an underscore at the end of its name. -/
def checkSchema (ms : Members) : Checked (Option FieldSchema) :=
  if (ms.get? "schema").isSome then
    ms.optional "schema" none (Value.checkOptional FieldSchema.check)
  else ms.optional "schema_" none (Value.checkOptional FieldSchema.check)

/-- A schema as a document, or null. -/
def schemaValue (s : Option FieldSchema) : Value :=
  (s.map FieldSchema.toValue).getD .null

/-- A mapping, or null. -/
def mappingOrNull (ms : Option Members) : Value :=
  (ms.map Value.object).getD .null

/-! ### Key envelopes -/

/-- The primary key of the changed row. -/
structure KeyEnvelope where
  schema : Option FieldSchema
  payload : Members
deriving BEq, Repr, Inhabited

namespace KeyEnvelope

/-- A key envelope from the members of a document. -/
def checkMembers (ms : Members) : Checked KeyEnvelope :=
  KeyEnvelope.mk <$> checkSchema ms <*> ms.optional "payload" [] Value.checkMapping

/-- A key envelope from a document. -/
def check : Value → Checked KeyEnvelope :=
  Value.checkRecord checkMembers

/-- The key of an event; null means that it has none. -/
def read (v : Value) : Except Reason (Option KeyEnvelope) :=
  match v with
  | .null => .ok none
  | v =>
    match check v with
    | .valid k => .ok (some k)
    | .invalid es => .error (.invalidKey es)

/-- A key envelope as a document. -/
def toValue (k : KeyEnvelope) : Value :=
  .object [("schema", schemaValue k.schema), ("payload", .object k.payload)]

end KeyEnvelope

/-! ### Value envelopes -/

/-- The images of the changed row and what is known of the change. -/
structure Payload where
  before : Option Members
  after : Option Members
  op : String
  source : Option Members
  timestamp : Option Int
deriving BEq, Repr, Inhabited

namespace Payload

/-- A payload from the members of a document. -/
def checkMembers (ms : Members) : Checked Payload :=
  Payload.mk <$> ms.optional "before" none (Value.checkOptional Value.checkMapping)
    <*> ms.optional "after" none (Value.checkOptional Value.checkMapping)
    <*> ms.required "op" Value.checkText
    <*> ms.optional "source" none (Value.checkOptional Value.checkMapping)
    <*> ms.optional "ts_ms" none (Value.checkOptional Value.checkInteger)

/-- The operation that the payload names, if it is a known one. -/
def operation (p : Payload) : Option Operation :=
  Operation.ofCode? p.op

/-- An image of the row. -/
def image (p : Payload) : RowImage → Option Members
  | .before => p.before
  | .after => p.after

/-- A payload as a document. -/
def toValue (p : Payload) : Value :=
  .object [("before", mappingOrNull p.before), ("after", mappingOrNull p.after),
    ("op", .text p.op), ("source", mappingOrNull p.source),
    ("ts_ms", (p.timestamp.map Value.int).getD .null)]

end Payload

/-- The change itself. -/
structure ValueEnvelope where
  schema : Option FieldSchema
  payload : Payload
deriving BEq, Repr, Inhabited

namespace ValueEnvelope

/-- A value envelope from the members of a document. -/
def checkMembers (ms : Members) : Checked ValueEnvelope :=
  ValueEnvelope.mk <$> checkSchema ms
    <*> ms.required "payload" (Value.checkRecord Payload.checkMembers)

/-- A value envelope from a document. -/
def check : Value → Checked ValueEnvelope :=
  Value.checkRecord checkMembers

/-- The change of an event, which has to be there. -/
def read (v : Value) : Except Reason ValueEnvelope :=
  match v with
  | .null => .error .valueRequired
  | v =>
    match check v with
    | .valid e => .ok e
    | .invalid es => .error (.invalidValue es)

/-- A value envelope as a document. -/
def toValue (e : ValueEnvelope) : Value :=
  .object [("schema", schemaValue e.schema), ("payload", e.payload.toValue)]

end ValueEnvelope
end Changefeed
