import Changefeed.Envelope

/-!
# Columns

The columns of a table as the schemas of an event describe them.  `Column.ofField` takes one field
and `TableSchema.ofEnvelopes` the columns of the row and of the key.
-/

namespace Changefeed

/-- The meaning of decimals that carry their scale themselves. -/
def variableScaleDecimal : String := "io.debezium.data.VariableScaleDecimal"

/-- The meaning of decimals whose scale is a parameter of the column. -/
def fixedScaleDecimal : String := "org.apache.kafka.connect.data.Decimal"

/-- A column of a table. -/
structure Column where
  name : String
  type : String
  semanticType : Option String := none
  parameters : Members := []
deriving BEq, Repr, Inhabited

namespace Column

/-- The column that a field describes; it needs a name. -/
def ofField (f : FieldSchema) : Except Reason Column :=
  match f.field with
  | none | some "" => .error .unnamedColumn
  | some name => .ok ⟨name, f.type, f.name, f.parameters⟩

/-- The columns that fields describe, in order; the first field without a name stops it. -/
def ofFields (fs : List FieldSchema) : Except Reason (List Column) :=
  fs.mapM ofField

/-- Whether values of the column compare as numbers only, whatever type the table gives it. -/
def isImprecise (c : Column) : Bool :=
  c.semanticType = some variableScaleDecimal || c.semanticType = some fixedScaleDecimal

end Column

/-- The columns of the rows of a table and those of its key. -/
structure TableSchema where
  columns : List Column
  keyColumns : List Column := []
deriving BEq, Repr, Inhabited

namespace TableSchema

/-- Whether the table has a key. -/
def hasKey (s : TableSchema) : Bool :=
  !s.keyColumns.isEmpty

/-- The columns that tell rows apart: those of the key, or all. -/
def identityColumns (s : TableSchema) : List Column :=
  if s.hasKey then s.keyColumns else s.columns

/-- The names of the columns of a row. -/
def columnNames (s : TableSchema) : List String :=
  s.columns.map (·.name)

/-- The names of the columns of the key. -/
def keyColumnNames (s : TableSchema) : List String :=
  s.keyColumns.map (·.name)

/-- The image whose schema describes the rows: the one before the change, if the event has it. -/
def rowImage (v : ValueEnvelope) : RowImage :=
  if v.payload.before.isSome then .before else .after

/-- The columns of the rows, from the schema of an image. -/
def rowColumns (schema : FieldSchema) (image : RowImage) : Except Reason (List Column) :=
  match schema.find? image.name with
  | none => .error (.noRowSchema image)
  | some row =>
    if row.fields.isEmpty then .error (.noColumns image)
    else Column.ofFields row.fields

/-- The columns of the key; an event without a key has none. -/
def keyColumnsOf (key : Option KeyEnvelope) : Except Reason (List Column) :=
  match key with
  | none => .ok []
  | some k =>
    match k.schema with
    | none => .error .noKeySchema
    | some s => Column.ofFields s.fields

/-- The columns that the schemas of an event describe. -/
def ofEnvelopes (key : Option KeyEnvelope) (value : ValueEnvelope) :
    Except Reason TableSchema := do
  match value.schema with
  | none => .error .noValueSchema
  | some schema =>
    let columns ← rowColumns schema (rowImage value)
    let keyColumns ← keyColumnsOf key
    .ok ⟨columns, keyColumns⟩

end TableSchema
end Changefeed
