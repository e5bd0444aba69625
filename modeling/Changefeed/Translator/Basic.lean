import Changefeed.Parser.Standard
import Changefeed.Statement.Basic
import Changefeed.Translator.Event

/-!
# Translators

A `Translator` turns the change events of one table into statements.  It learns the columns of the
table from the first event that describes them and keeps them; what the statements of a kind start
with is built once.  `Translator.translate` handles one event: `Plan.ofEnvelopes` says what the
event asks for, and `Translator.bind` makes the statement of it.
-/

namespace Changefeed

/-- How the events of a translator were handled. -/
structure Stats where
  insert : Nat := 0
  update : Nat := 0
  delete : Nat := 0
  skipped : Nat := 0
  failed : Nat := 0
deriving DecidableEq, Repr, Inhabited

namespace Stats

/-- The number of statements of a kind that were applied. -/
def applied (s : Stats) : StatementKind → Nat
  | .insert => s.insert
  | .update => s.update
  | .delete => s.delete

/-- One more statement of a kind applied. -/
def addApplied (s : Stats) : StatementKind → Stats
  | .insert => { s with insert := s.insert + 1 }
  | .update => { s with update := s.update + 1 }
  | .delete => { s with delete := s.delete + 1 }

/-- One more event that needs no statement. -/
def addSkipped (s : Stats) : Stats :=
  { s with skipped := s.skipped + 1 }

/-- One more failure. -/
def addFailed (s : Stats) : Stats :=
  { s with failed := s.failed + 1 }

end Stats

/-- Where a translator finds its parsers: in the standard table with a reader, or in a table that is
shared with others and may grow. -/
inductive ParserSource where
  | standard (iso : IsoReader)
  | shared
deriving Inhabited

/-- The source for a table that is given or not; a table without parsers counts as not given. -/
def ParserSource.of (iso : IsoReader) (given : Option ParserTable) : ParserSource :=
  match given with
  | some t => if t.entries.isEmpty then .standard iso else .shared
  | none => .standard iso

/-- The parsers of a source, with the shared table as it is now. -/
def ParserSource.table (s : ParserSource) (shared : ParserTable) : ParserTable :=
  match s with
  | .standard iso => .standard iso
  | .shared => shared

/-- Whether a translator knows the columns of its table. -/
inductive TranslatorState where
  | uninitialized
  | ready
deriving DecidableEq, Repr, Inhabited

/-- The name of a state. -/
def TranslatorState.name : TranslatorState → String
  | .uninitialized => "uninitialized"
  | .ready => "ready"

/-- What a translator knows of its table. -/
structure Translator where
  table : String
  policy : IdentifierPolicy
  parsers : ParserSource
  state : TranslatorState := .uninitialized
  schema : Option TableSchema := none
  /-- What the statements of a kind start with, for the kinds that were needed before. -/
  templates : StatementKind → Option String := fun _ => none
  stats : Stats := {}

/-! ### Plans -/

/-- What an event asks for: a kind of statement with the columns and raw values that it binds, and
the conditions that it ends in. -/
structure Plan where
  kind : StatementKind
  columns : List Column
  values : List Value
  conditions : List Char := []
deriving Inhabited

namespace Plan

/-- The values of the columns in an image of the row. -/
def rowValues (columns : List Column) (which : RowImage) (image : Option Members) :
    Except Reason (List Value) :=
  match image with
  | none => .error (.noImage which)
  | some ms =>
    let lacking := columns.filter fun c => (ms.get? c.name).isNone
    if lacking.isEmpty then .ok (columns.map fun c => ms.get c.name)
    else .error (.missingColumns which (lacking.map (·.name)))

/-- The columns that locate the changed row, with the members that hold their values: by the key
where the table and the event have one, else by the row before the change. -/
def identity (s : TableSchema) (key : Option KeyEnvelope) (value : ValueEnvelope) :
    Except Reason (List Column × Members) :=
  match s.hasKey, key with
  | true, some k => .ok (s.keyColumns, k.payload)
  | _, _ =>
    match value.payload.before with
    | none => .error .noRowToLocate
    | some before => .ok (s.columns, before)

/-- The conditions that locate the changed row. -/
def location (s : TableSchema) (key : Option KeyEnvelope) (value : ValueEnvelope) :
    Except Reason WhereBody := do
  let (columns, values) ← identity s key value
  let w := WhereBody.ofIdentity columns values
  if w.conditions.isEmpty then .error .noIdentityColumns else .ok w

/-- The plan for an event of a table with known columns; only changes of rows need a statement. -/
def ofEnvelopes (s : TableSchema) (key : Option KeyEnvelope) (value : ValueEnvelope) :
    Except Reason (Option Plan) :=
  match value.payload.operation with
  | some .create => do
    let values ← rowValues s.columns .after value.payload.after
    .ok (some ⟨.insert, s.columns, values, []⟩)
  | some .update => do
    let values ← rowValues s.columns .after value.payload.after
    let w ← location s key value
    .ok (some ⟨.update, s.columns ++ w.columns, values ++ w.values, w.text⟩)
  | some .delete => do
    let w ← location s key value
    .ok (some ⟨.delete, w.columns, w.values, w.text⟩)
  | _ => .ok none

end Plan

/-! ### From events to statements -/

namespace Translator

/-- A translator for a table whose name the policy takes. -/
def create (table : Value) (policy : IdentifierPolicy) (parsers : ParserSource) :
    Except Failure Translator :=
  (policy.checkTable table).map fun name => { table := name, policy, parsers }

/-- The name of the state of a translator. -/
def stateName (t : Translator) : String :=
  t.state.name

/-- The columns of the table: those known before, or else those that the event describes, if the
policy takes their names. -/
def bootstrap (t : Translator) (key : Option KeyEnvelope) (value : ValueEnvelope) :
    Except Reason TableSchema × Translator :=
  match t.state, t.schema with
  | .ready, some s => (.ok s, t)
  | _, _ =>
    match t.policy.discover key value with
    | .ok s => (.ok s, { t with state := .ready, schema := some s })
    | .error e => (.error e, t)

/-- What the statements of a kind start with, built on first use for known columns `s`. -/
def templateFor (t : Translator) (kind : StatementKind) (s : TableSchema) : String × Translator :=
  match t.templates kind with
  | some text => (text, t)
  | none =>
    let text := Changefeed.template kind t.table s
    (text, { t with templates := fun k => if k = kind then some text else t.templates k })

/-- What the statements of a kind start with; the columns have to be known. -/
def template (t : Translator) (kind : StatementKind) :
    Except EventError String × Translator :=
  match t.schema with
  | none => (.error ⟨.schemaUnknown, { table := .text t.table }⟩, t)
  | some s =>
    let (text, t) := t.templateFor kind s
    (.ok text, t)

/-- The statement of a plan, with its values as the parsers give them. -/
def bindPlan (table : String) (parsers : ParserTable) (start : String) (p : Plan) :
    Except EventError BoundStatement :=
  match coerceAll parsers p.columns p.values with
  | .error e => .error { reason := e }
  | .ok parameters =>
    BoundStatement.bind table p.kind (start ++ String.ofList p.conditions) parameters

/-- The statement for an event of a table with columns `s`, if it needs one. -/
def translateEnvelopes (t : Translator) (shared : ParserTable) (s : TableSchema)
    (key : Option KeyEnvelope) (value : ValueEnvelope) :
    Except EventError (Option BoundStatement) × Translator :=
  match Plan.ofEnvelopes s key value with
  | .error e => (.error { reason := e }, t)
  | .ok none => (.ok none, t)
  | .ok (some p) =>
    let (start, t) := t.templateFor p.kind s
    ((bindPlan t.table (t.parsers.table shared) start p).map some, t)

/-- The statement for an event, if it needs one; an error does not say yet where it arose. -/
def translateEvent (t : Translator) (shared : ParserTable) (key : EventKey) (value : EventValue) :
    Except EventError (Option BoundStatement) × Translator :=
  match key.envelope with
  | .error e => (.error { reason := e }, t)
  | .ok k =>
    match value.envelope with
    | .error e => (.error { reason := e }, t)
    | .ok v =>
      match t.bootstrap k v with
      | (.error e, t) => (.error { reason := e }, t)
      | (.ok s, t) => t.translateEnvelopes shared s k v

/-- What is known of the place of an event. -/
def contextOf (t : Translator) (key : EventKey) (value : EventValue) : Context where
  table := .text t.table
  operation := value.op
  key := key.payload

/-- The statement for an event, if it needs one: rows that were only read and events without a
changed row need none. -/
def translate (t : Translator) (shared : ParserTable) (key : EventKey) (value : EventValue) :
    Except EventError (Option BoundStatement) × Translator :=
  match t.translateEvent shared key value with
  | (.ok s, t') => (.ok s, t')
  | (.error e, t') => (.error (e.located (t.contextOf key value)), t')

end Translator
end Changefeed
