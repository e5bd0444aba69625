import Changefeed.Validation

/-!
# Failures

What can stop the handling of a change event: a `Fault` of a conversion or of a service, invalid
records, and the errors of the library's own rules.  Those of one event give a `Reason` and the
place of the event (`Context`); the wording is in `Reason.message` and `Failure.message` alone.
-/

namespace Changefeed

/-! ### Faults -/

/-- The kinds of fault that conversions and services have. -/
inductive FaultKind where
  | invalidValue
  | wrongType
  | noSuchAttribute
  | missingKey
  | outOfRange
  | invalidDecimal
  | decimalOverflow
  | invalidBase64
  | runtime
  | system
  | fileNotFound
  | server
  | invalidSettings
  | invalidYaml
  | other (name : String)
deriving DecidableEq, Repr, Inhabited

/-- The name of a kind of fault. -/
def FaultKind.name : FaultKind → String
  | .invalidValue => "ValueError"
  | .wrongType => "TypeError"
  | .noSuchAttribute => "AttributeError"
  | .missingKey => "KeyError"
  | .outOfRange => "OverflowError"
  | .invalidDecimal => "InvalidOperation"
  | .decimalOverflow => "Overflow"
  | .invalidBase64 => "Error"
  | .runtime => "RuntimeError"
  | .system => "OSError"
  | .fileNotFound => "FileNotFoundError"
  | .server => "PostgresError"
  | .invalidSettings => "SettingsError"
  | .invalidYaml => "YAMLError"
  | .other name => name

/-- A fault, with its text where that is known. -/
structure Fault where
  kind : FaultKind
  text : Option String := none
deriving DecidableEq, Repr, Inhabited

/-- The text of a fault; without one the name of its kind stands for it.  A missing key is never
shown. -/
def Fault.message (f : Fault) : String :=
  match f.kind, f.text with
  | .missingKey, _ | _, none => "<" ++ f.kind.name ++ ">"
  | _, some t => t

/-! ### Reasons -/

/-- The four families of errors of an event, and the one for all others. -/
inductive EventErrorKind where
  | malformedEvent
  | schemaBootstrap
  | statementBuild
  | coercion
  | other
deriving DecidableEq, Repr, Inhabited

/-- The name of a family. -/
def EventErrorKind.name : EventErrorKind → String
  | .malformedEvent => "MalformedEventError"
  | .schemaBootstrap => "SchemaBootstrapError"
  | .statementBuild => "StatementBuildError"
  | .coercion => "CoercionError"
  | .other => "TranslationError"

/-- The images of a row that an event carries. -/
inductive RowImage where
  | before
  | after
deriving DecidableEq, Repr, Inhabited

/-- The member of an event that holds an image. -/
def RowImage.name : RowImage → String
  | .before => "before"
  | .after => "after"

/-- Why an event cannot be translated. -/
inductive Reason where
  | valueRequired
  | invalidKey (issues : List Issue)
  | invalidValue (issues : List Issue)
  | invalidJson (line : Nat)
  | notObject (line : Nat)
  | noTargetTable
  | unnamedColumn
  | noValueSchema
  | noRowSchema (image : RowImage)
  | noColumns (image : RowImage)
  | noKeySchema
  | invalidTableName (table : Value)
  | invalidColumnName (name : String)
  | placeholderInName (name : String)
  | placeholderMismatch (placeholders parameters : Nat)
  | schemaUnknown
  | noRowToLocate
  | noIdentityColumns
  | noImage (image : RowImage)
  | missingColumns (image : RowImage) (names : List String)
  | uncoercible (value : Value) (column semanticType : String) (cause : Fault)
  /-- An error that its raiser words. -/
  | stated (kind : EventErrorKind) (text : String)
deriving Inhabited

namespace Reason

/-- The family that a reason belongs to. -/
def kind : Reason → EventErrorKind
  | .valueRequired | .invalidKey _ | .invalidValue _ | .invalidJson _ | .notObject _
  | .noTargetTable => .malformedEvent
  | .unnamedColumn | .noValueSchema | .noRowSchema _ | .noColumns _ | .noKeySchema
  | .invalidTableName _ | .invalidColumnName _ | .placeholderInName _ => .schemaBootstrap
  | .placeholderMismatch _ _ | .schemaUnknown | .noRowToLocate | .noIdentityColumns | .noImage _
  | .missingColumns _ _ => .statementBuild
  | .uncoercible _ _ _ _ => .coercion
  | .stated kind _ => kind

/-- A text as messages quote it. -/
def quoted (s : String) : String :=
  String.ofList (Text.quote s.toList)

/-- The wording of a reason. -/
def message : Reason → String
  | .valueRequired => "Value envelope is required"
  | .invalidKey _ => "Invalid key envelope: <ValidationError>"
  | .invalidValue _ => "Invalid value envelope: <ValidationError>"
  | .invalidJson line => "Line " ++ toString line ++ ": invalid JSON: <JSONDecodeError>"
  | .notObject line => "Line " ++ toString line ++ ": expected a JSON object"
  | .noTargetTable => "Cannot determine the target table of a record"
  | .unnamedColumn => "Column schema has no field name"
  | .noValueSchema => "Value envelope carries no schema"
  | .noRowSchema image => "Value schema has no '" ++ image.name ++ "' field"
  | .noColumns image => "Value schema '" ++ image.name ++ "' has no columns"
  | .noKeySchema => "Key envelope carries no schema"
  | .invalidTableName table => "Invalid table name: " ++ String.ofList table.literal
  | .invalidColumnName name => "Invalid column name: " ++ quoted name
  | .placeholderInName name =>
    "Identifier contains the placeholder character '?': " ++ quoted name
  | .placeholderMismatch placeholders parameters =>
    "Statement has " ++ toString placeholders ++ " placeholders but " ++ toString parameters ++
      " parameters"
  | .schemaUnknown => "Cannot build SQL before the table schema is known"
  | .noRowToLocate => "Event has no 'before' image to locate the row"
  | .noIdentityColumns => "No identity columns to locate the row"
  | .noImage image => "Event has no '" ++ image.name ++ "' image"
  | .missingColumns image names =>
    "'" ++ image.name ++ "' image lacks columns: " ++ ", ".intercalate names
  | .uncoercible value column semanticType cause =>
    "Cannot coerce value " ++ String.ofList value.literal ++ " of column '" ++ column ++ "' (" ++
      semanticType ++ "): " ++ cause.message
  | .stated _ text => text

end Reason

/-! ### Errors in their context -/

/-- Where an event comes from.  Each part is a value of the raw event and may be of any kind. -/
structure Context where
  table : Value := .null
  operation : Value := .null
  key : Value := .null
deriving Inhabited

/-- Fills in what is not known yet: an empty table or operation, and a key that is null. -/
def Context.fill (c d : Context) : Context where
  table := if c.table.isEmpty then d.table else c.table
  operation := if c.operation.isEmpty then d.operation else c.operation
  key := if c.key.isNull then d.key else c.key

/-- The parts of a context that are known, as messages show them. -/
def Context.parts (c : Context) : List String :=
  (if c.table.isEmpty then [] else ["table=" ++ c.table.display]) ++
  (if c.operation.isEmpty then [] else ["operation=" ++ c.operation.display]) ++
  (if c.key.isNull then [] else ["key=" ++ String.ofList c.key.literal])

/-- An event that cannot be translated, and where it comes from. -/
structure EventError where
  reason : Reason
  context : Context := {}
deriving Inhabited

namespace EventError

/-- The reason, and behind it in brackets what is known of the context. -/
def message (e : EventError) : String :=
  match e.context.parts with
  | [] => e.reason.message
  | parts => e.reason.message ++ " (" ++ ", ".intercalate parts ++ ")"

/-- The error with the unknown parts of its context filled in. -/
def located (e : EventError) (c : Context) : EventError :=
  { e with context := e.context.fill c }

end EventError

/-- What stops the handling of an event, a run or a program. -/
inductive Failure where
  | event (e : EventError)
  /-- An executor gives up with a text of its own. -/
  | execution (text : String)
  /-- A run stops at a record for a cause that is no error of this library. -/
  | unapplied (cause : Failure)
  /-- An error of this library without a closer kind. -/
  | general (text : String)
  | fault (f : Fault)
  | invalid (model : String) (issues : List Issue)
deriving Inhabited

namespace Failure

/-- A failure at an event whose context is unknown yet. -/
def ofReason (r : Reason) : Failure :=
  .event { reason := r }

/-- A fault whose text is not known. -/
def ofKind (k : FaultKind) : Failure :=
  .fault { kind := k }

/-- The name of the kind of a failure. -/
def kindName : Failure → String
  | .event e => e.reason.kind.name
  | .execution _ | .unapplied _ => "ExecutionError"
  | .general _ => "SinkError"
  | .fault f => f.kind.name
  | .invalid _ _ => "ValidationError"

/-- The text of a failure; that of a cause stands at the end. -/
def message : Failure → String
  | .event e => e.message
  | .execution text | .general text => text
  | .unapplied cause => "Failed to apply record: " ++ cause.message
  | .fault f => f.message
  | .invalid _ _ => "<ValidationError>"

/-- Whether a failure is an error of this library. -/
def isOwn : Failure → Bool
  | .event _ | .execution _ | .unapplied _ | .general _ => true
  | .fault _ | .invalid _ _ => false

/-- The record and the issues behind a failure that comes from validation. -/
def issues? : Failure → Option (String × List Issue)
  | .event { reason := .invalidKey es, .. } => some ("KeyEnvelope", es)
  | .event { reason := .invalidValue es, .. } => some ("ValueEnvelope", es)
  | .unapplied cause => cause.issues?
  | .invalid model es => some (model, es)
  | _ => none

end Failure
end Changefeed
