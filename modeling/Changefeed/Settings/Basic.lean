import Changefeed.Identifier

/-!
# Settings

Where statements go (`Destination`), which tables events are routed to (`TableMapping`), how
failures are handled and what is monitored.  Each record has a `check`, which reads it from a
document, and a `toValue`, which writes it as one.
-/

namespace Changefeed

/-! ### Destinations -/

/-- The kinds of destination. -/
inductive DestinationKind where
  | postgresql
  | dryRun
deriving DecidableEq, Repr, Inhabited

namespace DestinationKind

/-- All kinds in the order in which messages list them. -/
def all : List DestinationKind := [.postgresql, .dryRun]

/-- The name of a kind. -/
def name : DestinationKind → String
  | .postgresql => "postgresql"
  | .dryRun => "dry_run"

/-- The rule that documents break with any other name. -/
def nameRule : String :=
  "Destination type must be one of: " ++ ", ".intercalate (all.map name)

/-- The kind that a value names. -/
def check (v : Value) : Checked DestinationKind :=
  v.checkText.andThen fun s =>
    match all.find? (·.name = s) with
    | some k => .valid k
    | none => .problem (.broken nameRule)

end DestinationKind

/-- A text, or nothing. -/
def optionalText : Value → Checked (Option String) :=
  Value.checkOptional Value.checkText

/-- Whether a text is given and not empty. -/
def isGiven : Option String → Bool
  | none => false
  | some s => !s.isEmpty

/-- The double that a natural number is. -/
def Double.ofNat (n : Nat) : Double :=
  .ofRatio false n 1

/-- Where statements go, and how connections to it are pooled. -/
structure Destination where
  kind : DestinationKind := .postgresql
  address : Option String := none
  schema : Option String := none
  minConnections : Int := 1
  maxConnections : Int := 5
  connectionTimeout : Double := .ofNat 30
  commandTimeout : Double := .ofNat 60
deriving BEq, Repr, Inhabited

namespace Destination

/-- A database server needs an address, and the limits of a pool have to fit. -/
def checkRules (d : Destination) : Checked Destination :=
  if d.kind = .postgresql && !isGiven d.address then
    .problem (.broken "connection_string is required for postgresql destinations")
  else if d.minConnections > d.maxConnections then
    .problem (.broken "min_connections cannot exceed max_connections")
  else .valid d

/-- A destination from the members of a document. -/
def checkMembers (ms : Members) : Checked Destination :=
  Checked.andThen
    (Destination.mk
      <$> ms.optional "type" .postgresql DestinationKind.check
      <*> ms.optional "connection_string" none optionalText
      <*> ms.optional "target_schema" none optionalText
      <*> ms.optional "min_connections" 1 Value.checkInteger
      <*> ms.optional "max_connections" 5 Value.checkInteger
      <*> ms.optional "connection_timeout" (.ofNat 30) Value.checkDouble
      <*> ms.optional "command_timeout" (.ofNat 60) Value.checkDouble)
    checkRules

/-- A destination from a document. -/
def check : Value → Checked Destination :=
  Value.checkRecord checkMembers

/-- A destination as a document. -/
def toValue (d : Destination) : Value :=
  .object [("type", .text d.kind.name), ("connection_string", .textOrNull d.address),
    ("target_schema", .textOrNull d.schema), ("min_connections", .int d.minConnections),
    ("max_connections", .int d.maxConnections),
    ("connection_timeout", .double d.connectionTimeout),
    ("command_timeout", .double d.commandTimeout)]

end Destination

/-! ### Table mappings -/

/-- The table that the events of a topic or of a source table go to. -/
structure TableMapping where
  target : String
  topic : Option String := none
  source : Option String := none
deriving DecidableEq, Repr, Inhabited

namespace TableMapping

/-- A mapping needs something to match on. -/
def checkRules (t : TableMapping) : Checked TableMapping :=
  if isGiven t.topic || isGiven t.source then .valid t
  else
    .problem (.broken ("Table mapping for '" ++ t.target ++ "' needs a topic or source_table"))

/-- A mapping from the members of a document. -/
def checkMembers (ms : Members) : Checked TableMapping :=
  Checked.andThen
    (TableMapping.mk
      <$> ms.required "target_table" Value.checkText
      <*> ms.optional "topic" none optionalText
      <*> ms.optional "source_table" none optionalText)
    checkRules

/-- A mapping from a document. -/
def check : Value → Checked TableMapping :=
  Value.checkRecord checkMembers

/-- A mapping as a document. -/
def toValue (t : TableMapping) : Value :=
  .object [("target_table", .text t.target), ("topic", .textOrNull t.topic),
    ("source_table", .textOrNull t.source)]

end TableMapping

/-! ### Identifiers -/

namespace IdentifierPolicy

/-- The policies by their names. -/
def names : List (String × IdentifierPolicy) :=
  [strict, trust].map fun p => (p.name, p)

/-- The policy in the section of a document that holds nothing else. -/
def checkSettings : Value → Checked IdentifierPolicy :=
  Value.checkRecord fun ms =>
    ms.optional "identifier_policy" .strict (Value.checkLiteral names)

/-- A policy as the section of a document. -/
def toValue (p : IdentifierPolicy) : Value :=
  .object [("identifier_policy", .text p.name)]

end IdentifierPolicy

/-! ### Monitoring -/

/-- Whether counters are served, and where. -/
structure ExporterSettings where
  enabled : Bool := false
  portNumber : Int := 8080
deriving DecidableEq, Repr, Inhabited

namespace ExporterSettings

/-- The settings from a document. -/
def check : Value → Checked ExporterSettings :=
  Value.checkRecord fun ms =>
    ExporterSettings.mk <$> ms.optional "enabled" false Value.checkBool
      <*> ms.optional "port" 8080 Value.checkInteger

/-- The settings as a document. -/
def toValue (x : ExporterSettings) : Value :=
  .object [("enabled", .bool x.enabled), ("port", .int x.portNumber)]

end ExporterSettings

/-- How grave an entry of the log has to be. -/
inductive LogLevel where
  | debug
  | info
  | warning
  | error
deriving DecidableEq, Repr, Inhabited

namespace LogLevel

/-- The name of a level. -/
def name : LogLevel → String
  | .debug => "DEBUG"
  | .info => "INFO"
  | .warning => "WARNING"
  | .error => "ERROR"

/-- The levels by their names. -/
def names : List (String × LogLevel) :=
  [debug, info, warning, error].map fun l => (l.name, l)

end LogLevel

/-- What is shown of a running program. -/
structure Monitoring where
  exporter : ExporterSettings := {}
  logLevel : LogLevel := .info
  structuredLogging : Bool := true
deriving DecidableEq, Repr, Inhabited

namespace Monitoring

/-- The settings from a document. -/
def check : Value → Checked Monitoring :=
  Value.checkRecord fun ms =>
    Monitoring.mk <$> ms.optional "prometheus" {} ExporterSettings.check
      <*> ms.optional "log_level" .info (Value.checkLiteral LogLevel.names)
      <*> ms.optional "structured_logging" true Value.checkBool

/-- The settings as a document. -/
def toValue (m : Monitoring) : Value :=
  .object [("prometheus", m.exporter.toValue), ("log_level", .text m.logLevel.name),
    ("structured_logging", .bool m.structuredLogging)]

end Monitoring

/-! ### Failures -/

/-- What is done about an event that fails. -/
structure FailurePolicy where
  /-- The first failure ends the run. -/
  failFast : Bool := false
  /-- Reports show the event. -/
  logPayloads : Bool := false
deriving DecidableEq, Repr, Inhabited

namespace FailurePolicy

/-- The settings from a document. -/
def check : Value → Checked FailurePolicy :=
  Value.checkRecord fun ms =>
    FailurePolicy.mk <$> ms.optional "fail_fast" false Value.checkBool
      <*> ms.optional "log_failed_payloads" false Value.checkBool

/-- The settings as a document. -/
def toValue (p : FailurePolicy) : Value :=
  .object [("fail_fast", .bool p.failFast), ("log_failed_payloads", .bool p.logPayloads)]

end FailurePolicy

/-! ### All settings -/

/-- The settings of a program. -/
structure Settings where
  destination : Destination := { kind := .dryRun }
  tables : List TableMapping := []
  policy : IdentifierPolicy := .strict
  monitoring : Monitoring := {}
  failures : FailurePolicy := {}
  /-- Statements are kept instead of applied, whatever the destination. -/
  dryRun : Bool := false
deriving BEq, Repr, Inhabited

namespace Settings

/-- The names of the settings in documents. -/
def names : List String :=
  ["destination", "tables", "translation", "monitoring", "error_handling", "dry_run"]

/-- The check that no member has a name that is no setting. -/
def checkNames (ms : Members) : Checked Unit :=
  match ms.filter fun (name, _) => !names.contains name with
  | [] => .valid ()
  | others => .invalid (others.map fun (name, _) => ⟨[name], .forbiddenMember⟩)

/-- Settings from the members of a document. -/
def check (ms : Members) : Checked Settings :=
  (fun s _ => s)
    <$> (Settings.mk
      <$> ms.optional "destination" { kind := .dryRun } Destination.check
      <*> ms.optional "tables" [] (Value.checkList TableMapping.check)
      <*> ms.optional "translation" .strict IdentifierPolicy.checkSettings
      <*> ms.optional "monitoring" {} Monitoring.check
      <*> ms.optional "error_handling" {} FailurePolicy.check
      <*> ms.optional "dry_run" false Value.checkBool)
    <*> checkNames ms

/-- Settings as a document. -/
def toValue (s : Settings) : Value :=
  .object [("destination", s.destination.toValue), ("tables", .list (s.tables.map (·.toValue))),
    ("translation", s.policy.toValue), ("monitoring", s.monitoring.toValue),
    ("error_handling", s.failures.toValue), ("dry_run", .bool s.dryRun)]

/-- The table that is set for a topic or a source table: by the topic first, and of several by the
first.  What is empty matches nothing. -/
def mappedTable (s : Settings) (topic source : Value) : Option String :=
  let byTopic :=
    if topic.isEmpty then none
    else s.tables.find? fun t => t.topic.any topic.isText
  let bySource :=
    if source.isEmpty then none
    else s.tables.find? fun t => t.source.any source.isText
  (byTopic <|> bySource).map (·.target)

end Settings
end Changefeed
