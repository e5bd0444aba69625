import Changefeed.Executor.Target
import Changefeed.Sink.Route
import Changefeed.Translator.Process

/-!
# Sinks

A `Sink` takes the records of many tables to one executor.  It has a translator for each target
table, which it makes on first use, and shares parsers, counters and the executor among them.
-/

namespace Changefeed

/-- An entry in the log of a sink. -/
inductive LogEntry where
  | startFailed (cause : Failure)
  /-- A record that failed, with its source table; its key and value only if settings ask. -/
  | recordFailed (topic source : Value) (cause : Failure) (payloads : Option (Value × Value))
deriving Inhabited

/-- What an entry tells. -/
def LogEntry.event : LogEntry → String
  | .startFailed _ => "Failed to start cartridge-sink"
  | .recordFailed .. => "Failed to apply record"

/-- The failure that an entry tells of. -/
def LogEntry.cause : LogEntry → Failure
  | .startFailed cause => cause
  | .recordFailed _ _ cause _ => cause

/-- A sink on an executor with the state `σ`. -/
structure Sink (σ : Type) where
  settings : Settings
  executor : σ
  parsers : ParserSource
  /-- The table of parsers that is shared, if there is one. -/
  sharedParsers : ParserTable := .empty
  /-- The translators by their tables, in the order of their creation. -/
  translators : List (String × Translator) := []
  metrics : Metrics := {}
  exporter : Exporter
  isRunning : Bool := false
  log : List LogEntry := []

namespace Sink

variable {σ : Type}

/-- A sink for settings on an executor.  A table of parsers may be given; the standard one reads
zoned times with the reader. -/
def create (iso : IsoReader) (settings : Settings) (executor : σ)
    (parsers : Option ParserTable) : Sink σ where
  settings
  executor
  parsers := .of iso parsers
  sharedParsers := parsers.getD .empty
  exporter := { enabled := settings.monitoring.exporter.enabled
                portNumber := settings.monitoring.exporter.portNumber }

/-- The executor that settings ask for: a dry run, or the one for the destination. -/
def targetOf (settings : Settings) (server : Server) : Except Failure Target :=
  if settings.dryRun then .ok (.dryRun {})
  else Target.create .standard settings.destination server

/-- A sink for settings on the executor that they ask for. -/
def ofSettings (iso : IsoReader) (settings : Settings) (server : Server)
    (parsers : Option ParserTable) : Except Failure (Sink Target) :=
  (targetOf settings server).map fun target => create iso settings target parsers

/-- Adds an entry to the log. -/
def note (s : Sink σ) (entry : LogEntry) : Sink σ :=
  { s with log := s.log ++ [entry] }

/-! ### Starting and stopping -/

/-- Connects the executor and serves the counters. -/
def connect (ex : Executor σ) (s : Sink σ) : Except Failure Unit × Sink σ :=
  match ex.connect s.executor with
  | (.error e, executor) => (.error e, { s with executor })
  | (.ok (), executor) =>
    let (result, exporter) := s.exporter.start
    (result, { s with executor, exporter })

/-- Starts a sink; a failure is logged. -/
def start (ex : Executor σ) (s : Sink σ) : Except Failure Unit × Sink σ :=
  match s.connect ex with
  | (.error e, s) => (.error e, s.note (.startFailed e))
  | (.ok (), s) => (.ok (), { s with isRunning := true })

/-- Stops a sink: disconnects the executor and then shuts the server of the counters down. -/
def stop (ex : Executor σ) (s : Sink σ) : Except Failure Unit × Sink σ :=
  match ex.disconnect s.executor with
  | (.error e, executor) => (.error e, { s with executor, isRunning := false })
  | (.ok (), executor) =>
    (.ok (), { s with executor, isRunning := false, exporter := s.exporter.stop })

/-! ### Handling of a record -/

/-- The translator of a table, a new one on first use.  Lists and mappings name no table. -/
def translatorFor (s : Sink σ) (table : Value) : Except Failure Translator :=
  match table with
  | .list _ | .object _ => .error (.ofKind .wrongType)
  | .text name =>
    match Assoc.get? s.translators name with
    | some t => .ok t
    | none => Translator.create table s.settings.policy s.parsers
  | table => Translator.create table s.settings.policy s.parsers

/-- The sink with a translator in place. -/
def withTranslator (s : Sink σ) (t : Translator) : Sink σ :=
  { s with translators := Assoc.insert t.table t s.translators }

/-- Handles an event of a table whose translator is `t`. -/
def process (ex : Executor σ) (s : Sink σ) (t : Translator) (r : Record) :
    Except Failure (Option BoundStatement) × Sink σ :=
  let place : Workplace σ := ⟨t, s.metrics, s.executor⟩
  let (result, place) := place.process ex s.sharedParsers (.raw r.key) (.raw r.value)
  (result, { s.withTranslator place.translator with
    metrics := place.metrics, executor := place.executor })

/-- Handles a record; gives the statement that was executed, if the record needed one. -/
def handle (ex : Executor σ) (s : Sink σ) (r : Record) :
    Except Failure (Option BoundStatement) × Sink σ :=
  if r.isTombstone then (.ok none, s)
  else
    match targetTable s.settings r with
    | .error e => (.error e, s)
    | .ok table =>
      match s.translatorFor table with
      | .error e => (.error e, s)
      | .ok t => s.process ex t r

end Sink
end Changefeed
