import Changefeed.Executor.Basic
import Changefeed.Metrics
import Changefeed.Translator.Basic

/-!
# Handling of an event

`Translator.process` translates an event, has the statement executed and counts what happened, in
the translator's own figures and in the shared counters.
-/

namespace Changefeed

variable {σ : Type}

/-- A translator with what it shares with others: the counters and the executor's state. -/
structure Workplace (σ : Type) where
  translator : Translator
  metrics : Metrics
  executor : σ

namespace Workplace

/-- Counts in the translator's own figures and in the shared counters. -/
def note (w : Workplace σ) (own : Stats → Stats) (shared : List Counter) : Workplace σ where
  translator := { w.translator with stats := own w.translator.stats }
  metrics := shared.foldl Metrics.add w.metrics
  executor := w.executor

/-- Counts a failure of an event. -/
def noteFailure (w : Workplace σ) (value : EventValue) (kindName : String) : Workplace σ :=
  w.note Stats.addFailed [.failure w.translator.table value.label kindName]

/-- The reason that counters give for an event that needs no statement. -/
def skipReason (value : EventValue) : String :=
  if value.op.isText Operation.read.code then "snapshot" else "unsupported"

/-- Counts an event that needs no statement. -/
def noteSkipped (w : Workplace σ) (value : EventValue) : Workplace σ :=
  w.note Stats.addSkipped [.skipped w.translator.table (skipReason value)]

/-- Counts a statement that was applied. -/
def noteApplied (w : Workplace σ) (kind : StatementKind) : Workplace σ :=
  w.note (·.addApplied kind) [.applied w.translator.table kind.name]

/-- Executes a statement and counts the outcome. -/
def apply (ex : Executor σ) (w : Workplace σ) (value : EventValue) (s : BoundStatement) :
    Except Failure (Option BoundStatement) × Workplace σ :=
  match ex.execute s.sql s.parameters w.executor with
  | (.ok (), executor) => (.ok (some s), { w with executor }.noteApplied s.kind)
  | (.error e, executor) => (.error e, { w with executor }.noteFailure value e.kindName)

/-- Translates an event and executes its statement; gives the statement, if there was one. -/
def process (ex : Executor σ) (shared : ParserTable) (w : Workplace σ) (key : EventKey)
    (value : EventValue) : Except Failure (Option BoundStatement) × Workplace σ :=
  match w.translator.translate shared key value with
  | (.error e, translator) =>
    (.error (.event e), { w with translator }.noteFailure value e.reason.kind.name)
  | (.ok statement, translator) =>
    let w := { w with translator }.note id [.event translator.table value.label]
    match statement with
    | none => (.ok none, w.noteSkipped value)
    | some s => w.apply ex value s

end Workplace
end Changefeed
