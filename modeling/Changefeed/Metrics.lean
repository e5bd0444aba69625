import Changefeed.Statement.Basic

/-!
# Metrics

Counters of what happens to the events of each table.  `Metrics.samples` lists them as a scrape
shows them; an `Exporter` serves them while it runs.
-/

namespace Changefeed

/-! ### Counters -/

/-- A counter, with the values of its labels. -/
inductive Counter where
  | event (table operation : String)
  | applied (table kind : String)
  | skipped (table reason : String)
  | failure (table operation errorType : String)
deriving DecidableEq, Repr, Inhabited

/-- The table that a counter belongs to. -/
def Counter.table : Counter → String
  | .event table _ | .applied table _ | .skipped table _ | .failure table _ _ => table

/-- The counters that were used, in the order of their first use. -/
structure Metrics where
  counts : List (Counter × Nat) := []
deriving DecidableEq, Repr, Inhabited

namespace Metrics

/-- The counters with one of them raised. -/
def raise (c : Counter) : List (Counter × Nat) → List (Counter × Nat)
  | [] => [(c, 1)]
  | (d, n) :: rest => if d = c then (d, n + 1) :: rest else (d, n) :: raise c rest

/-- One more occurrence of what a counter counts. -/
def add (m : Metrics) (c : Counter) : Metrics where
  counts := raise c m.counts

/-- The value of a counter. -/
def count (m : Metrics) (c : Counter) : Nat :=
  ((m.counts.find? (·.1 = c)).map (·.2)).getD 0

end Metrics

/-! ### Samples -/

/-- One line of a scrape: a name, labels in the order of their names, and a value. -/
structure Sample where
  name : String
  labels : List (String × String)
  value : Nat
deriving DecidableEq, Repr, Inhabited

/-- The samples of a counter.  What was applied was also timed. -/
def Counter.samples (c : Counter) (n : Nat) : List Sample :=
  match c with
  | .event table operation =>
    [⟨"cartridge_sink_events_total", [("operation", operation), ("table", table)], n⟩]
  | .applied table kind =>
    [⟨"cartridge_sink_statements_applied_total", [("operation", kind), ("table", table)], n⟩,
      ⟨"cartridge_sink_statement_duration_seconds_count",
        [("operation", kind), ("table", table)], n⟩]
  | .skipped table reason =>
    [⟨"cartridge_sink_events_skipped_total", [("reason", reason), ("table", table)], n⟩]
  | .failure table operation errorType =>
    [⟨"cartridge_sink_event_failures_total",
      [("error_type", errorType), ("operation", operation), ("table", table)], n⟩]

/-- The order of label values, the first that differs deciding. -/
def labelsLe : List (String × String) → List (String × String) → Bool
  | [], _ => true
  | _ :: _, [] => false
  | (k, v) :: rest, (k', v') :: rest' =>
    if k ≠ k' then k < k'
    else if v ≠ v' then v < v'
    else labelsLe rest rest'

/-- The order of samples, by name and then by labels. -/
def Sample.le (a b : Sample) : Bool :=
  if a.name ≠ b.name then a.name < b.name else labelsLe a.labels b.labels

/-- All samples in order. -/
def Metrics.samples (m : Metrics) : List Sample :=
  (m.counts.flatMap fun (c, n) => c.samples n).mergeSort Sample.le

/-! ### The exporter -/

/-- A call of the server that the counters are scraped from. -/
inductive ExporterCall where
  | start (portNumber : Int)
  | shutdown
deriving DecidableEq, Repr, Inhabited

/-- The server that the counters are scraped from: whether it is wanted, whether it runs, what was
asked of it, and how the next starts go wrong (`none` for one that does not). -/
structure Exporter where
  enabled : Bool
  portNumber : Int
  isRunning : Bool := false
  calls : List ExporterCall := []
  startFailures : List (Option Failure) := []
deriving Inhabited

namespace Exporter

/-- Starts the server, if it is wanted and does not run. -/
def start (x : Exporter) : Except Failure Unit × Exporter :=
  if !x.enabled || x.isRunning then (.ok (), x)
  else
    let x := { x with calls := x.calls ++ [ExporterCall.start x.portNumber] }
    match x.startFailures with
    | some e :: rest => (.error e, { x with startFailures := rest })
    | none :: rest => (.ok (), { x with isRunning := true, startFailures := rest })
    | [] => (.ok (), { x with isRunning := true })

/-- Shuts the server down, if it runs. -/
def stop (x : Exporter) : Exporter :=
  if x.isRunning then
    { x with isRunning := false, calls := x.calls ++ [ExporterCall.shutdown] }
  else x

end Exporter
end Changefeed
