import Changefeed.Executor.DryRun
import Changefeed.Sink.Run

/-!
# What the program shows

Lines of text, which may hold marks for colours in brackets, and tables.
-/

namespace Changefeed.CommandLine

/-- A table with a title, headings, and rows of as many cells. -/
structure Table where
  title : String
  columns : List String
  rows : List (List String)
deriving DecidableEq, Repr, Inhabited

/-- Something that the program shows. -/
inductive Shown where
  | line (text : String)
  | table (t : Table)
deriving DecidableEq, Repr, Inhabited

/-- A line in a colour. -/
def coloured (colour text : String) : Shown :=
  .line ("[" ++ colour ++ "]" ++ text ++ "[/" ++ colour ++ "]")

/-- A text, or another one where it is not given or empty. -/
def textOr (default : String) (s : Option String) : String :=
  match s with
  | none | some "" => default
  | some s => s

/-- One of two words. -/
def choose (yes no : String) (b : Bool) : String :=
  if b then yes else no

/-- The settings that matter most. -/
def settingsTable (s : Settings) : Table where
  title := "Configuration Summary"
  columns := ["Setting", "Value"]
  rows := [
    ["Destination Type", s.destination.kind.name],
    ["Target Schema", textOr "Not specified" s.destination.schema],
    ["Table Mappings", toString s.tables.length],
    ["Identifier Policy", s.policy.name],
    ["Dry Run", choose "Yes" "No" s.dryRun],
    ["Fail Fast", choose "Yes" "No" s.failures.failFast],
    ["Prometheus", choose "Enabled" "Disabled" s.monitoring.exporter.enabled]]

/-- The table mappings. -/
def mappingTable (tables : List TableMapping) : Table where
  title := "Table Routing"
  columns := ["Topic", "Source Table", "Target Table"]
  rows := tables.map fun t => [textOr "-" t.topic, textOr "-" t.source, t.target]

/-- The settings, and the table mappings if there are any. -/
def showSettings (s : Settings) : List Shown :=
  .table (settingsTable s) ::
    if s.tables.isEmpty then [] else [.table (mappingTable s.tables)]

/-- What became of the records of a run. -/
def showSummary (s : Summary) : Shown :=
  .table {
    title := "Run Summary"
    columns := ["Records", "Count"]
    rows := [
      ["Received", toString s.received],
      ["Applied", toString s.applied],
      ["Skipped", toString s.skipped],
      ["Failed", toString s.failed]] }

/-- The rows for statements of which the first has a number. -/
def statementRows : (number : Nat) → List Recorded → List (List String)
  | _, [] => []
  | number, s :: rest =>
    [toString number, s.sql, ", ".intercalate (s.parameters.map fun v => String.ofList v.literal)]
      :: statementRows (number + 1) rest

/-- Statements with their values. -/
def showStatements (statements : List Recorded) : Shown :=
  .table {
    title := "Rendered Statements"
    columns := ["#", "SQL", "Parameters"]
    rows := statementRows 1 statements }

end Changefeed.CommandLine
