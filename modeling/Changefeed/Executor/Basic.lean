import Changefeed.Failure

/-!
# Executors

An executor applies statements one at a time.  Whatever it keeps is its own state `σ`; each of its
actions gives an outcome and the state after it.
-/

namespace Changefeed

/-- The outcome of an action and the state after it. -/
abbrev Outcome (σ α : Type) := Except Failure α × σ

/-- The actions of an executor on its state. -/
structure Executor (σ : Type) where
  connect : σ → Outcome σ Unit
  disconnect : σ → Outcome σ Unit
  testConnection : σ → Outcome σ Bool
  execute : (sql : String) → (parameters : List Value) → σ → Outcome σ Unit
  isConnected : σ → Bool

namespace Executor

variable {σ : Type}

/-- Executes statements in order, up to the first that fails. -/
def executeAll (ex : Executor σ) : List (String × List Value) → σ → Outcome σ Unit
  | [], s => (.ok (), s)
  | (sql, parameters) :: rest, s =>
    match ex.execute sql parameters s with
    | (.ok (), s) => ex.executeAll rest s
    | (.error e, s) => (.error e, s)

/-- Executes statements between connecting and disconnecting.  The failure of a statement is
reported unless disconnecting fails too. -/
def session (ex : Executor σ) (statements : List (String × List Value)) (s : σ) :
    Outcome σ Unit :=
  match ex.connect s with
  | (.error e, s) => (.error e, s)
  | (.ok (), s) =>
    let (result, s) := ex.executeAll statements s
    match ex.disconnect s with
    | (.error e, s) => (.error e, s)
    | (.ok (), s) => (result, s)

end Executor
end Changefeed
