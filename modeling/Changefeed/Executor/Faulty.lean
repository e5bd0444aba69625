import Changefeed.Executor.Basic

/-!
# Executors that fail on purpose

For trials an executor can be told at which of its executions it fails.
-/

namespace Changefeed

/-- An executor in the state `inner` with the failures that it was told: `failures n` is the failure
of the `n`-th execution, counted from one. -/
structure Faulty (σ : Type) where
  inner : σ
  executions : Nat := 0
  failures : Nat → Option Failure := fun _ => none

/-- The outcome of an action of the executor itself. -/
def Faulty.through {σ α : Type} (x : Faulty σ) (outcome : Outcome σ α) : Outcome (Faulty σ) α :=
  (outcome.1, { x with inner := outcome.2 })

/-- An executor that fails where it was told to; a statement that fails does not reach it. -/
def Executor.faulty {σ : Type} (ex : Executor σ) : Executor (Faulty σ) where
  connect x := x.through (ex.connect x.inner)
  disconnect x := x.through (ex.disconnect x.inner)
  testConnection x := x.through (ex.testConnection x.inner)
  execute sql parameters x :=
    let x := { x with executions := x.executions + 1 }
    match x.failures x.executions with
    | some e => (.error e, x)
    | none => x.through (ex.execute sql parameters x.inner)
  isConnected x := ex.isConnected x.inner

end Changefeed
