import Changefeed.Executor.DryRun
import Changefeed.Executor.Pool
import Changefeed.Settings.Basic

/-!
# Executors for destinations

An `ExecutorTable` says which kind of executor serves a kind of destination, and `Target.create`
makes the executor for the settings of a destination: a dry run or a pool.
-/

namespace Changefeed

/-- The kinds of executor. -/
inductive ExecutorKind where
  | dryRun
  | pool
deriving DecidableEq, Repr, Inhabited

/-- Kinds of executor by the name of a kind of destination, in the order of their registration. -/
structure ExecutorTable where
  entries : List (String × ExecutorKind) := []
deriving DecidableEq, Repr, Inhabited

namespace ExecutorTable

/-- The kinds that serve the destinations of settings. -/
def standard : ExecutorTable where
  entries := [(DestinationKind.dryRun.name, .dryRun), (DestinationKind.postgresql.name, .pool)]

/-- The kind of executor for a kind of destination. -/
def find? (t : ExecutorTable) (name : String) : Option ExecutorKind :=
  Assoc.get? t.entries name

/-- Sets the kind of executor for a kind of destination. -/
def register (t : ExecutorTable) (name : String) (k : ExecutorKind) : ExecutorTable where
  entries := Assoc.insert name k t.entries

/-- The kinds of destination that are served, in order. -/
def names (t : ExecutorTable) : List String :=
  t.entries.map (·.1)

end ExecutorTable

/-- An executor that settings choose, in its state. -/
inductive Target where
  | dryRun (d : DryRun)
  | pool (p : Pool)
deriving Inhabited

/-- The settings of the pool for a destination. -/
def Destination.poolOptions (d : Destination) : PoolOptions where
  minSize := .int d.minConnections
  maxSize := .int d.maxConnections
  timeout := .double d.connectionTimeout
  commandTimeout := .double d.commandTimeout

namespace Target

/-- The failure for a kind of destination that has no executor. -/
def unsupported (t : ExecutorTable) (name : String) : Failure :=
  .fault ⟨.invalidValue, some ("Unsupported destination type: " ++ name ++ ". Available types: " ++
    ", ".intercalate t.names)⟩

/-- The executor for a destination, which is not connected yet. -/
def create (t : ExecutorTable) (d : Destination) (server : Server) : Except Failure Target :=
  match t.find? d.kind.name with
  | none => .error (unsupported t d.kind.name)
  | some .dryRun => .ok (.dryRun {})
  | some .pool => (Pool.create (.textOrNull d.address) d.poolOptions server).map .pool

/-- An action of either kind of executor. -/
def act {α : Type} (onDryRun : DryRun → Outcome DryRun α) (onPool : Pool → Outcome Pool α) :
    Target → Outcome Target α
  | .dryRun d =>
    let (result, d) := onDryRun d
    (result, .dryRun d)
  | .pool p =>
    let (result, p) := onPool p
    (result, .pool p)

/-- The actions of the executor that was chosen. -/
def executor : Executor Target where
  connect := act DryRun.executor.connect Pool.executor.connect
  disconnect := act DryRun.executor.disconnect Pool.executor.disconnect
  testConnection := act DryRun.executor.testConnection Pool.executor.testConnection
  execute sql parameters :=
    act (DryRun.executor.execute sql parameters) (Pool.executor.execute sql parameters)
  isConnected
    | .dryRun d => DryRun.executor.isConnected d
    | .pool p => Pool.executor.isConnected p

end Target
end Changefeed
