import Changefeed.Executor.Basic

/-!
# Dry runs

An executor that keeps statements instead of applying them.
-/

namespace Changefeed

/-- A statement and its values as they were handed over. -/
structure Recorded where
  sql : String
  parameters : List Value
deriving BEq, Repr, Inhabited

/-- The statements kept so far. -/
structure DryRun where
  statements : List Recorded := []
  isConnected : Bool := false
deriving BEq, Repr, Inhabited

/-- The executor of dry runs. -/
def DryRun.executor : Executor DryRun where
  connect d := (.ok (), { d with isConnected := true })
  disconnect d := (.ok (), { d with isConnected := false })
  testConnection d := (.ok true, d)
  -- Values are shown as well (`Value.literal`), which fails of none that a document can hold.
  execute sql parameters d := (.ok (), { d with statements := d.statements ++ [⟨sql, parameters⟩] })
  isConnected := DryRun.isConnected

end Changefeed
