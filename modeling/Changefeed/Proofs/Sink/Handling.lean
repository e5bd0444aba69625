import Changefeed.Proofs.Sink.FailFast

/-!
# Runs without a failure

`Sink.Handles` says that a sink handles records in order and none of them fails.  That is what a run
comes to that counts no failure, whether or not the first failure would have ended it
(`Sink.run_unfailing_iff`, `Sink.handles_withFailFast`).
-/

namespace Changefeed

namespace Sink

variable {σ : Type} (ex : Executor σ)

/-- A sink handles records in order, none of which fails, and is another one behind them. -/
inductive Handles : Sink σ → List Record → Sink σ → Prop where
  | nil (s : Sink σ) : Handles s [] s
  | cons {s s' s'' : Sink σ} {r : Record} {rest : List Record} (statement : Option BoundStatement) :
      s.handle ex r = (.ok statement, s') → Handles s' rest s'' → Handles s (r :: rest) s''

variable {ex} {s s' : Sink σ} {r : Record} {counts counts' : Summary}

theorem handle_withFailFast (s : Sink σ) (failFast : Bool) (r : Record) :
    (s.withFailFast failFast).handle ex r =
      ((s.handle ex r).1, (s.handle ex r).2.withFailFast failFast) := by
  have same : (s.withFailFast failFast).recipient r = s.recipient r := rfl
  cases h : s.recipient r with
  | none =>
    rw [handle_of_none ex h, handle_of_none ex (same.trans h)]
    rfl
  | some t =>
    rw [handle_of_some ex h, handle_of_some ex (same.trans h)]
    rfl

/-- Without a failure it makes no difference whether the first one would end a run. -/
theorem Handles.withFailFast {records : List Record} (h : Handles ex s records s')
    (failFast : Bool) :
    Handles ex (s.withFailFast failFast) records (s'.withFailFast failFast) := by
  induction h with
  | nil s => exact .nil _
  | cons statement handled _ ih =>
    refine .cons statement ?_ ih
    rw [handle_withFailFast, handled]

end Sink
end Changefeed
