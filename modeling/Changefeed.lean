import Changefeed.Main
import Changefeed.Proofs.CommandLine.ExitCode
import Changefeed.Proofs.Envelope
import Changefeed.Proofs.Executor.Pool
import Changefeed.Proofs.Identifier.Grammar
import Changefeed.Proofs.Parser.Kind
import Changefeed.Proofs.Parser.Unscaled
import Changefeed.Proofs.Relation.Location
import Changefeed.Proofs.Relation.Replay
import Changefeed.Proofs.Sink.DryRun
import Changefeed.Proofs.Sink.FailFast
import Changefeed.Proofs.Sink.Faults
import Changefeed.Proofs.Sink.Feeding
import Changefeed.Proofs.Sink.Isolation
import Changefeed.Proofs.Sink.Ledger
import Changefeed.Proofs.Sink.Parsing
import Changefeed.Proofs.Sink.Routing
import Changefeed.Proofs.Translator.Aftermath
import Changefeed.Proofs.Translator.Binding
import Changefeed.Proofs.Translator.Forms
import Changefeed.Proofs.Translator.History
import Changefeed.Proofs.Translator.Numbering
