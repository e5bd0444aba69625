import Changefeed.Feed
import Changefeed.Sink.Basic

/-!
# Runs

A run handles records in order and counts what becomes of them.  A record that fails is logged; the
run goes on unless settings say that the first failure ends it.
-/

namespace Changefeed

/-- What became of the records of a run. -/
structure Summary where
  received : Nat := 0
  applied : Nat := 0
  skipped : Nat := 0
  failed : Nat := 0
deriving DecidableEq, Repr, Inhabited

namespace Summary

/-- One more record that was handled, with or without a statement. -/
def addHandled (s : Summary) (applied : Bool) : Summary :=
  if applied then { s with received := s.received + 1, applied := s.applied + 1 }
  else { s with received := s.received + 1, skipped := s.skipped + 1 }

/-- One more record that failed. -/
def addFailed (s : Summary) : Summary :=
  { s with received := s.received + 1, failed := s.failed + 1 }

end Summary

namespace Sink

variable {σ : Type}

/-- The entry of the log for a record that failed. -/
def failureEntry (settings : Settings) (r : Record) (source : Value) (cause : Failure) :
    LogEntry :=
  .recordFailed r.topic source cause
    (if settings.failures.logPayloads then some (r.key, r.value) else none)

/-- The failure that ends a run at a record: an error of this library as it is, another one as the
cause of a failure of execution. -/
def ending (cause : Failure) : Failure :=
  if cause.isOwn then cause else .unapplied cause

/-- Deals with the failure of a record: logs it, and says whether the run ends.  A record whose
source table cannot be looked up ends the run with that failure, and nothing is logged. -/
def settle (s : Sink σ) (r : Record) (cause : Failure) : Except Failure Unit × Sink σ :=
  match r.sourceTable with
  | .error f => (.error (.fault f), s)
  | .ok source =>
    let s := s.note (failureEntry s.settings r source cause)
    (if s.settings.failures.failFast then .error (ending cause) else .ok (), s)

/-- Handles one record of a run. -/
def runOne (ex : Executor σ) (s : Sink σ) (counts : Summary) (r : Record) :
    Except Failure Summary × Sink σ :=
  match s.handle ex r with
  | (.ok statement, s) => (.ok (counts.addHandled statement.isSome), s)
  | (.error e, s) =>
    match s.settle r e with
    | (.ok (), s) => (.ok counts.addFailed, s)
    | (.error e, s) => (.error e, s)

/-- Handles the records of a run behind those that are counted already. -/
def runFrom (ex : Executor σ) (s : Sink σ) (counts : Summary) :
    List Record → Except Failure Summary × Sink σ
  | [] => (.ok counts, s)
  | r :: rest =>
    match s.runOne ex counts r with
    | (.ok counts, s) => s.runFrom ex counts rest
    | (.error e, s) => (.error e, s)

/-- Handles records in order. -/
def run (ex : Executor σ) (s : Sink σ) (records : List Record) :
    Except Failure Summary × Sink σ :=
  s.runFrom ex {} records

/-- Handles the records of a feed, whose own failure ends the run behind the last of them. -/
def runFeed (ex : Executor σ) (s : Sink σ) (feed : Feed) : Except Failure Summary × Sink σ :=
  match s.run ex feed.records, feed.ending with
  | (.ok _, s), some e => (.error e, s)
  | result, _ => result

end Sink
end Changefeed
