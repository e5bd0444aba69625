import Changefeed.CommandLine.Arguments
import Changefeed.CommandLine.Screen
import Changefeed.CommandLine.Starter
import Changefeed.Settings.Document

/-!
# The program

`Command.execute` carries a command out: from the files, the environment, the input and the database
server it meets, it gives what the program shows and logs, the files it leaves and the code it ends
with, which is 0 if nothing was lost, 1 for a failure and 2 for arguments that make no sense.
-/

namespace Changefeed.CommandLine

/-- What a program finds where it runs. -/
structure Surroundings where
  files : Files := []
  environment : Environment := []
  /-- What is typed in. -/
  input : String := ""
  server : Server := {}
  /-- How the starts of the server for counters go wrong. -/
  exporterFailures : List (Option Failure) := []
  /-- The reader of zoned times. -/
  iso : IsoReader
deriving Inhabited

/-- How a program ends. -/
structure Result where
  exitCode : Nat
  shown : List Shown := []
  log : List LogEntry := []
  files : Files
  /-- The executor that events were applied with. -/
  target : Option Target := none
deriving Inhabited

/-! ### Settings and events -/

/-- The settings in a file. -/
def loadFile (w : Surroundings) (path : String) : Except Failure Settings :=
  match w.files.find path with
  | .file text => Settings.ofText text w.environment
  | .directory => .error (.ofKind .system)
  | .missing => .error (Settings.missingFile (Text.plainPath path))

/-- The settings in a file, if one is given, else those of the environment. -/
def load (w : Surroundings) (path : Option String) : Except Failure Settings :=
  match path with
  | some path => loadFile w path
  | none => Settings.ofMembers [] w.environment

/-- The line that tells which file is loaded. -/
def showLoading (path : Option String) : List Shown :=
  (path.map fun p => coloured "blue" ("Loading configuration from " ++ Text.plainPath p)).toList

/-- The events in a file. -/
def feedOf (w : Surroundings) (path : String) : Feed :=
  match w.files.find path with
  | .file text => .ofText text
  | .directory | .missing => { ending := some (.ofKind .system) }

/-! ### Applying events -/

/-- Starts a sink, handles the events of a feed and stops it.  The failure of stopping hides that of
a run. -/
def applyFeed {σ : Type} (ex : Executor σ) (s : Sink σ) (feed : Feed) :
    Except Failure Summary × Sink σ :=
  match s.start ex with
  | (.error e, s) => (.error e, s)
  | (.ok (), s) =>
    let (result, s) := s.runFeed ex feed
    match s.stop ex with
    | (.error e, s) => (.error e, s)
    | (.ok (), s) => (result, s)

/-- The settings with what the command line adds to them. -/
def withFlags (s : Settings) (dryRun failFast : Bool) : Settings :=
  { s with
    dryRun := s.dryRun || dryRun
    failures := { s.failures with failFast := s.failures.failFast || failFast } }

/-- The last line of a command that failed. -/
def showFailure (start : String) (e : Failure) : Shown :=
  coloured "red" (start ++ ": " ++ e.message)

/-- Applies the events of a file with settings. -/
def runWith (w : Surroundings) (settings : Settings) (events : String) (before : List Shown) :
    Result :=
  let before := before ++ showSettings settings ++
    [coloured "green" "Starting cartridge-sink..."]
  match Sink.ofSettings w.iso settings w.server none with
  | .error e =>
    { exitCode := 1, shown := before ++ [showFailure "Failed" e], files := w.files }
  | .ok sink =>
    let exporter := { sink.exporter with startFailures := w.exporterFailures }
    let (result, sink) := applyFeed Target.executor { sink with exporter } (feedOf w events)
    let (exitCode, last) := match result with
      | .ok counts => (if counts.failed = 0 then 0 else 1, showSummary counts)
      | .error e => (1, showFailure "Failed" e)
    { exitCode, shown := before ++ [last], log := sink.log, files := w.files,
      target := some sink.executor }

/-- Applies the events of a file with the settings in another. -/
def runFiles (w : Surroundings) (config events : String) (dryRun failFast : Bool) : Result :=
  let before := showLoading (some config)
  match loadFile w config with
  | .error e => { exitCode := 1, shown := before ++ [showFailure "Failed" e], files := w.files }
  | .ok settings => runWith w (withFlags settings dryRun failFast) events before

/-- Shows the statements for the events of a file. -/
def renderFiles (w : Surroundings) (config : Option String) (events : String) : Result :=
  let before := showLoading config
  let failed := showFailure "Failed to render events"
  match load w config with
  | .error e => { exitCode := 1, shown := before ++ [failed e], files := w.files }
  | .ok settings =>
    let sink : Sink DryRun := .create w.iso (withFlags settings true false) {} none
    match sink.runFeed DryRun.executor (feedOf w events) with
    | (.error e, sink) =>
      { exitCode := 1, shown := before ++ [failed e], log := sink.log, files := w.files,
        target := some (.dryRun sink.executor) }
    | (.ok counts, sink) =>
      { exitCode := 0
        shown := before ++ [showStatements sink.executor.statements, showSummary counts]
        log := sink.log
        files := w.files
        target := some (.dryRun sink.executor) }

/-! ### Settings files -/

/-- Checks a settings file. -/
def validateFile (w : Surroundings) (config : String) : Result :=
  let before := [coloured "blue" ("Validating configuration: " ++ Text.plainPath config)]
  match loadFile w config with
  | .error e =>
    { exitCode := 1, shown := before ++ [showFailure "✗ Configuration is invalid" e],
      files := w.files }
  | .ok settings =>
    { exitCode := 0
      shown := before ++ coloured "green" "✓ Configuration is valid" :: showSettings settings
      files := w.files }

/-- The first answer among lines that are typed in: words for yes and for no count, and an empty
line means no.  `none` if the input ends before. -/
def firstAnswer : List (List Char) → Option Bool
  | [] => none
  | line :: rest =>
    let word := Text.lowered (String.ofList (Text.trim Text.isBlank line))
    if ["y", "yes"].contains word then some true
    else if ["n", "no", ""].contains word then some false
    else firstAnswer rest

/-- The answer in what is typed in. -/
def answer (input : String) : Option Bool :=
  firstAnswer (Text.typedLines input.toList)

/-- Writes the settings file to start from. -/
def writeStarter (w : Surroundings) (before : List Shown) : Result where
  exitCode := 0
  shown := before ++ [
    coloured "green" ("Created configuration file: " ++ starterPath),
    coloured "blue" "Edit the file with your database connection and table routing."]
  files := w.files.write starterPath starterText

/-- Writes the settings file to start from, over one that is there only after asking. -/
def initFile (w : Surroundings) : Result :=
  if w.files.hasEntry starterPath then
    let before := [coloured "yellow" ("Configuration file already exists: " ++ starterPath)]
    match answer w.input with
    | some true => writeStarter w before
    | some false => { exitCode := 0, shown := before, files := w.files }
    | none => { exitCode := 1, shown := before, files := w.files }
  else writeStarter w []

/-! ### Commands -/

/-- Carries a command out.  The texts of help and version are not among what is shown. -/
def Command.execute (c : Command) (w : Surroundings) : Result :=
  match c with
  | .version | .help => { exitCode := 0, files := w.files }
  | .run config events dryRun failFast => runFiles w config events dryRun failFast
  | .render config events => renderFiles w config events
  | .validate config => validateFile w config
  | .init => initFile w

/-- The text of the version. -/
def versionText : String := "cartridge-sink, version 0.1.0\n"

/-- What the program does with arguments. -/
def program (w : Surroundings) (arguments : List String) : Result :=
  match Command.read w.files arguments with
  | .ok c => c.execute w
  | .error _ => { exitCode := 2, files := w.files }

end Changefeed.CommandLine
