import Changefeed.CommandLine.Files

/-!
# Arguments

`Command.read` finds the command that the arguments of the program ask for.  Options may stand
anywhere among the arguments of a command, in front of it only those of the program itself; behind
two hyphens no argument is an option.
-/

namespace Changefeed.CommandLine

/-- Why arguments ask for nothing that the program does. -/
inductive UsageError where
  | noCommand
  | noSuchCommand (name : String)
  | noSuchOption (name : String)
  | needsValue (name : String)
  | takesNoValue (name : String)
  | missingOption (name : String)
  | noSuchFile (path : String)
  | unexpectedArgument (argument : String)
deriving DecidableEq, Repr, Inhabited

/-- The text of an error. -/
def UsageError.message : UsageError → String
  | .noCommand => "Missing command."
  | .noSuchCommand name => "No such command '" ++ name ++ "'."
  | .noSuchOption name => "No such option: " ++ name
  | .needsValue name => "Option '" ++ name ++ "' requires an argument."
  | .takesNoValue name => "Option '" ++ name ++ "' does not take a value."
  | .missingOption name => "Missing option '" ++ name ++ "'."
  | .noSuchFile path => "Path '" ++ path ++ "' does not exist."
  | .unexpectedArgument argument => "Got unexpected extra argument (" ++ argument ++ ")"

/-! ### Options -/

/-- The options of a command: those with a value by their long and their short names, and those
without one. -/
structure OptionNames where
  valued : List (String × Char) := []
  flags : List String
deriving DecidableEq, Repr, Inhabited

/-- Arguments by what they are. -/
structure Sorted where
  values : List (String × String) := []
  flags : List String := []
  others : List String := []
deriving DecidableEq, Repr, Inhabited

/-- What an argument that starts with a hyphen is. -/
inductive OptionForm where
  | flag (name : String)
  | value (name value : String)
  /-- The value is the next argument. -/
  | valueFollows (name : String)
  | wrong (e : UsageError)
deriving DecidableEq, Repr, Inhabited

namespace OptionNames

/-- A short option with its value, in the same argument or behind it. -/
def shortForm (names : OptionNames) (argument : String) : OptionForm :=
  match argument.toList with
  | '-' :: c :: rest =>
    match names.valued.find? (·.2 = c) with
    | some (name, _) =>
      if rest.isEmpty then .valueFollows name else .value name (String.ofList rest)
    | none => .wrong (.noSuchOption (String.ofList ['-', c]))
  | _ => .wrong (.noSuchOption argument)

/-- What an argument that starts with a hyphen is. -/
def form (names : OptionNames) (argument : String) : OptionForm :=
  let cs := argument.toList
  let name := String.ofList (cs.takeWhile (· ≠ '='))
  let value := cs.dropWhile (· ≠ '=')
  if names.flags.contains name then
    if value.isEmpty then .flag name else .wrong (.takesNoValue name)
  else if (names.valued.map (·.1)).contains name then
    if value.isEmpty then .valueFollows name else .value name (String.ofList (value.drop 1))
  else if "--".toList.isPrefixOf cs then .wrong (.noSuchOption name)
  else names.shortForm argument

/-- Sorts arguments behind those that are sorted already.  Where options must come first, the
others start with the first argument that is none. -/
def sort (names : OptionNames) (optionsFirst : Bool) :
    List String → Sorted → Except UsageError Sorted
  | [], s => .ok s
  | argument :: rest, s =>
    if argument = "--" then .ok { s with others := s.others ++ rest }
    else if "-".toList.isPrefixOf argument.toList && argument ≠ "-" then
      match names.form argument with
      | .flag name => names.sort optionsFirst rest { s with flags := s.flags ++ [name] }
      | .value name v => names.sort optionsFirst rest { s with values := (name, v) :: s.values }
      | .valueFollows name =>
        match rest with
        | [] => .error (.needsValue name)
        | v :: rest => names.sort optionsFirst rest { s with values := (name, v) :: s.values }
      | .wrong e => .error e
    else if optionsFirst then .ok { s with others := argument :: rest }
    else names.sort optionsFirst rest { s with others := s.others ++ [argument] }

end OptionNames

/-! ### Commands -/

/-- What the program does. -/
inductive Command where
  | version
  | help
  /-- Applies the events of a file to the destination. -/
  | run (config events : String) (dryRun failFast : Bool)
  /-- Shows the statements for the events of a file. -/
  | render (config : Option String) (events : String)
  /-- Checks a settings file. -/
  | validate (config : String)
  /-- Writes a settings file to start from. -/
  | init
deriving DecidableEq, Repr, Inhabited

namespace Command

/-- The path that an option gives, which has to be that of a file or directory. -/
def path? (fs : Files) (s : Sorted) (name : String) : Except UsageError (Option String) :=
  match s.values.lookup name with
  | none => .ok none
  | some path => if fs.hasEntry path then .ok (some path) else .error (.noSuchFile path)

/-- The path that an option gives, which has to be there. -/
def path (fs : Files) (s : Sorted) (name : String) : Except UsageError String := do
  match ← path? fs s name with
  | some path => .ok path
  | none => .error (.missingOption name)

/-- The options of the program itself. -/
def programOptions : OptionNames where
  flags := ["--version", "--help"]

/-- The option for a settings file. -/
def configOption : String × Char := ("--config", 'c')

/-- The option for a file of events. -/
def eventsOption : String × Char := ("--events", 'e')

/-- The options of a command. -/
def optionsOf? (name : String) : Option OptionNames :=
  match name with
  | "run" => some ⟨[configOption, eventsOption], ["--dry-run", "--fail-fast", "--help"]⟩
  | "render" => some ⟨[configOption, eventsOption], ["--help"]⟩
  | "validate" => some ⟨[configOption], ["--help"]⟩
  | "init" => some ⟨[], ["--help"]⟩
  | _ => none

/-- The command with a name and its sorted arguments. -/
def ofSorted (fs : Files) (name : String) (s : Sorted) : Except UsageError Command := do
  let command ← match name with
    | "run" => do
      let config ← path fs s "--config"
      let events ← path fs s "--events"
      pure (run config events (s.flags.contains "--dry-run") (s.flags.contains "--fail-fast"))
    | "render" => do
      let config ← path? fs s "--config"
      let events ← path fs s "--events"
      pure (render config events)
    | "validate" => do
      let config ← path fs s "--config"
      pure (validate config)
    | _ => pure init
  match s.others with
  | [] => .ok command
  | argument :: _ => .error (.unexpectedArgument argument)

/-- The command with a name and its arguments. -/
def readNamed (fs : Files) (name : String) (names : OptionNames) (arguments : List String) :
    Except UsageError Command := do
  let s ← names.sort false arguments {}
  if s.flags.contains "--help" then .ok help else ofSorted fs name s

/-- The answer that the options of the program itself ask for, of several the first. -/
def ofFlags : List String → Option Command
  | [] => none
  | flag :: _ => some (if flag = "--version" then version else help)

/-- What arguments ask for that do not start with a command: options of the program may still be
among them. -/
def readUnknown (name : String) (rest : List String) : Except UsageError Command := do
  let s ← programOptions.sort true (name :: rest) {}
  match ofFlags s.flags with
  | some command => .ok command
  | none => .error (.noSuchCommand name)

/-- The command that arguments ask for. -/
def read (fs : Files) (arguments : List String) : Except UsageError Command := do
  let s ← programOptions.sort true arguments {}
  match ofFlags s.flags, s.others with
  | some command, _ => .ok command
  | none, [] => .error .noCommand
  | none, name :: rest =>
    match optionsOf? name with
    | some names => readNamed fs name names rest
    | none => readUnknown name rest

end Command
end Changefeed.CommandLine
