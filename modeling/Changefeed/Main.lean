import Changefeed.CommandLine.Basic
import Changefeed.Parser.Iso

/-!
# The command line

Reads arguments, files, variables and answers, carries the command out, and prints what it shows.
There is no connection to a database server here, so only dry runs apply events.
-/

open Changefeed Changefeed.CommandLine

/-- The settings of the environment, from variables with names in upper case. -/
def readEnvironment : IO Environment := do
  let found ← Settings.names.mapM fun setting => do
    let name := (Environment.start ++ setting).toUpper
    return (← IO.getEnv name).map fun value => (name, value)
  return found.filterMap id

/-- The texts in arguments that may be paths. -/
def possiblePaths (arguments : List String) : List String :=
  starterPath :: arguments ++ arguments.flatMap fun argument =>
    [String.ofList ((argument.toList.dropWhile (· ≠ '=')).drop 1),
      String.ofList (argument.toList.drop 2)]

/-- The files at paths; a path without a file is passed over. -/
def readFiles (paths : List String) : IO Files := do
  let found ← paths.mapM fun (path : String) => do
    try
      let text ← IO.FS.readFile path
      return some (Text.plainPath path, text)
    catch _ => return none
  return found.filterMap id

/-- Asks whether a file may be written over, until there is an answer or the input ends. -/
partial def ask (input : IO.FS.Stream) (typed : String) : IO String := do
  IO.print "Overwrite existing file? [y/N]: "
  let line ← input.getLine
  if line.isEmpty then return typed
  let typed := typed ++ line
  if (answer typed).isSome then return typed else ask input typed

/-- A server that cannot be reached. -/
def noServer : Server where
  openFailures := [some (.fault ⟨.system, some "There is no connection to a database server"⟩)]

/-- A line without its marks for colours. -/
def withoutMarks (text : String) : String :=
  ["blue", "green", "red", "yellow"].foldl
    (fun s c => (s.replace ("[" ++ c ++ "]") "").replace ("[/" ++ c ++ "]") "") text

/-- A row of cells that are as wide as their columns. -/
def rowText (widths : List Nat) (cells : List String) : String :=
  "  ".intercalate <| List.zipWith
    (fun width cell => cell ++ String.ofList (List.replicate (width - cell.length) ' '))
    widths cells

/-- The lines of a table. -/
def tableLines (t : CommandLine.Table) : List String :=
  let widths := t.rows.foldl (fun widths row => List.zipWith max widths (row.map String.length))
    (t.columns.map String.length)
  t.title :: (t.columns :: t.rows).map (rowText widths)

/-- Prints something that the program shows. -/
def printShown : Shown → IO Unit
  | .line text => IO.println (withoutMarks text)
  | .table t => (tableLines t).forM IO.println

/-- Prints what the program answers to its own options. -/
def printAnswer : Command → IO Unit
  | .version => IO.print versionText
  | .help => IO.println
      "Usage: cartridge-sink [--version] [--help] run | render | validate | init [OPTIONS]"
  | _ => return ()

/-- Carries a command out.  What is shown before a question is printed before it is asked. -/
def carryOut (c : Command) (files : Files) : IO UInt32 := do
  let asks := c = .init && files.hasEntry starterPath
  let surroundings : Surroundings :=
    { files, environment := ← readEnvironment, server := noServer, iso := Iso.reader }
  let before := if asks then (c.execute surroundings).shown else []
  before.forM printShown
  let input ← if asks then ask (← IO.getStdin) "" else pure ""
  let result := c.execute { surroundings with input }
  printAnswer c
  (result.shown.drop before.length).forM printShown
  result.log.forM fun entry => IO.eprintln (entry.event ++ ": " ++ entry.cause.message)
  if result.files ≠ files then IO.FS.writeFile starterPath starterText
  return UInt32.ofNat result.exitCode

/-- Runs the program. -/
def main (arguments : List String) : IO UInt32 := do
  let files ← readFiles (possiblePaths arguments)
  match Command.read files arguments with
  | .ok c => carryOut c files
  | .error e =>
    IO.eprintln ("Error: " ++ e.message)
    return 2
