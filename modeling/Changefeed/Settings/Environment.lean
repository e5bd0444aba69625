import Changefeed.Json
import Changefeed.Settings.Basic
import Changefeed.Text.Lower

/-!
# Settings from the environment

Settings that are not given can stand in environment variables, named for the setting behind a
common start.  Their names count in any case.  A variable holds a document, but for the plain
setting `dry_run`.  What is given wins over the environment, in nested mappings member by member.
-/

namespace Changefeed

/-- Environment variables and their values. -/
abbrev Environment := List (String × String)

namespace Environment

/-- What the names of variables start with. -/
def start : String := "cartridge_sink_"

/-- The value of the variable for a setting; of several spellings the last one counts. -/
def get? (env : Environment) (setting : String) : Option String :=
  (env.reverse.find? fun (name, _) => Text.lowered name = start ++ setting).map (·.2)

end Environment

/-! ### Names in any case -/

/-- The names of the members of settings that are themselves mappings. -/
inductive NameTree where
  | node (children : List (String × NameTree))
deriving Repr, Inhabited

namespace NameTree

/-- The names right below. -/
def children : NameTree → List (String × NameTree)
  | .node cs => cs

/-- A tree of depth one. -/
def ofNames (names : List String) : NameTree :=
  .node (names.map fun n => (n, .node []))

/-- The names of all settings. -/
def settings : NameTree :=
  .node [
    ("destination", ofNames ["type", "connection_string", "target_schema", "min_connections",
      "max_connections", "connection_timeout", "command_timeout"]),
    ("tables", .node []),
    ("translation", ofNames ["identifier_policy"]),
    ("monitoring", .node [("prometheus", ofNames ["enabled", "port"]), ("log_level", .node []),
      ("structured_logging", .node [])]),
    ("error_handling", ofNames ["fail_fast", "log_failed_payloads"]),
    ("dry_run", .node [])]

/-- The name and the tree that a name stands for in any case. -/
def find? (t : NameTree) (name : String) : Option (String × NameTree) :=
  t.children.find? fun (n, _) => n = Text.lowered name

end NameTree

mutual

/-- A value with the known names of its members, and of theirs, as the tree spells them. -/
def Value.respell (t : NameTree) : Value → Value
  | .object ms => if t.children.isEmpty then .object ms else .object (respellMembers t [] ms)
  | v => v

/-- Members with their known names as the tree spells them; of two spellings the later counts. -/
def respellMembers (t : NameTree) (seen : Members) : List (String × Value) → Members
  | [] => seen
  | (name, v) :: rest =>
    match t.find? name with
    | some (known, below) => respellMembers t (seen.insert known (v.respell below)) rest
    | none => respellMembers t (seen.insert name v) rest

end

/-! ### Merging -/

mutual

/-- The members of two mappings; of members with one name the second wins unless both are
mappings, which are merged in turn. -/
def mergeMembers (base : Members) : List (String × Value) → Members
  | [] => base
  | (name, v) :: rest => mergeMembers (base.insert name (mergeValue (base.get? name) v)) rest

/-- A value over the one that it replaces. -/
def mergeValue (base : Option Value) : Value → Value
  | .object ms =>
    match base with
    | some (.object below) => .object (mergeMembers below ms)
    | _ => .object ms
  | v => v

end

namespace Settings

/-- What the environment holds for a setting. -/
def fromEnvironment (env : Environment) (setting : String) : Except Fault (Option Value) :=
  match env.get? setting with
  | none => .ok none
  | some s =>
    if setting = "dry_run" then .ok (some (.text s))
    else
      match Json.read s.toList with
      | .error _ => .error { kind := .invalidSettings }
      | .ok .null => .ok none
      | .ok v => .ok (some v)

/-- The settings that the environment holds, as members of a document. -/
def environmentMembers (env : Environment) : Except Fault Members := do
  let found ← names.mapM fun setting => do
    let v ← fromEnvironment env setting
    .ok (v.map fun v => (setting, v))
  match Value.respell .settings (.object (found.filterMap id)) with
  | .object ms => .ok ms
  | _ => .ok []

/-- Members with the names of settings in lower case, in which any case counts.  Where a name is
given in several, its exact spelling wins. -/
def respellNames (ms : Members) : Members :=
  ms.filterMap fun (name, v) =>
    let known := Text.lowered name
    if name = known ∨ !names.contains known then some (name, v)
    else if (ms.get? known).isSome then none
    else some (known, v)

/-- The settings that are given, over those of the environment. -/
def ofMembers (given : Members) (env : Environment) : Except Failure Settings := do
  let below ← (environmentMembers env).mapError Failure.fault
  match check (mergeMembers below (respellNames given)) with
  | .valid s => .ok s
  | .invalid es => .error (.invalid "SinkConfig" es)

end Settings
end Changefeed
