import Changefeed.Settings.Environment
import Changefeed.Text.Lines
import Changefeed.Text.Path
import Changefeed.Yaml.Data

/-!
# Settings files

A settings file is a YAML document: a mapping with the names of settings as its keys.  A document
that is empty, or null, or anything else that counts as not given, sets nothing.
-/

namespace Changefeed.Settings

/-- The members that a document sets. -/
def membersOfData (d : Yaml.Data) : Except Fault Members :=
  if d.hasOtherKeys then .error { kind := .wrongType }
  else
    match d.toValue with
    | .object ms => .ok ms
    | v => if v.isEmpty then .ok [] else .error { kind := .wrongType }

/-- The settings in the text of a file, over those of the environment. -/
def ofText (text : String) (env : Environment) : Except Failure Settings := do
  let data ← (Yaml.Data.ofText (Text.unified text.toList)).mapError Failure.fault
  let given ← (membersOfData data).mapError Failure.fault
  ofMembers given env

/-- The failure of a file that is not there. -/
def missingFile (path : String) : Failure :=
  .fault ⟨.fileNotFound, some ("Configuration file not found: " ++ Text.plainPath path)⟩

end Changefeed.Settings
