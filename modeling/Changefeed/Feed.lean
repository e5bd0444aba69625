import Changefeed.Json
import Changefeed.Record
import Changefeed.Text.Lines

/-!
# Feeds

A feed is a text with one JSON document a line, each of which describes a record.  Blank lines are
passed over; the first line that is no such document ends the feed with a failure, behind the
records of the lines before it.
-/

namespace Changefeed

/-- The records of a text, and the failure behind the last of them, if there is one. -/
structure Feed where
  records : List Record := []
  ending : Option Failure := none
deriving Inhabited

namespace Feed

/-- The record of a line that is not blank. -/
def readLine (number : Nat) (line : List Char) : Except Failure Record :=
  match Json.read line with
  | .ok (.object ms) => .ok (.ofMembers ms)
  | .ok _ => .error (.ofReason (.notObject number))
  | .error .malformed => .error (.ofReason (.invalidJson number))
  | .error .tooManyDigits => .error (.ofKind .invalidValue)

/-- The feed of lines of which the first has a number. -/
def ofLines : (number : Nat) → List (List Char) → Feed
  | _, [] => {}
  | number, line :: rest =>
    let line := Text.trim Text.isBlank line
    if line.isEmpty then ofLines (number + 1) rest
    else
      match readLine number line with
      | .error e => { ending := some e }
      | .ok r =>
        let feed := ofLines (number + 1) rest
        { feed with records := r :: feed.records }

/-- The feed of a text. -/
def ofText (text : String) : Feed :=
  ofLines 1 (Text.lines text.toList)

end Feed
end Changefeed
