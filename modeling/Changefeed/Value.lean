import Changefeed.Assoc
import Changefeed.Calendar.Timestamp
import Changefeed.Numeral.Decimal
import Changefeed.Numeral.Double
import Changefeed.Text.Quoted

/-!
# Values

A value on its way from a change event to a statement parameter: what a document can hold, and the
dates, times, decimals and byte strings that reading a document or parsing a column adds.  Mappings
keep the order of their members.  `Value.literal` is the form in which messages show a value.
-/

namespace Changefeed

/-- A value of a document or of a statement parameter. -/
inductive Value where
  | null
  | bool (b : Bool)
  | int (n : Int)
  | double (x : Double)
  | text (s : String)
  | bytes (bs : List UInt8)
  | list (items : List Value)
  | object (members : List (String × Value))
  | decimal (d : Decimal)
  | date (d : Date)
  | time (t : TimeOfDay)
  | timestamp (t : Timestamp)
deriving BEq, Repr, Inhabited

/-- The members of a mapping, in order, no name twice. -/
abbrev Members := List (String × Value)

namespace Members

/-- The value of the member `name`. -/
def get? (ms : Members) (name : String) : Option Value :=
  Assoc.get? ms name

/-- The value of the member `name`, null if there is none. -/
def get (ms : Members) (name : String) : Value :=
  (ms.get? name).getD .null

/-- Sets the member `name`: in place if there is one, else at the end. -/
def insert (name : String) (v : Value) (ms : Members) : Members :=
  Assoc.insert name v ms

end Members

namespace Value

/-- Whether a value is null. -/
def isNull : Value → Bool
  | .null => true
  | _ => false

/-- Whether a value is a certain text. -/
def isText (v : Value) (s : String) : Bool :=
  match v with
  | .text t => t = s
  | _ => false

/-- A text or null. -/
def textOrNull (s : Option String) : Value :=
  (s.map Value.text).getD .null

/-- Whether a value counts as not given: null, false, zero, and what has no elements. -/
def isEmpty : Value → Bool
  | .null => true
  | .bool b => !b
  | .int n => n == 0
  | .double x => x.isZero
  | .text s => s.isEmpty
  | .bytes bs => bs.isEmpty
  | .list items => items.isEmpty
  | .object ms => ms.isEmpty
  | .decimal (.finite _ c _) => c == 0
  | .decimal _ | .date _ | .time _ | .timestamp _ => false

/-- A call with arguments, as literals show composed values. -/
def callText (name : String) (arguments : List (List Char)) : List Char :=
  name.toList ++ '(' :: List.intercalate ", ".toList arguments ++ [')']

/-- The offset of a time, as literals show it. -/
def offsetLiteral (minutes : Int) : List Char :=
  if minutes = 0 then "tzutc()".toList
  else callText "tzoffset" ["None".toList, (toString (minutes * 60)).toList]

/-- The arguments that a literal has for an offset. -/
def offsetArguments (offset : Option Int) : List (List Char) :=
  offset.toList.map fun o => "tzinfo=".toList ++ offsetLiteral o

/-- The seconds and microseconds of a time, left out from the end where they are zero. -/
def secondArguments (t : TimeOfDay) : List (List Char) :=
  if t.microsecond ≠ 0 then [Nat.toDigits 10 t.second, Nat.toDigits 10 t.microsecond]
  else if t.second ≠ 0 then [Nat.toDigits 10 t.second]
  else []

/-- The year, month and day of a date. -/
def dateArguments (d : Date) : List (List Char) :=
  [d.year, d.month, d.day].map (Nat.toDigits 10)

/-- The arguments of a literal for a time. -/
def timeArguments (t : TimeOfDay) : List (List Char) :=
  [Nat.toDigits 10 t.hour, Nat.toDigits 10 t.minute] ++ secondArguments t ++
    offsetArguments t.offset

mutual

/-- The form in which messages show a value.  Integers are shown whatever their length: those of
documents have no more digits than can be shown (`Numeral.maxDigits`). -/
def literal : Value → List Char
  | .null => "None".toList
  | .bool b => (if b then "True" else "False").toList
  | .int n => (toString n).toList
  | .double x => x.toText
  | .text s => Text.quote s.toList
  | .bytes bs => Text.quoteBytes bs
  | .list items => '[' :: List.intercalate ", ".toList (literals items) ++ [']']
  | .object ms => '\x7b' :: List.intercalate ", ".toList (memberLiterals ms) ++ ['\x7d']
  | .decimal d => callText "Decimal" [Text.quote d.toText]
  | .date d => callText "datetime.date" (dateArguments d)
  | .time t => callText "datetime.time" (timeArguments t)
  | .timestamp t => callText "datetime.datetime" (dateArguments t.date ++ timeArguments t.time)

/-- The forms of the values of a list. -/
def literals : List Value → List (List Char)
  | [] => []
  | v :: vs => literal v :: literals vs

/-- The forms of the members of a mapping. -/
def memberLiterals : List (String × Value) → List (List Char)
  | [] => []
  | (k, v) :: ms => (Text.quote k.toList ++ ':' :: ' ' :: literal v) :: memberLiterals ms

end

/-- The form of a value inside other text: a text stands for itself. -/
def display : Value → String
  | .text s => s
  | v => String.ofList v.literal

end Value
end Changefeed
