import Changefeed.Numeral.Reading
import Changefeed.Value

/-!
# Validation of documents

Checking a document against the shape of a record gives either the record or every issue found, in
the order of the fields.  `Checked` collects the issues of independent checks; the readers below
take a value of one kind, with the conversions that the format allows.
-/

namespace Changefeed

/-- What is wrong with a part of a document. -/
inductive Problem where
  | missing
  | forbiddenMember
  | notModel
  | notText
  | notMapping
  | notList
  | notBool
  | unreadableBool
  | notInteger
  | unreadableInteger
  | fractionalInteger
  | integerOutOfRange
  | notFinite
  | notDouble
  | unreadableDouble
  | otherLiteral
  /-- A rule of the record itself does not hold. -/
  | broken (rule : String)
deriving DecidableEq, Repr

/-- The name of a problem in reports. -/
def Problem.name : Problem → String
  | .missing => "missing"
  | .forbiddenMember => "extra_forbidden"
  | .notModel => "model_type"
  | .notText => "string_type"
  | .notMapping => "dict_type"
  | .notList => "list_type"
  | .notBool => "bool_type"
  | .unreadableBool => "bool_parsing"
  | .notInteger => "int_type"
  | .unreadableInteger => "int_parsing"
  | .fractionalInteger => "int_from_float"
  | .integerOutOfRange => "int_parsing_size"
  | .notFinite => "finite_number"
  | .notDouble => "float_type"
  | .unreadableDouble => "float_parsing"
  | .otherLiteral => "literal_error"
  | .broken _ => "value_error"

/-- A problem and the path to the part of the document that has it. -/
structure Issue where
  path : List String
  problem : Problem
deriving DecidableEq, Repr

/-- The outcome of a check: a result, or the issues that stand in its way. -/
inductive Checked (α : Type) where
  | valid (a : α)
  | invalid (issues : List Issue)
deriving Repr

namespace Checked

variable {α β : Type}

/-- A single problem here. -/
def problem (p : Problem) : Checked α :=
  .invalid [⟨[], p⟩]

/-- The outcome with its result changed. -/
def map (f : α → β) : Checked α → Checked β
  | .valid a => .valid (f a)
  | .invalid es => .invalid es

/-- Two independent checks, of which both report their issues. -/
def ap (f : Checked (α → β)) (x : Checked α) : Checked β :=
  match f, x with
  | .valid f, .valid a => .valid (f a)
  | .valid _, .invalid es => .invalid es
  | .invalid es, .valid _ => .invalid es
  | .invalid es, .invalid es' => .invalid (es ++ es')

instance : Applicative Checked where
  pure := .valid
  map := map
  seq f x := f.ap (x ())

/-- A check of the result of another one. -/
def andThen (x : Checked α) (f : α → Checked β) : Checked β :=
  match x with
  | .valid a => f a
  | .invalid es => .invalid es

/-- A check of the part behind one step of a path. -/
def within (step : String) : Checked α → Checked α
  | .valid a => .valid a
  | .invalid es => .invalid (es.map fun e => { e with path := step :: e.path })

end Checked

/-! ### Readers of single values -/

namespace Value

/-- A text. -/
def checkText : Value → Checked String
  | .text s => .valid s
  | _ => .problem .notText

/-- A mapping with any members. -/
def checkMapping : Value → Checked Members
  | .object ms => .valid ms
  | _ => .problem .notMapping

/-- Null, or a value that passes another check. -/
def checkOptional {α : Type} (check : Value → Checked α) : Value → Checked (Option α)
  | .null => .valid none
  | v => (check v).map some

/-- The words for true and for false, in lower case. -/
def readBool? (s : String) : Option Bool :=
  let word := String.ofList (Numeral.asciiLower s.toList)
  if word ∈ ["1", "on", "t", "true", "y", "yes"] then some true
  else if word ∈ ["0", "off", "f", "false", "n", "no"] then some false
  else none

/-- The number of 64-bit integers below zero, which is 2^63. -/
def halfRange64 : Int := 0x8000000000000000

/-- Whether an integer fits in 64 bits. -/
def fits64 (n : Int) : Bool :=
  -halfRange64 ≤ n && n < halfRange64

/-- The integer that a double is, within the 64-bit ones. -/
def checkIntegral (x : Double) : Checked Int :=
  match x.truncate? with
  | none => .problem .notFinite
  | some n =>
    if !x.isIntegral then .problem .fractionalInteger
    else if -halfRange64 < n && n < halfRange64 then .valid n
    else .problem .integerOutOfRange

/-- A boolean: the numbers one and zero and the words for true and false count. -/
def checkBool : Value → Checked Bool
  | .bool b => .valid b
  | .text s =>
    match readBool? s with
    | some b => .valid b
    | none => .problem .unreadableBool
  | .int n =>
    if n = 0 then .valid false
    else if n = 1 then .valid true
    else if fits64 n then .problem .unreadableBool
    else .problem .notBool
  | .double x =>
    match checkIntegral x with
    | .valid 0 => .valid false
    | .valid 1 => .valid true
    | .valid _ => .problem .unreadableBool
    | .invalid _ => .problem .notBool
  | _ => .problem .notBool

/-- An integer: booleans, doubles without a fraction and texts of digits count. -/
def checkInteger : Value → Checked Int
  | .int n => .valid n
  | .bool b => .valid (if b then 1 else 0)
  | .double x => checkIntegral x
  | .text s =>
    if s.length > Numeral.maxDigits then .problem .integerOutOfRange
    else
      match Numeral.plainInteger? s.toList with
      | some n => .valid n
      | none => .problem .unreadableInteger
  | _ => .problem .notInteger

/-- A double: integers, booleans and texts of a number count. -/
def checkDouble : Value → Checked Double
  | .double x => .valid x
  | .int n =>
    match Double.ofInt? n with
    | some x => .valid x
    | none => .problem .notDouble
  | .bool b => .valid (.ofRatio false (if b then 1 else 0) 1)
  | .text s =>
    match Numeral.double? s.toList with
    | some x => .valid x
    | none => .problem .unreadableDouble
  | _ => .problem .notDouble

/-- One of a few texts. -/
def checkLiteral {α : Type} (choices : List (String × α)) : Value → Checked α
  | .text s =>
    match choices.lookup s with
    | some a => .valid a
    | none => .problem .otherLiteral
  | _ => .problem .otherLiteral

/-- The items of a list, each of which passes a check; `n` is the position of the first. -/
def checkItems {α : Type} (check : Value → Checked α) : (n : Nat) → List Value → Checked (List α)
  | _, [] => .valid []
  | n, v :: vs => List.cons <$> (check v).within (toString n) <*> checkItems check (n + 1) vs

/-- A list of which each item passes a check. -/
def checkList {α : Type} (check : Value → Checked α) : Value → Checked (List α)
  | .list vs => checkItems check 0 vs
  | _ => .problem .notList

/-- A record that is given as a mapping. -/
def checkRecord {α : Type} (check : Members → Checked α) : Value → Checked α
  | .object ms => check ms
  | _ => .problem .notModel

end Value

namespace Members

variable {α : Type}

/-- The member `name`, which has to be there. -/
def required (ms : Members) (name : String) (check : Value → Checked α) : Checked α :=
  match ms.get? name with
  | some v => (check v).within name
  | none => (Checked.problem .missing).within name

/-- The member `name`, or a default. -/
def optional (ms : Members) (name : String) (default : α) (check : Value → Checked α) :
    Checked α :=
  match ms.get? name with
  | some v => (check v).within name
  | none => .valid default

end Members
end Changefeed
