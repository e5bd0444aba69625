import Changefeed.Bytes.Base64
import Changefeed.Numeral.Reading
import Changefeed.Text.Lines
import Changefeed.Value
import Changefeed.Yaml.Node

/-!
# Data

What the nodes of a document stand for.  A mapping may have keys of any kind, and the members of
other mappings may be merged into it; its own members win.  `Data.ofText` reads a whole document.
-/

namespace Changefeed.Yaml

/-- What a node stands for. -/
inductive Data where
  | null
  | bool (b : Bool)
  | int (n : Int)
  | double (x : Double)
  | text (s : String)
  | bytes (bs : List UInt8)
  | date (d : Date)
  | timestamp (t : Timestamp)
  | list (items : List Data)
  | mapping (entries : List (Data × Data))
deriving BEq, Repr, Inhabited

/-- A fault of a kind. -/
def faultOf {α : Type} (k : FaultKind) : Except Fault α :=
  .error { kind := k }

/-- The result, or a fault of a kind. -/
def orElseFault {α : Type} (k : FaultKind) : Option α → Except Fault α
  | some a => .ok a
  | none => faultOf k

/-! ### Scalars -/

/-- A text without underscores. -/
def ungrouped (s : String) : List Char :=
  s.toList.filter (· ≠ '_')

/-- The number that digits denote in a base. -/
def baseInteger? (base : Nat) (s : List Char) : Option Int := do
  let ds ← s.mapM Text.hexDigit?
  if s.isEmpty || ds.any (base ≤ ·) then none else some (Text.ofDigits base ds)

/-- An integer without its sign. -/
def magnitude? (s : List Char) : Option Int :=
  match s with
  | ['0'] => some 0
  | '0' :: 'b' :: rest => baseInteger? 2 rest
  | '0' :: 'x' :: rest => baseInteger? 16 rest
  | '0' :: _ => baseInteger? 8 s
  | _ => do
    let parts ← (Text.split ':' s).mapM Numeral.integer?
    some (parts.foldl (fun n part => n * 60 + part) 0)

/-- The integer that a text denotes. -/
def integer (text : String) : Except Fault Int :=
  let (negative, s) := Numeral.takeSign (ungrouped text)
  if s.isEmpty then faultOf (.other "IndexError")
  else do
    let n ← orElseFault .invalidValue (magnitude? s)
    .ok (if negative then -n else n)

/-- The sum `x + y * n` for finite numbers that are not negative, rounded after each step. -/
def addProduct (x y : Double) (n : Nat) : Double :=
  let scaled : Double → Nat → Double
    | .finite _ m e, n => .ofRatio false ((m <<< e.toNat) * n) (1 <<< (-e).toNat)
    | x, _ => x
  match x, scaled y n with
  | .finite _ m e, .finite _ m' e' =>
    let den := (-e).toNat + (-e').toNat
    .ofRatio false ((m <<< (den + e).toNat) + (m' <<< (den + e').toNat)) (1 <<< den)
  | _, y => y

/-- A number to the base sixty, from its parts, the last of which counts once. -/
def sixties (parts : List Double) : Double :=
  let zero : Double := .ofRatio false 0 1
  (parts.reverse.foldl (fun (sum, unit) part => (addProduct sum part unit, unit * 60))
    (zero, 1)).1

/-- A number with the other sign. -/
def negated : Double → Double
  | .nan => .nan
  | .infinite negative => .infinite !negative
  | .finite negative m e => .finite (!negative) m e

/-- The floating point number that a text denotes. -/
def float (text : String) : Except Fault Double :=
  let (negative, s) := Numeral.takeSign (Numeral.asciiLower (ungrouped text))
  if (ungrouped text).isEmpty then faultOf (.other "IndexError")
  else if s = ".inf".toList then .ok (.infinite negative)
  else if s = ".nan".toList then .ok .nan
  else do
    let x ← orElseFault .invalidValue <|
      if s.contains ':' then ((Text.split ':' s).mapM Numeral.double?).map sixties
      else Numeral.double? s
    .ok (if negative then negated x else x)

/-- The date or timestamp that a text denotes; the calendar and the day have to have it. -/
def timestamp (text : String) : Except Fault Data := do
  let ((year, month, day), clock) ← orElseFault .noSuchAttribute (Kind.dateParts? 1 text.toList)
  match clock with
  | none => (orElseFault .invalidValue (Date.ofParts? year month day)).map .date
  | some c =>
    if c.offset.any fun o => o.natAbs ≥ 24 * 60 then faultOf .invalidValue
    let date ← orElseFault .invalidValue (Date.ofParts? year month day)
    let time ← orElseFault .invalidValue
      (TimeOfDay.ofParts? c.hour c.minute c.second c.microsecond c.offset)
    .ok (.timestamp ⟨date, time⟩)

/-- The bytes that base64 text denotes; other characters are passed over. -/
def binary (text : String) : Except Fault Data :=
  if text.toList.any fun c => 128 ≤ c.toNat then faultOf .invalidYaml
  else
    let data := text.toList.filter fun c => (Base64.sextet? c).isSome || c = '='
    (orElseFault .invalidYaml (Base64.decode? data)).map .bytes

/-- What a scalar stands for. -/
def ofScalar (kind : Kind) (text : String) : Except Fault Data :=
  match kind with
  | .null => .ok .null
  | .bool =>
    let word := Text.lowered text
    if Kind.trueWords.contains word then .ok (.bool true)
    else if Kind.falseWords.contains word then .ok (.bool false)
    else faultOf .missingKey
  | .int => (integer text).map .int
  | .float => (float text).map .double
  | .binary => binary text
  | .timestamp => timestamp text
  | .text => .ok (.text text)
  | .sequence | .mapping | .set | .pairs | .orderedPairs | .merge | .value | .unknown =>
    faultOf .invalidYaml

/-! ### Collections -/

/-- Whether a value can be a key of a mapping. -/
def Data.isKey : Data → Bool
  | .list _ | .mapping _ => false
  | _ => true

/-- Sets a member of a mapping: in place if its key is a text that is there, else at the end. -/
def setEntry (k v : Data) : List (Data × Data) → List (Data × Data)
  | [] => [(k, v)]
  | (k', v') :: rest =>
    match k, k' with
    | .text s, .text s' => if s = s' then (k, v) :: rest else (k', v') :: setEntry k v rest
    | _, _ => (k', v') :: setEntry k v rest

/-- The members of two mappings; those of the second win. -/
def override (base own : List (Data × Data)) : List (Data × Data) :=
  own.foldl (fun ms (k, v) => setEntry k v ms) base

mutual

/-- What a node stands for. -/
def Node.data : Node → Except Fault Data
  | .scalar kind text => ofScalar kind text
  | .sequence kind items =>
    match kind with
    | .sequence => (itemData items).map .list
    | .pairs | .orderedPairs => (pairData items).map .list
    | _ => faultOf .invalidYaml
  | .mapping kind entries =>
    match kind with
    | .mapping => (entryData [] [] entries).map .mapping
    | .set => (entryData [] [] entries).map fun ms => .list (ms.map (·.1))
    | _ => faultOf .invalidYaml

/-- What the items of a sequence stand for. -/
def itemData : List Node → Except Fault (List Data)
  | [] => .ok []
  | n :: rest => do .ok ((← n.data) :: (← itemData rest))

/-- The pairs that mappings of one member each stand for. -/
def pairData : List Node → Except Fault (List Data)
  | [] => .ok []
  | .mapping _ [(k, v)] :: rest => do
    let pair := .list [← k.data, ← v.data]
    .ok (pair :: (← pairData rest))
  | _ => faultOf .invalidYaml

/-- The members of a mapping: `merged` are those of other mappings, and `own` its own. -/
def entryData (merged own : List (Data × Data)) :
    List (Node × Node) → Except Fault (List (Data × Data))
  | [] => .ok (override merged own)
  | (k, v) :: rest => do
    match k.kind with
    | .merge =>
      let more ← mergedData v
      entryData (override merged more) own rest
    | .value =>
      let value ← v.data
      entryData merged (setEntry (.text "=") value own) rest
    | _ =>
      let key ← k.data
      if !key.isKey then faultOf .invalidYaml
      let value ← v.data
      entryData merged (setEntry key value own) rest

/-- The members that a mapping or a sequence of mappings adds to another mapping. -/
def mergedData : Node → Except Fault (List (Data × Data))
  | .mapping _ entries => entryData [] [] entries
  | .sequence _ items => mergedItems items
  | .scalar _ _ => faultOf .invalidYaml

/-- The members that mappings add; those of the first win. -/
def mergedItems : List Node → Except Fault (List (Data × Data))
  | [] => .ok []
  | .mapping _ entries :: rest => do
    let own ← entryData [] [] entries
    .ok (override (← mergedItems rest) own)
  | _ => faultOf .invalidYaml

end

namespace Data

/-- The document that a text holds; a text without one stands for null. -/
def ofText (s : List Char) : Except Fault Data := do
  match ← Node.ofTokens? (Token.ofText s) with
  | some n => n.data
  | none => .ok .null

mutual

/-- The value of a document, in which members have texts as their names; others are left out. -/
def toValue : Data → Value
  | .null => .null
  | .bool b => .bool b
  | .int n => .int n
  | .double x => .double x
  | .text s => .text s
  | .bytes bs => .bytes bs
  | .date d => .date d
  | .timestamp t => .timestamp t
  | .list items => .list (toValues items)
  | .mapping entries => .object (toMembers entries)

/-- The values of items. -/
def toValues : List Data → List Value
  | [] => []
  | d :: rest => d.toValue :: toValues rest

/-- The members with a text as their name. -/
def toMembers : List (Data × Data) → Members
  | [] => []
  | (.text name, v) :: rest => (name, v.toValue) :: toMembers rest
  | _ :: rest => toMembers rest

end

/-- Whether a mapping has keys that are no texts. -/
def hasOtherKeys : Data → Bool
  | .mapping entries => entries.any fun (k, _) => match k with
    | .text _ => false
    | _ => true
  | _ => false

end Data
end Changefeed.Yaml
