import Changefeed.Bytes.Base64
import Changefeed.Bytes.TwosComplement
import Changefeed.Parser.Basic

/-!
# The standard parsers

The parsers of the logical types of Debezium and Kafka Connect: decimals as unscaled integers,
dates as days, times and timestamps as milliseconds, microseconds or nanoseconds, and zoned times
as ISO 8601 texts, which an `IsoReader` reads.  `ParserTable.standard` holds them all.
-/

namespace Changefeed

/-- A reader of dates and times in ISO 8601 form: the timestamp and the time of day that a value
denotes.  Which forms it takes is its own affair. -/
structure IsoReader where
  timestamp : Value → Except Fault Timestamp
  time : Value → Except Fault TimeOfDay
deriving Inhabited

namespace Parser

/-- A fault that has a kind only. -/
def fault {α : Type} (k : FaultKind) : Except Fault α :=
  .error { kind := k }

/-- The result, or a fault of a kind. -/
def orFault {α : Type} (k : FaultKind) : Option α → Except Fault α
  | some a => .ok a
  | none => fault k

/-- The integer that a value stands for; the fraction of a double is cut off. -/
def integer : Value → Except Fault Int
  | .bool b => .ok (if b then 1 else 0)
  | .int n => .ok n
  | .double x =>
    match x with
    | .nan => fault .invalidValue
    | .infinite _ => fault .outOfRange
    | .finite negative m e => .ok ((Double.truncate? (.finite negative m e)).getD 0)
  | .text s => orFault .invalidValue (Numeral.integer? s.toList)
  | .bytes bs =>
    orFault .invalidValue (Numeral.asciiInteger? (bs.map fun b => Char.ofNat b.toNat))
  | _ => fault .wrongType

/-! ### Decimals -/

/-- The integer that bytes or their base64 text stand for. -/
def unscaled : Value → Except Fault Int
  | .bytes bs => .ok (TwosComplement.decode bs)
  | .text s =>
    if s.toList.any fun c => 128 ≤ c.toNat then fault .invalidValue
    else (orFault .invalidBase64 (Base64.decode? s.toList)).map TwosComplement.decode
  | _ => fault .wrongType

/-- An unscaled integer with its scale. -/
def scaledDecimal (v : Value) (scale : Int) : Except Fault Value := do
  let n ← unscaled v
  match Decimal.scaled n scale with
  | .ok d => .ok (.decimal d)
  | .error .invalidOperation => fault .invalidDecimal
  | .error .overflow => fault .decimalOverflow

/-- The decimal number that the text of a value denotes. -/
def plainDecimal (v : Value) : Except Fault Value :=
  (orFault .invalidDecimal (Decimal.ofText? v.display.toList)).map .decimal

/-- A decimal that carries its scale, or a number or its text. -/
def runVariableScaleDecimal (_ : Members) : Value → Except Fault Value
  | .object ms => do
    let v ← orFault .missingKey (Members.get? ms "value")
    let scale ← integer (← orFault .missingKey (Members.get? ms "scale"))
    scaledDecimal v scale
  | v => plainDecimal v

/-- An unscaled decimal whose scale is a parameter, or a number. -/
def runFixedScaleDecimal (parameters : Members) (v : Value) : Except Fault Value :=
  match v with
  | .text _ | .bytes _ => do
    let scale ← integer ((parameters.get? "scale").getD (.int 0))
    scaledDecimal v scale
  | v => plainDecimal v

/-! ### Dates and times -/

/-- Days since the start of 1970. -/
def runDate (_ : Members) (v : Value) : Except Fault Value := do
  (orFault .outOfRange (Date.ofDay? (← integer v))).map .date

/-- The timestamp a number of microseconds after the start of 1970. -/
def timestampAt (microseconds : Int) : Except Fault Timestamp :=
  orFault .outOfRange (Timestamp.ofMicroseconds? microseconds)

/-- Milliseconds since the start of 1970. -/
def runTimestamp (_ : Members) (v : Value) : Except Fault Value := do
  (timestampAt ((← integer v) * 1000)).map .timestamp

/-- Microseconds since the start of 1970. -/
def runMicroTimestamp (_ : Members) (v : Value) : Except Fault Value := do
  (timestampAt (← integer v)).map .timestamp

/-- Nanoseconds since the start of 1970, down to a microsecond. -/
def runNanoTimestamp (_ : Members) (v : Value) : Except Fault Value := do
  (timestampAt ((← integer v) / 1000)).map .timestamp

/-- Milliseconds since midnight. -/
def runTime (_ : Members) (v : Value) : Except Fault Value := do
  (timestampAt ((← integer v) * 1000)).map fun t => .time t.time

/-- Microseconds since midnight. -/
def runMicroTime (_ : Members) (v : Value) : Except Fault Value := do
  (timestampAt (← integer v)).map fun t => .time t.time

/-- Nanoseconds since midnight, down to a microsecond. -/
def runNanoTime (_ : Members) (v : Value) : Except Fault Value := do
  (timestampAt ((← integer v) / 1000)).map fun t => .time t.time

/-- A date in ISO form, with or without a time, as a reader reads it. -/
def runZonedTimestamp (iso : IsoReader) (_ : Members) (v : Value) : Except Fault Value :=
  (iso.timestamp v).map .timestamp

/-- A time in ISO form, as a reader reads it. -/
def runZonedTime (iso : IsoReader) (_ : Members) (v : Value) : Except Fault Value :=
  (iso.time v).map .time

end Parser

namespace ParserTable

open Changefeed.Parser

/-- The parsers of the logical types, with a reader for zoned times. -/
def standard (iso : IsoReader) : ParserTable where
  entries := [
    (variableScaleDecimal, ⟨"parse_variable_scale_decimal", runVariableScaleDecimal⟩),
    (fixedScaleDecimal, ⟨"parse_decimal", runFixedScaleDecimal⟩),
    ("io.debezium.time.Date", ⟨"parse_date", runDate⟩),
    ("org.apache.kafka.connect.data.Date", ⟨"parse_date", runDate⟩),
    ("io.debezium.time.Timestamp", ⟨"parse_timestamp", runTimestamp⟩),
    ("org.apache.kafka.connect.data.Timestamp", ⟨"parse_timestamp", runTimestamp⟩),
    ("io.debezium.time.MicroTimestamp", ⟨"parse_micro_timestamp", runMicroTimestamp⟩),
    ("io.debezium.time.NanoTimestamp", ⟨"parse_nano_timestamp", runNanoTimestamp⟩),
    ("io.debezium.time.ZonedTimestamp", ⟨"parse_zoned_timestamp", runZonedTimestamp iso⟩),
    ("io.debezium.time.Time", ⟨"parse_time", runTime⟩),
    ("org.apache.kafka.connect.data.Time", ⟨"parse_time", runTime⟩),
    ("io.debezium.time.MicroTime", ⟨"parse_micro_time", runMicroTime⟩),
    ("io.debezium.time.NanoTime", ⟨"parse_nano_time", runNanoTime⟩),
    ("io.debezium.time.ZonedTime", ⟨"parse_zoned_time", runZonedTime iso⟩)]

end ParserTable
end Changefeed
