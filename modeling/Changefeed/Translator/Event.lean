import Changefeed.Envelope

/-!
# Events as translators take them

The key and the value of an event reach a translator either as raw documents or as envelopes that
were read before.  What messages and counters say of an event (`EventValue.op`,
`EventKey.payload`) is looked up in the form in which it came.
-/

namespace Changefeed

/-- The key of an event. -/
inductive EventKey where
  | raw (v : Value)
  | parsed (k : KeyEnvelope)
deriving Inhabited

namespace EventKey

/-- The key envelope, if the event has one. -/
def envelope : EventKey → Except Reason (Option KeyEnvelope)
  | .raw v => KeyEnvelope.read v
  | .parsed k => .ok (some k)

/-- The payload of the key, null if there is none. -/
def payload : EventKey → Value
  | .raw (.object ms) => Members.get ms "payload"
  | .raw _ => .null
  | .parsed k => .object k.payload

end EventKey

/-- The value of an event. -/
inductive EventValue where
  | raw (v : Value)
  | parsed (e : ValueEnvelope)
deriving Inhabited

namespace EventValue

/-- The value envelope. -/
def envelope : EventValue → Except Reason ValueEnvelope
  | .raw v => ValueEnvelope.read v
  | .parsed e => .ok e

/-- The operation code of the event, of whatever kind it is; null if there is none. -/
def op : EventValue → Value
  | .raw (.object ms) =>
    match Members.get ms "payload" with
    | .object payload => Members.get payload "op"
    | _ => .null
  | .raw _ => .null
  | .parsed e => .text e.payload.op

/-- The label of the event's operation on counters. -/
def label (v : EventValue) : String :=
  ((Operation.ofValue? v.op).map Operation.label).getD "unknown"

end EventValue
end Changefeed
