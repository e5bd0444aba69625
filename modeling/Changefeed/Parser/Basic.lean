import Changefeed.Column

/-!
# Parsers of column values

Raw values of an event become values that a statement can bind.  A `ParserTable` gives a parser to
each meaning that a column's type may have, and `coerce` applies the one of a column.
-/

namespace Changefeed

/-- A function from the parameters of a column and a raw value to a value that can be bound. -/
structure Parser where
  name : String
  run : Members → Value → Except Fault Value

/-- Parsers by the meaning of a type, in the order of their registration. -/
structure ParserTable where
  entries : List (String × Parser) := []

namespace ParserTable

/-- The table without parsers. -/
def empty : ParserTable := {}

/-- The parser for a meaning. -/
def find? (t : ParserTable) (semanticType : String) : Option Parser :=
  Assoc.get? t.entries semanticType

/-- The parser for the meaning of a column's type, if it has one. -/
def lookup (t : ParserTable) (semanticType : Option String) : Option Parser :=
  semanticType.bind t.find?

/-- Sets the parser for a meaning, in place if there is one before. -/
def register (t : ParserTable) (semanticType : String) (p : Parser) : ParserTable where
  entries := Assoc.insert semanticType p t.entries

/-- The meanings that have a parser, in order. -/
def semanticTypes (t : ParserTable) : List String :=
  t.entries.map (·.1)

/-- Whether a meaning has a parser. -/
def contains (t : ParserTable) (semanticType : String) : Bool :=
  (t.find? semanticType).isSome

/-- The number of parsers. -/
def size (t : ParserTable) : Nat :=
  t.entries.length

end ParserTable

/-- The value that is bound for a raw value of a column: null stays null, and so does every value
of a column without a parser. -/
def coerce (parsers : ParserTable) (c : Column) (v : Value) : Except Reason Value :=
  if v.isNull then .ok .null
  else
    match c.semanticType with
    | none => .ok v
    | some semanticType =>
      match parsers.find? semanticType with
      | none => .ok v
      | some p =>
        match p.run c.parameters v with
        | .ok w => .ok w
        | .error cause => .error (.uncoercible v c.name semanticType cause)

/-- The values that are bound for raw values, each with its column; the shorter list ends both. -/
def coerceAll (parsers : ParserTable) : List Column → List Value → Except Reason (List Value)
  | c :: cs, v :: vs => do
    let w ← coerce parsers c v
    let ws ← coerceAll parsers cs vs
    .ok (w :: ws)
  | _, _ => .ok []

end Changefeed
