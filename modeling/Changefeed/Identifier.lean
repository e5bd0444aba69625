import Changefeed.Column

/-!
# Identifiers

Table and column names stand in statements without quotes.  The strict policy takes plain
identifiers only (`isColumnName`, `isTableName`); the trusting one takes any name that cannot be
mistaken for a placeholder.  A final line feed is passed over by the strict rules.
-/

namespace Changefeed

/-- The mark that a value is bound to. -/
def placeholder : Char := '?'

namespace Identifier

/-- ASCII letters and the underscore. -/
def isStart (c : Char) : Bool :=
  ('A' ≤ c && c ≤ 'Z') || ('a' ≤ c && c ≤ 'z') || c = '_'

/-- ASCII letters and digits, the underscore and the dollar sign. -/
def isPart (c : Char) : Bool :=
  isStart c || ('0' ≤ c && c ≤ '9') || c = '$'

/-- A start and any number of parts. -/
def isPlain : List Char → Bool
  | [] => false
  | c :: rest => isStart c && rest.all isPart

/-- A plain identifier, or two with a dot between them. -/
def isQualified (s : List Char) : Bool :=
  let first := s.takeWhile (· != '.')
  match s.dropWhile (· != '.') with
  | [] => isPlain first
  | _ :: second => isPlain first && isPlain second

/-- A text without its last character, if that is a line feed. -/
def dropFinalNewline (s : List Char) : List Char :=
  if s.getLast? = some '\n' then s.dropLast else s

/-- The names of columns under the strict policy. -/
def isColumnName (s : String) : Bool :=
  isPlain (dropFinalNewline s.toList)

/-- The names of tables under the strict policy. -/
def isTableName (s : String) : Bool :=
  isQualified (dropFinalNewline s.toList)

end Identifier

open Identifier

/-- A strict check of a table name.  An empty value counts as the empty name, and a value that is
no text cannot be checked. -/
def checkTableName (table : Value) : Except Failure Unit :=
  match table with
  | .text s =>
    if isTableName s then .ok ()
    else .error (.event ⟨.invalidTableName table, { table }⟩)
  | v =>
    if v.isEmpty then .error (.event ⟨.invalidTableName table, { table }⟩)
    else .error (.ofKind .wrongType)

/-- A strict check of the names of columns; the first that fails is reported. -/
def checkColumnNames (columns : List Column) : Except Reason Unit :=
  match columns.find? fun c => !isColumnName c.name with
  | some c => .error (.invalidColumnName c.name)
  | none => .ok ()

/-- The check that no name holds a placeholder; the first that does is reported. -/
def checkPlaceholders (names : List String) : Except Reason Unit :=
  match names.find? fun n => n.toList.contains placeholder with
  | some n => .error (.placeholderInName n)
  | none => .ok ()

/-- Which names are taken: plain identifiers, or all that are no placeholders. -/
inductive IdentifierPolicy where
  | strict
  | trust
deriving DecidableEq, Repr, Inhabited

namespace IdentifierPolicy

/-- The name of a policy in configurations. -/
def name : IdentifierPolicy → String
  | .strict => "strict"
  | .trust => "trust"

/-- The name of a table that the policy takes. -/
def checkTable (p : IdentifierPolicy) (table : Value) : Except Failure String :=
  match p, table with
  | .strict, .text s => (checkTableName (.text s)).map fun _ => s
  | .strict, v => (checkTableName v).bind fun _ => .error (.ofKind .wrongType)
  | .trust, .text s => ((checkPlaceholders [s]).mapError Failure.ofReason).map fun _ => s
  | .trust, _ => .error (.ofKind .wrongType)

/-- The check of the names of the columns of a table. -/
def checkColumns (p : IdentifierPolicy) (s : TableSchema) : Except Reason Unit :=
  match p with
  | .strict => do
    checkColumnNames s.columns
    checkColumnNames s.keyColumns
  | .trust => checkPlaceholders (s.columnNames ++ s.keyColumnNames)

/-- The columns that an event describes, if the policy takes their names. -/
def discover (p : IdentifierPolicy) (key : Option KeyEnvelope) (value : ValueEnvelope) :
    Except Reason TableSchema := do
  let s ← TableSchema.ofEnvelopes key value
  p.checkColumns s
  .ok s

end IdentifierPolicy
end Changefeed
