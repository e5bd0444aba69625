import Changefeed.Identifier

/-!
# Statements

A change becomes an insert, an update or a delete with placeholders for its values.  What a
statement starts with is the same for all changes of a table (`template`); an update and a delete
end in the conditions that the changed row meets (`WhereBody`).  A `BoundStatement` has a value
for each placeholder.
-/

namespace Changefeed

/-- The kinds of statement. -/
inductive StatementKind where
  | insert
  | update
  | delete
deriving DecidableEq, Repr, Inhabited

/-- The name of a kind. -/
def StatementKind.name : StatementKind → String
  | .insert => "insert"
  | .update => "update"
  | .delete => "delete"

/-! ### Templates -/

/-- Texts with a comma and a space between them. -/
def commaSeparated (xs : List (List Char)) : List Char :=
  List.intercalate ", ".toList xs

/-- A column set to a placeholder. -/
def assignment (name : String) : List Char :=
  name.toList ++ " = ?".toList

/-- An insert of one row. -/
def insertText (table : String) (names : List String) : List Char :=
  "INSERT INTO ".toList ++ table.toList ++ " (".toList ++ commaSeparated (names.map (·.toList)) ++
    ") VALUES (".toList ++ commaSeparated (names.map fun _ => [placeholder]) ++ ")".toList

/-- An update of all columns, up to its conditions. -/
def updateText (table : String) (names : List String) : List Char :=
  "UPDATE ".toList ++ table.toList ++ " SET ".toList ++ commaSeparated (names.map assignment) ++
    " WHERE ".toList

/-- A delete, up to its conditions. -/
def deleteText (table : String) : List Char :=
  "DELETE FROM ".toList ++ table.toList ++ " WHERE ".toList

/-- What the statements of a kind for a table start with. -/
def template (kind : StatementKind) (table : String) (s : TableSchema) : String :=
  match kind with
  | .insert => String.ofList (insertText table s.columnNames)
  | .update => String.ofList (updateText table s.columnNames)
  | .delete => String.ofList (deleteText table)

/-! ### Conditions -/

/-- A condition on one column of a row. -/
inductive Condition where
  | isNull (name : String)
  | equals (name : String)
  /-- The column is compared as a number of arbitrary precision. -/
  | equalsNumeric (name : String)
deriving DecidableEq, Repr, Inhabited

/-- A condition in a statement. -/
def Condition.text : Condition → List Char
  | .isNull name => name.toList ++ " IS NULL".toList
  | .equals name => name.toList ++ " = ?".toList
  | .equalsNumeric name => name.toList ++ "::numeric = ?".toList

/-- The condition on a column whose value is known: nulls are tested for, other values compared. -/
def Condition.on (c : Column) (v : Value) : Condition :=
  if v.isNull then .isNull c.name
  else if c.isImprecise then .equalsNumeric c.name
  else .equals c.name

/-- The conditions that locate a row, and the columns with the values that they compare. -/
structure WhereBody where
  conditions : List Condition
  columns : List Column
  values : List Value
deriving BEq, Repr, Inhabited

namespace WhereBody

/-- The conditions on the columns of a row's identity; a column without a value counts as null. -/
def ofIdentity (columns : List Column) (values : Members) : WhereBody where
  conditions := columns.map fun c => .on c (values.get c.name)
  columns := columns.filter fun c => !(values.get c.name).isNull
  values := (columns.map fun c => values.get c.name).filter fun v => !v.isNull

/-- The conditions in a statement. -/
def text (w : WhereBody) : List Char :=
  List.intercalate " AND ".toList (w.conditions.map Condition.text)

end WhereBody

/-! ### Bound statements -/

/-- The number of placeholders in a text. -/
def placeholderCount (sql : String) : Nat :=
  sql.toList.count placeholder

/-- A statement and the values bound to its placeholders. -/
structure BoundStatement where
  table : String
  kind : StatementKind
  sql : String
  parameters : List Value
deriving BEq, Repr, Inhabited

namespace BoundStatement

/-- The number of placeholders of a statement. -/
def placeholders (s : BoundStatement) : Nat :=
  placeholderCount s.sql

/-- A statement with its values, which have to be as many as the placeholders. -/
def bind (table : String) (kind : StatementKind) (sql : String) (parameters : List Value) :
    Except EventError BoundStatement :=
  if placeholderCount sql = parameters.length then .ok ⟨table, kind, sql, parameters⟩
  else
    .error ⟨.placeholderMismatch (placeholderCount sql) parameters.length,
      { table := .text table, operation := .text kind.name }⟩

end BoundStatement
end Changefeed
