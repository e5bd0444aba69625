import Changefeed.Statement.Basic

/-!
# Numbered placeholders

The form of statements that the database server takes: the placeholders carry the numbers of their
values.
-/

namespace Changefeed

/-- A text with its placeholders numbered from `n` on. -/
def numberFrom : (n : Nat) → List Char → List Char
  | _, [] => []
  | n, c :: rest =>
    if c = placeholder then '$' :: Nat.toDigits 10 n ++ numberFrom (n + 1) rest
    else c :: numberFrom n rest

/-- A text with its placeholders numbered from 1 on. -/
def numbered (sql : String) : String :=
  String.ofList (numberFrom 1 sql.toList)

end Changefeed
