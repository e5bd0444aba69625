import Mathlib.Tactic.SplitIfs
import Changefeed.Statement.Numbered

/-!
# Numbered statements

To number the placeholders of a statement is to put `$1`, `$2` and so on in their place, each once
and in order, and to leave the text between them alone (`numbers_numbered`).
-/

namespace Changefeed

/-- One text has `count` placeholders, and another one the numbers from `n` on in their place. -/
def NumbersFrom (n count : Nat) (sql query : List Char) : Prop :=
  ∃ first rest, (∀ piece ∈ first :: rest, placeholder ∉ piece) ∧ rest.length = count ∧
    sql = first ++ rest.flatMap (placeholder :: ·) ∧
    query = first ++ (rest.zipIdx n).flatMap fun (piece, i) => '$' :: Nat.toDigits 10 i ++ piece

/-- A query is a statement with its `count` placeholders numbered from 1 on. -/
def Numbers (count : Nat) (sql query : String) : Prop :=
  NumbersFrom 1 count sql.toList query.toList

theorem NumbersFrom.cons {n count : Nat} {sql query : List Char} {c : Char} (h : c ≠ placeholder)
    (numbers : NumbersFrom n count sql query) : NumbersFrom n count (c :: sql) (c :: query) := by
  obtain ⟨first, rest, free, length, rfl, rfl⟩ := numbers
  refine ⟨c :: first, rest, ?_, length, rfl, rfl⟩
  rw [List.forall_mem_cons] at free ⊢
  exact ⟨List.not_mem_cons_of_ne_of_not_mem h.symm free.1, free.2⟩

theorem NumbersFrom.placeholder {n count : Nat} {sql query : List Char}
    (numbers : NumbersFrom (n + 1) count sql query) :
    NumbersFrom n (count + 1) (placeholder :: sql) ('$' :: Nat.toDigits 10 n ++ query) := by
  obtain ⟨first, rest, free, rfl, rfl, rfl⟩ := numbers
  refine ⟨[], first :: rest, List.forall_mem_cons.2 ⟨List.not_mem_nil, free⟩, rfl, rfl, ?_⟩
  simp only [List.zipIdx_cons, List.flatMap_cons, List.nil_append, List.append_assoc]

theorem numbersFrom_numberFrom (n : Nat) (sql : List Char) :
    NumbersFrom n (sql.count placeholder) sql (numberFrom n sql) := by
  -- The number that comes next grows along the text.
  induction sql generalizing n with
  | nil => exact ⟨[], [], by simp, rfl, rfl, rfl⟩
  | cons c sql ih =>
    rw [numberFrom]
    split_ifs with h
    · rw [h, List.count_cons_self]
      exact (ih (n + 1)).placeholder
    · rw [List.count_cons_of_ne h]
      exact (ih n).cons h

/-- Each placeholder gets its number, in order. -/
theorem numbers_numbered (sql : String) : Numbers (placeholderCount sql) sql (numbered sql) := by
  rw [Numbers, numbered, String.toList_ofList]
  exact numbersFrom_numberFrom 1 sql.toList

end Changefeed
