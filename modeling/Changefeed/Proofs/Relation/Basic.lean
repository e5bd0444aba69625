import Mathlib.Data.Multiset.Filter
import Changefeed.Proofs.Statement.Reading

/-!
# Statements on a relation

What statements do to the rows of a table.  A relation is a multiset of rows: an insert adds a row,
an update sets columns of all rows that its conditions are true of, and a delete removes these
rows.  Conditions have three truth values, since a comparison with a null is neither true nor false
(`Comparison.whereTruth`).  Whatever the outcome of `Executes` is, there is no other
(`Executes.unique`), because a text has one parse.
-/

namespace Changefeed

/-- The truth values of conditions. -/
inductive Truth where
  | true
  | false
  | unknown
deriving DecidableEq, Repr

namespace Truth

/-- The truth value of a test that has an answer. -/
def ofBool (b : Bool) : Truth :=
  if b then .true else .false

/-- Both of two conditions. -/
def and : Truth → Truth → Truth
  | .false, _ | _, .false => .false
  | .true, .true => .true
  | _, _ => .unknown

theorem ofBool_eq_true_iff {b : Bool} : ofBool b = .true ↔ b := by
  cases b <;> decide

theorem and_eq_true_iff {a b : Truth} : a.and b = .true ↔ a = .true ∧ b = .true := by
  cases a <;> cases b <;> decide

end Truth

/-- How a database compares values that are not null, as they are and as numbers of arbitrary
precision; a value equals itself in both ways. -/
structure Comparison where
  equal : Value → Value → Bool
  equalNumeric : Value → Value → Bool
  equal_self : ∀ v, equal v v
  equalNumeric_self : ∀ v, equalNumeric v v

/-- The comparison that takes no two different values for equal. -/
noncomputable def Comparison.exact : Comparison where
  equal v w := @decide (v = w) (Classical.propDecidable _)
  equalNumeric v w := @decide (v = w) (Classical.propDecidable _)
  equal_self v := by simp
  equalNumeric_self v := by simp

/-- A row: the values of columns by their names, null for a name that is no column. -/
abbrev Row := String → Value

/-- The row with columns set to other values. -/
def Row.set (row : Row) (assignments : Members) : Row :=
  fun name => (assignments.get? name).getD (row name)

/-! ### Conditions -/

namespace Comparison

/-- A comparison of two values, of which either may be null. -/
def compare (eq : Value → Value → Bool) (v w : Value) : Truth :=
  if v.isNull || w.isNull then .unknown else .ofBool (eq v w)

variable (cmp : Comparison)

/-- The truth of a condition on a row. -/
def truth (row : Row) : Atom Value → Truth
  | .isNull name => .ofBool (row name).isNull
  | .equals name w => compare cmp.equal (row name) w
  | .equalsNumeric name w => compare cmp.equalNumeric (row name) w

/-- The truth of conditions on a row that all have to hold. -/
def whereTruth (row : Row) (conditions : List (Atom Value)) : Truth :=
  conditions.foldr (fun a rest => (cmp.truth row a).and rest) .true

theorem compare_eq_true_iff {eq : Value → Value → Bool} {v w : Value} :
    compare eq v w = .true ↔ ¬ v.isNull ∧ ¬ w.isNull ∧ eq v w := by
  unfold compare
  cases hv : v.isNull <;> cases hw : w.isNull <;> simp [Truth.ofBool_eq_true_iff]

/-- Conditions are true of a row when each of them is. -/
theorem whereTruth_eq_true_iff {row : Row} {conditions : List (Atom Value)} :
    cmp.whereTruth row conditions = .true ↔ ∀ a ∈ conditions, cmp.truth row a = .true := by
  induction conditions with
  | nil => simp [whereTruth]
  | cons a rest ih =>
    rw [List.forall_mem_cons, ← ih, whereTruth, List.foldr_cons, Truth.and_eq_true_iff]
    rfl

/-- The way in which values of a column are compared. -/
def on (c : Column) : Value → Value → Bool :=
  if c.isImprecise then cmp.equalNumeric else cmp.equal

theorem on_self (c : Column) (v : Value) : cmp.on c v v := by
  unfold on
  split_ifs
  · exact cmp.equalNumeric_self v
  · exact cmp.equal_self v

/-- Whether values of a column are the same: both are null, or neither is and they are equal. -/
def Same (c : Column) (v w : Value) : Prop :=
  v.isNull ∧ w.isNull ∨ ¬ v.isNull ∧ ¬ w.isNull ∧ cmp.on c v w

theorem same_self (c : Column) (v : Value) : cmp.Same c v v := by
  by_cases h : v.isNull
  · exact Or.inl ⟨h, h⟩
  · exact Or.inr ⟨h, h, cmp.on_self c v⟩

/-- Whether rows have the same values in columns. -/
def Agree (cs : List Column) (x y : Row) : Prop :=
  ∀ c ∈ cs, cmp.Same c (x c.name) (y c.name)

theorem agree_self (cs : List Column) (x : Row) : cmp.Agree cs x x :=
  fun c _ => cmp.same_self c (x c.name)

end Comparison

/-! ### Execution -/

variable (cmp : Comparison)

/-- The rows behind a statement, for the rows before it. -/
def Reading.execute : Reading Value → Multiset Row → Multiset Row
  | .insert _ columns values, rows => Row.set (fun _ => .null) (columns.zip values) ::ₘ rows
  | .update _ assignments conditions, rows =>
    rows.map fun row =>
      if cmp.whereTruth row conditions = .true then row.set assignments else row
  | .delete _ conditions, rows =>
    rows.filter fun row => cmp.whereTruth row conditions ≠ .true

/-- The execution of statements in order on the rows of a table: each is parsed, its parameters
stand at its placeholders, and it names the table. -/
inductive Executes (table : String) :
    List BoundStatement → Multiset Row → Multiset Row → Prop where
  | nil (rows : Multiset Row) : Executes table [] rows rows
  | cons {st : BoundStatement} {r : Reading Value} {rest : List BoundStatement}
      {rows rows' : Multiset Row} : st.Reads r → r.table = table →
      Executes table rest (r.execute cmp rows) rows' → Executes table (st :: rest) rows rows'

/-- The parameters of a statement stand at the placeholders of one parse. -/
theorem BoundStatement.Reads.unique {st : BoundStatement} {a b : Reading Value} (ha : st.Reads a)
    (hb : st.Reads b) : a = b := by
  obtain ⟨⟨wa, ta⟩, va⟩ := ha
  obtain ⟨⟨wb, tb⟩, vb⟩ := hb
  exact Reading.eq_of_shape_eq (Reading.text_injective wa wb (ta.trans tb.symm))
    (va.trans vb.symm)

namespace Executes

variable {cmp} {table : String} {sts : List BoundStatement} {rows a b : Multiset Row}

theorem unique (ha : Executes cmp table sts rows a) (hb : Executes cmp table sts rows b) :
    a = b := by
  induction ha with
  | nil rows =>
    cases hb
    rfl
  | cons reads _ _ ih =>
    cases hb with
    | cons reads' _ later =>
      obtain rfl := reads.unique reads'
      exact ih later

theorem concat (h : Executes cmp table sts rows a) {st : BoundStatement} {r : Reading Value}
    (reads : st.Reads r) (named : r.table = table) :
    Executes cmp table (sts ++ [st]) rows (r.execute cmp a) := by
  induction h with
  | nil rows => exact .cons reads named (.nil _)
  | cons reads' named' _ ih => exact .cons reads' named' ih

end Executes
end Changefeed
