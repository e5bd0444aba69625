import Changefeed.Proofs.Relation.Basic
import Changefeed.Proofs.Translator.Identity

/-!
# Which rows a statement is about

The conditions of an update or a delete are to be true of just those rows that have, in each column
that tells rows apart, what is bound for the value that is looked for, where null is the same as
null (`Comparison.Meets`).  They are as long as no parser makes a null of a value
(`ParserTable.Keeps`); a value that becomes null is compared with null, and then they are true of no
row at all (`rows_located`).
-/

namespace Changefeed

/-- A value of a column that is looked for does not become null when it is bound. -/
def ParserTable.Keeps (parsers : ParserTable) (row : Members) (c : Column) : Prop :=
  row.get c.name ≠ .null → coerce parsers c (row.get c.name) ≠ .ok .null

/-- A row has in a column what is bound for the value that is looked for. -/
def Comparison.Meets (cmp : Comparison) (parsers : ParserTable) (row : Members) (target : Row)
    (c : Column) : Prop :=
  ∃ w, coerce parsers c (row.get c.name) = .ok w ∧ cmp.Same c (target c.name) w

variable {parsers : ParserTable} {row : Members} {c : Column} {a : Atom Value}

theorem ParserTable.keeps_of_null (null : row.get c.name = .null) : parsers.Keeps row c :=
  fun given => absurd null given

theorem ParserTable.keeps_iff {w : Value} (given : row.get c.name ≠ .null)
    (bound : coerce parsers c (row.get c.name) = .ok w) : parsers.Keeps row c ↔ w ≠ .null := by
  unfold Keeps
  rw [bound]
  simp [given]

/-- A condition compares with null just where the value that is looked for became null. -/
theorem Locates.value?_ne_iff (located : Locates parsers row c a) :
    a.value? ≠ some .null ↔ parsers.Keeps row c := by
  rcases located with null | ⟨w, given, -, bound⟩ | ⟨w, given, -, bound⟩
  · simp [Atom.value?, ParserTable.keeps_of_null null]
  · rw [ParserTable.keeps_iff given bound]
    simp [Atom.value?]
  · rw [ParserTable.keeps_iff given bound]
    simp [Atom.value?]

/-- What holds of related members of two lists alike holds of all members of both or of neither. -/
theorem forall_mem_iff_of_forall₂ {α β : Type} {R : α → β → Prop} {p : α → Prop} {q : β → Prop}
    {as : List α} {bs : List β} (h : List.Forall₂ R as bs) (alike : ∀ a b, R a b → (q b ↔ p a)) :
    (∀ b ∈ bs, q b) ↔ ∀ a ∈ as, p a := by
  induction h with
  | nil => simp
  | cons first _ ih => rw [List.forall_mem_cons, List.forall_mem_cons, alike _ _ first, ih]

namespace Comparison

variable (cmp : Comparison) (target : Row)

theorem meets_of_null (null : row.get c.name = .null) :
    cmp.Meets parsers row target c ↔ target c.name = .null := by
  have bound : coerce parsers c .null = .ok .null := rfl
  unfold Meets Same
  rw [null, bound]
  simp [Value.isNull_iff]

theorem meets_iff {w : Value} (kept : w ≠ .null)
    (bound : coerce parsers c (row.get c.name) = .ok w) :
    cmp.Meets parsers row target c ↔
      compare (cmp.on c) (target c.name) w = .true := by
  unfold Meets Same
  rw [bound, compare_eq_true_iff]
  simp [Value.isNull_iff, kept]

/-- A comparison with null is true of no row. -/
theorem compare_null (eq : Value → Value → Bool) (v : Value) : compare eq v .null ≠ .true := by
  rw [ne_eq, compare_eq_true_iff]
  simp [Value.isNull]

/-- A condition is true of the rows that meet it, unless it compares with null. -/
theorem truth_eq_true_iff (located : Locates parsers row c a) :
    cmp.truth target a = .true ↔ parsers.Keeps row c ∧ cmp.Meets parsers row target c := by
  have compared {w : Value} (given : row.get c.name ≠ .null)
      (bound : coerce parsers c (row.get c.name) = .ok w) :
      compare (cmp.on c) (target c.name) w = .true ↔
        parsers.Keeps row c ∧ cmp.Meets parsers row target c := by
    rw [ParserTable.keeps_iff given bound]
    by_cases kept : w = .null
    · subst kept
      simp [compare_null]
    · simp [kept, cmp.meets_iff target kept bound]
  rcases located with null | ⟨w, given, plain, bound⟩ | ⟨w, given, imprecise, bound⟩
  · rw [cmp.meets_of_null target null, truth, Truth.ofBool_eq_true_iff, Value.isNull_iff]
    simp [ParserTable.keeps_of_null null]
  · rw [← compared given bound, on, if_neg plain]
    rfl
  · rw [← compared given bound, on, if_pos imprecise]
    rfl

variable {identity : List Column} {conditions : List (Atom Value)}

/-- Conditions compare with no null just if no value that is looked for became null. -/
theorem null_not_mem_iff (located : List.Forall₂ (Locates parsers row) identity conditions) :
    .null ∉ conditions.filterMap Atom.value? ↔ ∀ c ∈ identity, parsers.Keeps row c := by
  have each : .null ∉ conditions.filterMap Atom.value? ↔
      ∀ a ∈ conditions, a.value? ≠ some .null := by
    simp [List.mem_filterMap]
  rw [each]
  exact forall_mem_iff_of_forall₂ located fun c a => Locates.value?_ne_iff

/-- Conditions are true of the rows that meet them all, unless one compares with null. -/
theorem whereTruth_located_iff
    (located : List.Forall₂ (Locates parsers row) identity conditions) :
    cmp.whereTruth target conditions = .true ↔
      (∀ c ∈ identity, parsers.Keeps row c) ∧
        ∀ c ∈ identity, cmp.Meets parsers row target c := by
  rw [whereTruth_eq_true_iff, ← forall₂_and]
  exact forall_mem_iff_of_forall₂ located fun c a => cmp.truth_eq_true_iff target

end Comparison

/-- Under three-valued logic the conditions of an update or a delete are true of a row just if it
has what is bound for each value that is looked for, null being the same as null, as long as no
value became null: just then no parameter of the conditions is null.  Otherwise they are true of no
row. -/
theorem rows_located {σ : Type} (ex : Executor σ) (table : String) (policy : IdentifierPolicy)
    (source : ParserSource) (t : Translator)
    (fresh : Translator.create (.text table) policy source = .ok t) (m : Metrics) (x : σ)
    (calls : List Call) (shared : ParserTable) (key : EventKey) (value : EventValue)
    (st : BoundStatement) (cmp : Comparison) :
    let w := (Workplace.mk t m x).after ex calls
    let parsers := source.table shared
    (w.translator.translate shared key value).1 = .ok (some st) ∨
        (w.process ex shared key value).1 = .ok (some st) →
      st.kind ≠ .insert →
      ∃ s k v identity row, ∃ r : Reading Value,
        (w.translator.translate shared key value).2.schema = some s ∧
        key.envelope = .ok k ∧ value.envelope = .ok v ∧ Identifies s v k identity row ∧
        st = r.statement ∧ List.Forall₂ (Locates parsers row) identity r.conditions ∧
        r.conditions.filterMap Atom.value? <:+ st.parameters ∧
        (Value.null ∉ r.conditions.filterMap Atom.value? ↔ ∀ c ∈ identity, parsers.Keeps row c) ∧
        ∀ target, cmp.whereTruth target r.conditions = .true ↔
          (∀ c ∈ identity, parsers.Keeps row c) ∧
            ∀ c ∈ identity, cmp.Meets parsers row target c := by
  intro w parsers produced changing
  have produced : (w.translator.translate shared key value).1 = .ok (some st) :=
    produced.elim id Workplace.translate_of_process
  have knows := Workplace.knows_of_create ex fresh m x calls
  obtain ⟨s, k, v, r, found, hk, hv, means, rfl⟩ :=
    (knows.translate_eq_some_iff (Translator.create_eq_ok fresh).1
      (fun s hs => exists_discover hs) shared key value).1 produced
  obtain ⟨identity, row, identified, located⟩ := means.locates changing
  exact ⟨s, k, v, identity, row, r, (knows.translate shared key value).2.schema_eq.trans found, hk,
    hv, identified, rfl, located, r.conditions_suffix, Comparison.null_not_mem_iff located,
    fun target => cmp.whereTruth_located_iff target located⟩

namespace Orders

/-- A parser that makes a null of every value. -/
def erasing : Parser where
  name := "erase"
  run := fun _ _ => .ok .null

/-- A table with that parser for decimals. -/
def erasers : ParserTable :=
  .register .empty fixedScaleDecimal erasing

/-- A translator that takes its parsers from elsewhere. -/
def borrowing : Translator :=
  { translator with parsers := .shared }

/-- The row of an order where the table keeps it. -/
def stored (price : Value) : Row
  | "id" => .int 1
  | "AND" => price
  | _ => .null

end Orders

/-- The delete of an order is about the row that has its number and price and no note. -/
theorem rows_located_orders :
    let price := Value.decimal (.finite false 5 (-2))
    let v := Orders.event Orders.fields "d" (some Orders.row) none
    Translator.create (.text "public.orders") .strict (.standard Iso.reader) =
      .ok Orders.translator ∧
    ∃ st : BoundStatement, ∃ r : Reading Value,
      (Orders.translator.translate .empty (.raw .null) (.parsed v)).1 = .ok (some st) ∧
      st.kind ≠ .insert ∧ st = r.statement ∧
      Value.null ∉ r.conditions.filterMap Atom.value? ∧
      Comparison.exact.whereTruth (Orders.stored price) r.conditions = .true := by
  intro price v
  have produced : (Orders.translator.translate .empty (.raw .null) (.parsed v)).1 =
      .ok (some ⟨"public.orders", .delete,
        "DELETE FROM public.orders WHERE id = ? AND AND::numeric = ? AND NULL\n IS NULL",
        [.int 1, price]⟩) := rfl
  obtain ⟨s, k, v', identity, row, r, known, hk, hv, identified, same, -, -, bound, truth⟩ :=
    rows_located DryRun.executor "public.orders" .strict (.standard Iso.reader) Orders.translator
      Orders.create_eq {} {} [] .empty (.raw .null) (.parsed v) _ Comparison.exact (.inl produced)
      (by decide)
  have known : s = { Orders.keyed with keyColumns := [] } := Option.some.inj (known.symm.trans rfl)
  cases known
  cases hk
  cases hv
  rcases identified with - | ⟨_, _, -, before⟩
  cases before
  have kept : ∀ c ∈ Orders.keyed.columns, (ParserTable.standard Iso.reader).Keeps Orders.row c := by
    refine List.forall_mem_cons.2 ⟨fun _ => nofun, List.forall_mem_cons.2 ⟨fun _ => nofun,
      List.forall_mem_singleton.2 (ParserTable.keeps_of_null rfl)⟩⟩
  have met : ∀ c ∈ Orders.keyed.columns,
      Comparison.exact.Meets (.standard Iso.reader) Orders.row (Orders.stored price) c := by
    refine List.forall_mem_cons.2 ⟨⟨_, rfl, Comparison.exact.same_self _ _⟩,
      List.forall_mem_cons.2 ⟨⟨_, rfl, Comparison.exact.same_self _ _⟩,
      List.forall_mem_singleton.2 ⟨_, rfl, Comparison.exact.same_self _ _⟩⟩⟩
  exact ⟨Orders.create_eq, _, r, produced, by decide, same, bound.2 kept,
    (truth _).2 ⟨kept, met⟩⟩

/-- A parser makes a null of the price of an order: the delete of the order compares with null, and
is not about the row that has just what is bound. -/
theorem rows_located_unkept :
    let v := Orders.event Orders.fields "d" (some Orders.row) none
    let target := Orders.stored .null
    Translator.create (.text "public.orders") .strict .shared = .ok Orders.borrowing ∧
    ∃ st : BoundStatement,
      (Orders.borrowing.translate Orders.erasers (.raw .null) (.parsed v)).1 = .ok (some st) ∧
      st.parameters = [.int 1, .null] ∧
      (∀ c ∈ Orders.keyed.columns,
        Comparison.exact.Meets Orders.erasers Orders.row target c) ∧
      ∀ r, st.Reads r → Comparison.exact.whereTruth target r.conditions ≠ .true := by
  intro v target
  let r : Reading Value := .delete "public.orders"
    [.equals "id" (.int 1), .equalsNumeric "AND" .null, .isNull "NULL\n"]
  have produced : (Orders.borrowing.translate Orders.erasers (.raw .null) (.parsed v)).1 =
      .ok (some r.statement) := rfl
  have met : ∀ c ∈ Orders.keyed.columns,
      Comparison.exact.Meets Orders.erasers Orders.row target c := by
    refine List.forall_mem_cons.2 ⟨⟨_, rfl, Comparison.exact.same_self _ _⟩,
      List.forall_mem_cons.2 ⟨⟨_, rfl, Comparison.exact.same_self _ _⟩,
      List.forall_mem_singleton.2 ⟨_, rfl, Comparison.exact.same_self _ _⟩⟩⟩
  refine ⟨rfl, r.statement, produced, rfl, met, fun r' reads => ?_⟩
  have wellFormed : r.WellFormed := ⟨by decide, by decide, by decide⟩
  obtain rfl := (Reading.reads_statement_iff wellFormed r').1 reads
  rw [ne_eq, Comparison.whereTruth_eq_true_iff]
  intro all
  exact Comparison.compare_null _ _ (all _ (List.mem_cons_of_mem _ List.mem_cons_self))

end Changefeed
