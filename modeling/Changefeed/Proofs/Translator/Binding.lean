import Changefeed.Proofs.Translator.Rejection

/-!
# Statements are bound and name their row

The checks that a statement has as many placeholders as values and that there is a condition for the
row never fail on an event: the columns that an event may describe exclude both.  So a statement has
a value for each placeholder, and an update or a delete ends in one condition for each column that
tells rows apart, of which there is one at least (`translate_bound`).
-/

namespace Changefeed

variable {parsers : ParserTable} {table : String} {s : TableSchema} {key : Option KeyEnvelope}
  {value : ValueEnvelope}

/-- What a translation reports is never the count of its placeholders nor a lack of conditions. -/
theorem Rejected.unbound {policy : IdentifierPolicy} {known : Option TableSchema}
    {eventKey : EventKey} {eventValue : EventValue} {reason : Reason}
    (h : Rejected parsers policy known eventKey eventValue reason) :
    (∀ placeholders parameters, reason ≠ .placeholderMismatch placeholders parameters) ∧
      reason ≠ .noIdentityColumns := by
  have family := h.family
  constructor
  · rintro placeholders parameters rfl
    obtain ⟨_, _, _, -, -, -, ⟨⟩⟩ := family
  · rintro rfl
    obtain ⟨_, _, _, -, -, -, ⟨⟩⟩ := family

/-- The conditions of an update or a delete are one for each column that tells rows apart. -/
theorem Means.located (filled : s.columns ≠ []) {r : Reading Value}
    (means : Means parsers table s key value r) (changes : r.kind ≠ .insert) :
    ∃ identity row conditions, Identifies s value key identity row ∧ conditions ≠ [] ∧
      List.Forall₂ (Locates parsers row) identity conditions ∧
      ∃ front, r.text = front ++ (" WHERE ".toList ++ Reading.whereText conditions) := by
  cases means with
  | insert after values _ _ _ => exact absurd rfl changes
  | update after row identity assignments conditions _ _ _ identified located =>
    obtain ⟨front, text⟩ : ∃ front,
        updateText table (assignments.map (·.1)) = front ++ " WHERE ".toList := ⟨_, rfl⟩
    refine ⟨identity, row, conditions, identified,
      ne_nil_of_forall₂ located (identified.ne_nil filled), located, front, ?_⟩
    rw [← updateText_append, text, List.append_assoc]
  | delete row identity conditions _ identified located =>
    obtain ⟨front, text⟩ : ∃ front, deleteText table = front ++ " WHERE ".toList := ⟨_, rfl⟩
    refine ⟨identity, row, conditions, identified,
      ne_nil_of_forall₂ located (identified.ne_nil filled), located, front, ?_⟩
    rw [← deleteText_append, text, List.append_assoc]

/-- Whatever came before, no event leads to a statement without its values or to one that changes
all rows: neither is reported, every statement has a value for each placeholder, and an update or a
delete ends in one condition for each column that tells rows apart, of which there is one. -/
theorem translate_bound {σ : Type} (ex : Executor σ) (table : String) (policy : IdentifierPolicy)
    (source : ParserSource) (t : Translator)
    (fresh : Translator.create (.text table) policy source = .ok t) (m : Metrics) (x : σ)
    (calls : List Call) (shared : ParserTable) (key : EventKey) (value : EventValue) :
    let w := (Workplace.mk t m x).after ex calls
    let translated := w.translator.translate shared key value
    (∀ e, translated.1 = .error e →
      (∀ placeholders parameters, e.reason ≠ .placeholderMismatch placeholders parameters) ∧
        e.reason ≠ .noIdentityColumns) ∧
    ∀ st, translated.1 = .ok (some st) →
      placeholderCount st.sql = st.parameters.length ∧
      (st.kind = .update ∨ st.kind = .delete →
        ∃ s k v identity row conditions, translated.2.schema = some s ∧ key.envelope = .ok k ∧
          value.envelope = .ok v ∧ Identifies s v k identity row ∧ conditions ≠ [] ∧
          List.Forall₂ (Locates (source.table shared) row) identity conditions ∧
          ∃ front,
            st.sql.toList = front ++ (" WHERE ".toList ++ Reading.whereText conditions)) := by
  intro w translated
  have knows : w.translator.Knows table policy source (discovered policy calls) :=
    Workplace.knows_of_create ex fresh m x calls
  have named := (Translator.create_eq_ok fresh).1
  have seen (s : TableSchema) (hs : discovered policy calls = some s) := exists_discover hs
  refine ⟨fun e failed => ?_, fun st produced => ⟨?_, fun changes => ?_⟩⟩
  · exact ((knows.translate_eq_error_iff named seen shared).1 failed).1.unbound
  · exact ((Translator.translate_eq_ok produced).2 st rfl).2
  · obtain ⟨s, k, v, r, found, hk, hv, means, rfl⟩ :=
      (knows.translate_eq_some_iff named seen shared key value).1 produced
    obtain ⟨_, _, hd⟩ := Translator.exists_discover_of_or_described seen found
    have kind : r.kind ≠ .insert := by
      rintro insert
      rw [Reading.statement, insert] at changes
      simp at changes
    obtain ⟨identity, row, conditions, identified, filled, located, front, text⟩ :=
      means.located (IdentifierPolicy.discover_ok hd).1 kind
    refine ⟨s, k, v, identity, row, conditions,
      (knows.translate shared key value).2.schema_eq.trans found, hk, hv, identified, filled,
      located, front, ?_⟩
    rw [← text]
    exact String.toList_ofList

namespace Orders

/-- A translator of a table whose name the strict policy does not take. -/
def trusting : Translator where
  table := "two words"
  policy := .trust
  parsers := .shared

/-- The deletion of a row without one of its values. -/
def deletion : ValueEnvelope :=
  event [("a b", none), ("id", none)] "d" (some [("id", .int 7)]) none

end Orders

/-- A condition without a value stands beside one with a value. -/
theorem translate_bound_deletion :
    Translator.create (.text "two words") .trust .shared = .ok Orders.trusting ∧
      ∃ st, (Orders.trusting.translate .empty (.raw .null) (.parsed Orders.deletion)).1 =
          .ok (some st) ∧ placeholderCount st.sql = st.parameters.length ∧
        ∃ conditions : List (Atom Value), conditions ≠ [] ∧
          ∃ front, st.sql.toList = front ++ (" WHERE ".toList ++ Reading.whereText conditions) := by
  have fresh : Translator.create (.text "two words") .trust .shared = .ok Orders.trusting := rfl
  have produced : (Orders.trusting.translate .empty (.raw .null) (.parsed Orders.deletion)).1 =
      .ok (some ⟨"two words", .delete, "DELETE FROM two words WHERE a b IS NULL AND id = ?",
        [.int 7]⟩) := rfl
  obtain ⟨count, located⟩ := (translate_bound DryRun.executor "two words" .trust .shared
    Orders.trusting fresh {} {} [] .empty (.raw .null) (.parsed Orders.deletion)).2 _ produced
  obtain ⟨_, _, _, _, _, conditions, -, -, -, -, filled, -, text⟩ := located (.inr rfl)
  exact ⟨fresh, _, produced, count, conditions, filled, text⟩

end Changefeed
