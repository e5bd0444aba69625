import Changefeed.Proofs.Translator.Frame

/-!
# Rejected events

`Rejected` says from an event and the columns of its table alone why there is no statement for it:
an envelope cannot be read, no columns are described that the policy takes, the event lacks what its
statement needs (`Lacks`), or a parser refuses a value (`FirstRefused`).  In a session a translation
fails for just these reasons (`Translator.Knows.translate_eq_error_iff`), which are of four families
in this order, and its error says where the raw event comes from (`translate_error_located`).
-/

namespace Changefeed

/-! ### What an event lacks -/

/-- Whether an event sets the columns of a row. -/
def ValueEnvelope.Sets (value : ValueEnvelope) : Prop :=
  value.payload.operation = some .create ∨ value.payload.operation = some .update

/-- What an event lacks for its statement, on a table with columns `s`. -/
inductive Lacks (s : TableSchema) (key : Option KeyEnvelope) (value : ValueEnvelope) :
    Reason → Prop where
  | image : value.Sets → value.payload.after = none → Lacks s key value (.noImage .after)
  | columns (after : Members) : value.Sets → value.payload.after = some after →
      (∃ c ∈ s.columns, after.get? c.name = none) →
      Lacks s key value (.missingColumns .after
        ((s.columns.filter fun c => (after.get? c.name).isNone).map (·.name)))
  | row : value.payload.operation = some .delete ∨
        value.payload.operation = some .update ∧
          (∃ after, value.payload.after = some after ∧
            ∀ c ∈ s.columns, (after.get? c.name).isSome) →
      (s.hasKey → key = none) → value.payload.before = none →
      Lacks s key value .noRowToLocate

variable {parsers : ParserTable} {table : String} {s : TableSchema} {key : Option KeyEnvelope}
  {value : ValueEnvelope} {policy : IdentifierPolicy} {known : Option TableSchema}
  {eventKey : EventKey} {eventValue : EventValue} {reason : Reason}

theorem rowValues_eq_error {cs : List Column} {which : RowImage} {image : Option Members} :
    Plan.rowValues cs which image = .error reason ↔
      image = none ∧ reason = .noImage which ∨
      ∃ ms, image = some ms ∧ (∃ c ∈ cs, ms.get? c.name = none) ∧
        reason = .missingColumns which
          ((cs.filter fun c => (ms.get? c.name).isNone).map (·.name)) := by
  cases image with
  | none => simp [Plan.rowValues, eq_comm]
  | some ms =>
    have lacking : (cs.filter fun c => (ms.get? c.name).isNone).isEmpty = false ↔
        ∃ c ∈ cs, ms.get? c.name = none := by
      simp [List.isEmpty_eq_false_iff, List.filter_eq_nil_iff]
    simp only [Plan.rowValues, reduceCtorEq, false_and, false_or, Option.some.injEq,
      exists_eq_left', ← lacking]
    cases (cs.filter fun c => (ms.get? c.name).isNone).isEmpty <;> simp [eq_comm]

/-- The image after a change lacks what it is asked for just if the event does. -/
theorem lacks_of_rowValues (sets : value.Sets)
    (h : Plan.rowValues s.columns .after value.payload.after = .error reason) :
    Lacks s key value reason := by
  rcases rowValues_eq_error.1 h with ⟨none, rfl⟩ | ⟨after, ha, lacking, rfl⟩
  · exact .image sets none
  · exact .columns after sets ha lacking

theorem identity_eq_error : Plan.identity s key value = .error reason ↔
    (s.hasKey → key = none) ∧ value.payload.before = none ∧ reason = .noRowToLocate := by
  have byRow (keyless : s.hasKey → key = none) : Plan.identity s key value = .error reason ↔
      value.payload.before = none ∧ reason = .noRowToLocate := by
    unfold Plan.identity
    split
    next k hasKey => exact nomatch keyless hasKey
    next =>
      cases value.payload.before with
      | none => simp [eq_comm]
      | some before => simp
  cases hs : s.hasKey with
  | false => simpa [hs] using byRow (by simp [hs])
  | true =>
    cases key with
    | none => simpa [hs] using byRow fun _ => rfl
    | some k => simp [Plan.identity, hs]

/-- Where the table has columns, the row to change is only unknown without its key and the image
before the change. -/
theorem location_eq_error (filled : s.columns ≠ []) :
    Plan.location s key value = .error reason ↔
      (s.hasKey → key = none) ∧ value.payload.before = none ∧ reason = .noRowToLocate := by
  rw [← identity_eq_error, Plan.location, bind_eq_error_iff]
  constructor
  · rintro (h | ⟨⟨identity, row⟩, chosen, h⟩)
    · exact h
    · have some := (identity_eq_ok.1 chosen).ne_nil filled
      have body : (WhereBody.ofIdentity identity row).conditions.isEmpty = false := by
        simpa [WhereBody.ofIdentity] using some
      simp [body] at h
  · exact .inl

/-- Planning fails just for what an event lacks. -/
theorem ofEnvelopes_eq_error (filled : s.columns ≠ []) :
    Plan.ofEnvelopes s key value = .error reason ↔ Lacks s key value reason := by
  unfold Plan.ofEnvelopes
  constructor
  · intro h
    split at h
    next hop =>
      rcases bind_eq_error_iff.1 h with h | ⟨_, -, h⟩
      · exact lacks_of_rowValues (.inl hop) h
      · cases h
    next hop =>
      rcases bind_eq_error_iff.1 h with h | ⟨_, values, h⟩
      · exact lacks_of_rowValues (.inr hop) h
      obtain ⟨after, ha, complete, -⟩ := rowValues_eq_ok.1 values
      rcases bind_eq_error_iff.1 h with h | ⟨_, -, h⟩
      · obtain ⟨keyless, none, rfl⟩ := (location_eq_error filled).1 h
        exact .row (.inr ⟨hop, after, ha, complete⟩) keyless none
      · cases h
    next hop =>
      rcases bind_eq_error_iff.1 h with h | ⟨_, -, h⟩
      · obtain ⟨keyless, none, rfl⟩ := (location_eq_error filled).1 h
        exact .row (.inl hop) keyless none
      · cases h
    next => cases h
  · have values (h : Plan.rowValues s.columns .after value.payload.after = .error reason)
        (sets : value.Sets) : Plan.ofEnvelopes s key value = .error reason := by
      unfold Plan.ofEnvelopes
      rcases sets with hop | hop <;> rw [hop] <;> exact bind_eq_error_iff.2 (.inl h)
    rintro (⟨sets, none⟩ | ⟨after, sets, ha, lacking⟩ | ⟨hop | ⟨hop, after, ha, complete⟩,
      keyless, none⟩)
    · exact values (rowValues_eq_error.2 (.inl ⟨none, rfl⟩)) sets
    · exact values (rowValues_eq_error.2 (.inr ⟨after, ha, lacking, rfl⟩)) sets
    · rw [hop]
      exact bind_eq_error_iff.2 (.inl ((location_eq_error filled).2 ⟨keyless, none, rfl⟩))
    · rw [hop]
      refine bind_eq_error_iff.2 (.inr ⟨_, rowValues_eq_ok.2 ⟨after, ha, complete, rfl⟩, ?_⟩)
      exact bind_eq_error_iff.2 (.inl ((location_eq_error filled).2 ⟨keyless, none, rfl⟩))

/-! ### What parsers refuse -/

/-- The parser for a column fails at a raw value. -/
def Refuses (parsers : ParserTable) (c : Column) (raw : Value) (reason : Reason) : Prop :=
  ∃ meaning parser cause, raw ≠ .null ∧ c.semanticType = some meaning ∧
    parsers.find? meaning = some parser ∧ parser.run c.parameters raw = .error cause ∧
    reason = .uncoercible raw c.name meaning cause

/-- The first of the raw values that the parser for its column refuses. -/
def FirstRefused (parsers : ParserTable) (pairs : List (Column × Value)) (reason : Reason) :
    Prop :=
  ∃ front c raw rest, pairs = front ++ (c, raw) :: rest ∧
    (∀ pair ∈ front, ∃ w, coerce parsers pair.1 pair.2 = .ok w) ∧ Refuses parsers c raw reason

theorem coerce_eq_error {c : Column} {raw : Value} :
    coerce parsers c raw = .error reason ↔ Refuses parsers c raw reason := by
  unfold coerce Refuses
  by_cases null : raw = .null
  · simp [null, Value.isNull]
  rw [if_neg (mt Value.isNull_iff.1 null)]
  cases c.semanticType with
  | none => simp
  | some meaning =>
    cases hp : parsers.find? meaning with
    | none => simp [hp]
    | some parser => cases hr : parser.run c.parameters raw <;> simp [null, hp, hr, eq_comm]

theorem firstRefused_cons {c : Column} {raw : Value} {pairs : List (Column × Value)} :
    FirstRefused parsers ((c, raw) :: pairs) reason ↔
      Refuses parsers c raw reason ∨
        (∃ w, coerce parsers c raw = .ok w) ∧ FirstRefused parsers pairs reason := by
  constructor
  · rintro ⟨front, d, raw', rest, split, passed, refused⟩
    cases front with
    | nil =>
      obtain ⟨⟨rfl, rfl⟩, -⟩ := by simpa using split
      exact .inl refused
    | cons first front =>
      obtain ⟨rfl, rfl⟩ := by simpa using split
      exact .inr ⟨passed _ List.mem_cons_self, front, d, raw', rest, rfl,
        fun pair hp => passed pair (List.mem_cons_of_mem _ hp), refused⟩
  · rintro (refused | ⟨taken, front, d, raw', rest, rfl, passed, refused⟩)
    · exact ⟨[], c, raw, pairs, rfl, by simp, refused⟩
    · exact ⟨(c, raw) :: front, d, raw', rest, rfl, List.forall_mem_cons.2 ⟨taken, passed⟩,
        refused⟩

theorem coerceAll_eq_error {cs : List Column} {vs : List Value} :
    coerceAll parsers cs vs = .error reason ↔ FirstRefused parsers (cs.zip vs) reason := by
  induction cs generalizing vs with
  | nil => simp [coerceAll, FirstRefused]
  | cons c cs ih =>
    cases vs with
    | nil => simp [coerceAll, FirstRefused]
    | cons v vs =>
      rw [coerceAll, bind_eq_error_iff, coerce_eq_error, List.zip_cons_cons, firstRefused_cons,
        ← ih]
      refine or_congr_right ⟨?_, ?_⟩
      · rintro ⟨w, taken, h⟩
        rcases bind_eq_error_iff.1 h with h | ⟨_, -, h⟩
        · exact ⟨⟨w, taken⟩, h⟩
        · cases h
      · rintro ⟨⟨w, taken⟩, h⟩
        exact ⟨w, taken, bind_eq_error_iff.2 (.inl h)⟩

/-- Where a parser refuses a value there is a first such value. -/
theorem exists_firstRefused {pairs : List (Column × Value)} {pair : Column × Value}
    (mem : pair ∈ pairs) (refused : Refuses parsers pair.1 pair.2 reason) :
    ∃ first, FirstRefused parsers pairs first := by
  induction pairs with
  | nil => cases mem
  | cons head pairs ih =>
    obtain ⟨c, raw⟩ := head
    cases hc : coerce parsers c raw with
    | error first => exact ⟨first, firstRefused_cons.2 (.inl (coerce_eq_error.1 hc))⟩
    | ok w =>
      rcases List.mem_cons.1 mem with rfl | mem
      · rw [coerce_eq_error.2 refused] at hc
        cases hc
      · obtain ⟨first, h⟩ := ih mem
        exact ⟨first, firstRefused_cons.2 (.inr ⟨⟨w, hc⟩, h⟩)⟩

/-! ### Why there is no statement -/

/-- Why there is no statement for an event, for a translator that knows the columns `known`. -/
inductive Rejected (parsers : ParserTable) (policy : IdentifierPolicy) (known : Option TableSchema)
    (key : EventKey) (value : EventValue) : Reason → Prop where
  | unreadableKey (reason : Reason) : key.envelope = .error reason →
      Rejected parsers policy known key value reason
  | unreadableValue (k : Option KeyEnvelope) (reason : Reason) : key.envelope = .ok k →
      value.envelope = .error reason → Rejected parsers policy known key value reason
  | undescribed (k : Option KeyEnvelope) (v : ValueEnvelope) (reason : Reason) :
      key.envelope = .ok k → value.envelope = .ok v → known = none →
      policy.discover k v = .error reason → Rejected parsers policy known key value reason
  | lacking (k : Option KeyEnvelope) (v : ValueEnvelope) (s : TableSchema) (reason : Reason) :
      key.envelope = .ok k → value.envelope = .ok v →
      known.or (described policy key value) = some s → Lacks s k v reason →
      Rejected parsers policy known key value reason
  | refused (k : Option KeyEnvelope) (v : ValueEnvelope) (s : TableSchema) (p : Plan)
      (reason : Reason) : key.envelope = .ok k → value.envelope = .ok v →
      known.or (described policy key value) = some s →
      Plan.ofEnvelopes s k v = .ok (some p) →
      FirstRefused parsers (p.columns.zip p.values) reason →
      Rejected parsers policy known key value reason

/-- With as many placeholders as values to bind, the envelopes and the parsers are all that can
stop a statement. -/
theorem Translator.freshStatement_eq_error_iff (filled : s.columns ≠ [])
    (free : ∀ n ∈ table :: (s.columns ++ s.keyColumns).map (·.name), placeholder ∉ n.toList)
    {e : EventError} : freshStatement table parsers s key value = .error e ↔
      ∃ reason, e = { reason } ∧ (Lacks s key value reason ∨
        ∃ p, Plan.ofEnvelopes s key value = .ok (some p) ∧
          FirstRefused parsers (p.columns.zip p.values) reason) := by
  have planless {o : Except Reason (Option Plan)} (h : Plan.ofEnvelopes s key value = o)
      {reason : Reason} (other : o ≠ .error reason) : ¬ Lacks s key value reason :=
    fun lacks => other (h.symm.trans ((ofEnvelopes_eq_error filled).2 lacks))
  unfold freshStatement
  rcases hp : Plan.ofEnvelopes s key value with r | _ | p
  · have lacks := (ofEnvelopes_eq_error filled).1 hp
    constructor
    · rintro ⟨⟩
      exact ⟨r, rfl, .inl lacks⟩
    · rintro ⟨reason, rfl, lacks' | ⟨_, ⟨⟩, -⟩⟩
      have same := hp.symm.trans ((ofEnvelopes_eq_error filled).2 lacks')
      rw [Except.error.inj same]
  · simp [planless hp]
  · simp only [planless hp, ne_eq, reduceCtorEq, not_false_eq_true, false_or, Except.ok.injEq,
      Option.some.injEq, exists_eq_left', ← coerceAll_eq_error]
    cases hb : coerceAll parsers p.columns p.values with
    | error r => simp [bindPlan, hb, Except.map, eq_comm]
    | ok ws =>
      -- What is bound belongs to a reading, whose text has as many placeholders.
      obtain ⟨r, means, -⟩ := means_of_plan filled hp hb
      have produced := (freshStatement_eq_ok_iff filled free).2 ⟨r, means, rfl⟩
      simp only [freshStatement, hp] at produced
      rw [produced]
      simp

namespace Translator

theorem columnsFor_eq_error_iff : columnsFor policy known key value = .error reason ↔
    known = none ∧ policy.discover key value = .error reason := by
  cases known <;> simp [columnsFor]

theorem statementFor_eq_error_iff (named : policy.checkTable (.text table) = .ok table)
    (seen : ∀ s, known = some s → ∃ key value, policy.discover key value = .ok s)
    {e : EventError} : statementFor table policy parsers known eventKey eventValue = .error e ↔
      ∃ reason, Rejected parsers policy known eventKey eventValue reason ∧ e = { reason } := by
  constructor
  · intro h
    unfold statementFor at h
    rcases hk : eventKey.envelope with r | k
    · simp only [hk] at h
      exact ⟨r, .unreadableKey r hk, (Except.error.inj h).symm⟩
    rcases hv : eventValue.envelope with r | v
    · simp only [hk, hv] at h
      exact ⟨r, .unreadableValue k r hk hv, (Except.error.inj h).symm⟩
    simp only [hk, hv] at h
    cases hc : columnsFor policy known k v with
    | error r =>
      rw [hc] at h
      obtain ⟨fresh, undescribed⟩ := columnsFor_eq_error_iff.1 hc
      exact ⟨r, .undescribed k v r hk hv fresh undescribed, (Except.error.inj h).symm⟩
    | ok s =>
      rw [hc] at h
      have found := (columnsFor_eq_ok_iff_or_described hk hv).1 hc
      obtain ⟨_, _, hd⟩ := exists_discover_of_or_described seen found
      obtain ⟨r, rfl, lacks | ⟨p, planned, refused⟩⟩ :=
        (freshStatement_eq_error_iff (IdentifierPolicy.discover_ok hd).1
          (IdentifierPolicy.placeholder_not_mem_of_discover named hd)).1 h
      · exact ⟨r, .lacking k v s r hk hv found lacks, rfl⟩
      · exact ⟨r, .refused k v s p r hk hv found planned refused, rfl⟩
  · have fails {k : Option KeyEnvelope} {v : ValueEnvelope} {s : TableSchema} {reason : Reason}
        (hk : eventKey.envelope = .ok k) (hv : eventValue.envelope = .ok v)
        (found : known.or (described policy eventKey eventValue) = some s)
        (stop : Lacks s k v reason ∨ ∃ p, Plan.ofEnvelopes s k v = .ok (some p) ∧
          FirstRefused parsers (p.columns.zip p.values) reason) :
        statementFor table policy parsers known eventKey eventValue = .error { reason } := by
      obtain ⟨_, _, hd⟩ := exists_discover_of_or_described seen found
      simp only [statementFor, hk, hv, (columnsFor_eq_ok_iff_or_described hk hv).2 found]
      exact (freshStatement_eq_error_iff (IdentifierPolicy.discover_ok hd).1
        (IdentifierPolicy.placeholder_not_mem_of_discover named hd)).2 ⟨reason, rfl, stop⟩
    rintro ⟨reason, rejected, rfl⟩
    cases rejected with
    | unreadableKey _ hk => simp only [statementFor, hk]
    | unreadableValue k _ hk hv => simp only [statementFor, hk, hv]
    | undescribed k v _ hk hv fresh undescribed =>
      simp only [statementFor, hk, hv, columnsFor_eq_error_iff.2 ⟨fresh, undescribed⟩]
    | lacking k v s _ hk hv found lacks => exact fails hk hv found (.inl lacks)
    | refused k v s p _ hk hv found planned refused =>
      exact fails hk hv found (.inr ⟨p, planned, refused⟩)

/-- A translation fails just where its event is rejected, and the error says where that was. -/
theorem Knows.translate_eq_error_iff {t : Translator} {source : ParserSource}
    (h : t.Knows table policy source known) (named : policy.checkTable (.text table) = .ok table)
    (seen : ∀ s, known = some s → ∃ key value, policy.discover key value = .ok s)
    (shared : ParserTable) {e : EventError} :
    (t.translate shared eventKey eventValue).1 = .error e ↔
      Rejected (source.table shared) policy known eventKey eventValue e.reason ∧
        e.context = { table := .text table, operation := eventValue.op,
                      key := eventKey.payload } := by
  rw [(h.translate shared eventKey eventValue).1, outcomeFor]
  constructor
  · intro failed
    cases hs : statementFor table policy (source.table shared) known eventKey eventValue with
    | ok o =>
      rw [hs] at failed
      cases failed
    | error e' =>
      obtain ⟨reason, rejected, rfl⟩ := (statementFor_eq_error_iff named seen).1 hs
      rw [hs] at failed
      obtain rfl := Except.error.inj failed
      exact ⟨rejected, rfl⟩
  · rintro ⟨rejected, context⟩
    rw [(statementFor_eq_error_iff named seen).2 ⟨e.reason, rejected, rfl⟩]
    exact congrArg (fun c => Except.error (EventError.mk e.reason c)) context.symm

end Translator

/-! ### Families of reasons -/

theorem EventKey.kind_of_envelope (h : eventKey.envelope = .error reason) :
    reason.kind = .malformedEvent := by
  cases eventKey with
  | parsed k => cases h
  | raw v =>
    simp only [envelope, KeyEnvelope.read] at h
    split at h
    · cases h
    · split at h
      · cases h
      · obtain rfl := Except.error.inj h
        rfl

theorem EventValue.kind_of_envelope (h : eventValue.envelope = .error reason) :
    reason.kind = .malformedEvent := by
  cases eventValue with
  | parsed e => cases h
  | raw v =>
    simp only [envelope, ValueEnvelope.read] at h
    split at h
    · obtain rfl := Except.error.inj h
      rfl
    · split at h
      · cases h
      · obtain rfl := Except.error.inj h
        rfl

theorem Column.kind_of_ofFields {fields : List FieldSchema}
    (h : Column.ofFields fields = .error reason) : reason.kind = .schemaBootstrap := by
  induction fields with
  | nil => cases h
  | cons f fs ih =>
    rw [Column.ofFields, List.mapM_cons] at h
    rcases bind_eq_error_iff.1 h with h | ⟨c, -, h⟩
    · unfold Column.ofField at h
      split at h
      · obtain rfl := Except.error.inj h
        rfl
      · obtain rfl := Except.error.inj h
        rfl
      · cases h
    · rcases bind_eq_error_iff.1 h with h | ⟨cs, -, h⟩
      · exact ih h
      · cases h

theorem TableSchema.kind_of_rowColumns {schema : FieldSchema} {image : RowImage}
    (h : rowColumns schema image = .error reason) : reason.kind = .schemaBootstrap := by
  unfold rowColumns at h
  split at h
  · obtain rfl := Except.error.inj h
    rfl
  · split_ifs at h
    · obtain rfl := Except.error.inj h
      rfl
    · exact Column.kind_of_ofFields h

theorem TableSchema.kind_of_keyColumnsOf (h : keyColumnsOf key = .error reason) :
    reason.kind = .schemaBootstrap := by
  unfold keyColumnsOf at h
  split at h
  · cases h
  · split at h
    · obtain rfl := Except.error.inj h
      rfl
    · exact Column.kind_of_ofFields h

theorem TableSchema.kind_of_ofEnvelopes (h : ofEnvelopes key value = .error reason) :
    reason.kind = .schemaBootstrap := by
  unfold ofEnvelopes at h
  split at h
  · obtain rfl := Except.error.inj h
    rfl
  · rcases bind_eq_error_iff.1 h with h | ⟨columns, -, h⟩
    · exact kind_of_rowColumns h
    rcases bind_eq_error_iff.1 h with h | ⟨keyColumns, -, h⟩
    · exact kind_of_keyColumnsOf h
    · cases h

theorem kind_of_checkColumnNames {cs : List Column} (h : checkColumnNames cs = .error reason) :
    reason.kind = .schemaBootstrap := by
  unfold checkColumnNames at h
  split at h
  · obtain rfl := Except.error.inj h
    rfl
  · cases h

theorem IdentifierPolicy.kind_of_discover (h : policy.discover key value = .error reason) :
    reason.kind = .schemaBootstrap := by
  rcases bind_eq_error_iff.1 h with h | ⟨s, -, h⟩
  · exact TableSchema.kind_of_ofEnvelopes h
  rcases bind_eq_error_iff.1 h with h | ⟨_, -, h⟩
  · cases policy with
    | strict =>
      rcases bind_eq_error_iff.1 h with h | ⟨_, -, h⟩
      · exact kind_of_checkColumnNames h
      · exact kind_of_checkColumnNames h
    | trust =>
      simp only [checkColumns, checkPlaceholders] at h
      split at h
      · obtain rfl := Except.error.inj h
        rfl
      · cases h
  · cases h

theorem Lacks.kind_eq (h : Lacks s key value reason) : reason.kind = .statementBuild := by
  cases h <;> rfl

theorem FirstRefused.kind_eq {pairs : List (Column × Value)}
    (h : FirstRefused parsers pairs reason) : reason.kind = .coercion := by
  obtain ⟨_, _, _, _, -, -, _, _, _, -, -, -, -, rfl⟩ := h
  rfl

/-- The family of a reason tells how far the translation came. -/
theorem Rejected.family (h : Rejected parsers policy known eventKey eventValue reason) :
    match reason.kind with
    | .malformedEvent => eventKey.envelope = .error reason ∨
        ∃ k, eventKey.envelope = .ok k ∧ eventValue.envelope = .error reason
    | .schemaBootstrap => known = none ∧ ∃ k v, eventKey.envelope = .ok k ∧
        eventValue.envelope = .ok v ∧ policy.discover k v = .error reason
    | .statementBuild => ∃ k v s, eventKey.envelope = .ok k ∧ eventValue.envelope = .ok v ∧
        known.or (described policy eventKey eventValue) = some s ∧ Lacks s k v reason
    | .coercion => ∃ k v s p, eventKey.envelope = .ok k ∧ eventValue.envelope = .ok v ∧
        known.or (described policy eventKey eventValue) = some s ∧
        Plan.ofEnvelopes s k v = .ok (some p) ∧
        FirstRefused parsers (p.columns.zip p.values) reason
    | .other => False := by
  cases h with
  | unreadableKey _ hk =>
    rw [EventKey.kind_of_envelope hk]
    exact .inl hk
  | unreadableValue k _ hk hv =>
    rw [EventValue.kind_of_envelope hv]
    exact .inr ⟨k, hk, hv⟩
  | undescribed k v _ hk hv fresh undescribed =>
    rw [IdentifierPolicy.kind_of_discover undescribed]
    exact ⟨fresh, k, v, hk, hv, undescribed⟩
  | lacking k v s _ hk hv found lacks =>
    rw [lacks.kind_eq]
    exact ⟨k, v, s, hk, hv, found, lacks⟩
  | refused k v s p _ hk hv found planned refused =>
    rw [refused.kind_eq]
    exact ⟨k, v, s, p, hk, hv, found, planned, refused⟩

theorem Rejected.kind_ne_other (h : Rejected parsers policy known eventKey eventValue reason) :
    reason.kind ≠ .other := by
  intro other
  have family := h.family
  rwa [other] at family

/-! ### What an error says -/

/-- A member of a document, null if there is none. -/
def Value.member (v : Value) (name : String) : Value :=
  match v with
  | .object ms => Members.get ms name
  | _ => .null

theorem EventValue.op_raw (v : Value) :
    (EventValue.raw v).op = (v.member "payload").member "op" := by
  cases v with
  | object ms =>
    cases hp : Members.get ms "payload" <;> simp [op, Value.member, hp]
  | _ => rfl

theorem EventKey.payload_raw (v : Value) : (EventKey.raw v).payload = v.member "payload" := by
  cases v <;> rfl

/-- The message of an error names a column and the meaning of its type. -/
def EventError.Names (e : EventError) (c : Column) : Prop :=
  ∃ meaning front back, c.semanticType = some meaning ∧
    e.message = front ++ " of column '" ++ c.name ++ "' (" ++ meaning ++ "): " ++ back

theorem EventError.message_eq (e : EventError) : ∃ back, e.message = e.reason.message ++ back := by
  unfold message
  split
  · exact ⟨"", (String.append_empty ..).symm⟩
  · exact ⟨" (" ++ (", ".intercalate e.context.parts ++ ")"), by simp only [String.append_assoc]⟩

theorem Refuses.names {c : Column} {raw : Value} {e : EventError}
    (h : Refuses parsers c raw e.reason) : e.Names c := by
  obtain ⟨meaning, parser, cause, -, semantic, -, -, same⟩ := h
  obtain ⟨back, message⟩ := e.message_eq
  have worded : e.reason.message = "Cannot coerce value " ++ String.ofList raw.literal ++
      " of column '" ++ c.name ++ "' (" ++ meaning ++ "): " ++ cause.message := by
    rw [same]
    rfl
  refine ⟨meaning, "Cannot coerce value " ++ String.ofList raw.literal, cause.message ++ back,
    semantic, ?_⟩
  rw [message, worded, String.append_assoc]

/-- A translation of a raw event that fails does so for a reason of one of the four families and
says of which table, operation and key the event is.  What a parser refuses is always reported, with
the column and the meaning of its type. -/
theorem translate_error_located {σ : Type} (ex : Executor σ) (table : String)
    (policy : IdentifierPolicy) (source : ParserSource) (t : Translator)
    (fresh : Translator.create (.text table) policy source = .ok t) (m : Metrics) (x : σ)
    (calls : List Call) (shared : ParserTable) (key value : Value) :
    let w := (Workplace.mk t m x).after ex calls
    let translated := (w.translator.translate shared (.raw key) (.raw value)).1
    let parsers := source.table shared
    let known := discovered policy calls
    (∀ e, translated = .error e ↔
      Rejected parsers policy known (.raw key) (.raw value) e.reason ∧
        e.context = { table := .text table
                      operation := (value.member "payload").member "op"
                      key := key.member "payload" }) ∧
    (∀ e, translated = .error e → e.reason.kind ≠ .other ∧
      (e.reason.kind = .coercion → ∃ c raw, Refuses parsers c raw e.reason ∧ e.Names c)) ∧
    ∀ k v s p, (EventKey.raw key).envelope = .ok k → (EventValue.raw value).envelope = .ok v →
      known.or (described policy (.raw key) (.raw value)) = some s →
      Plan.ofEnvelopes s k v = .ok (some p) →
      (∃ pair ∈ p.columns.zip p.values, ∃ reason, Refuses parsers pair.1 pair.2 reason) →
      ∃ e, translated = .error e ∧ e.reason.kind = .coercion ∧
        FirstRefused parsers (p.columns.zip p.values) e.reason := by
  intro w translated parsers known
  have knows : w.translator.Knows table policy source known :=
    Workplace.knows_of_create ex fresh m x calls
  have fails (e : EventError) : translated = .error e ↔
      Rejected parsers policy known (.raw key) (.raw value) e.reason ∧
        e.context = { table := .text table
                      operation := (value.member "payload").member "op"
                      key := key.member "payload" } := by
    rw [← EventValue.op_raw, ← EventKey.payload_raw]
    exact knows.translate_eq_error_iff (Translator.create_eq_ok fresh).1
      (fun s hs => exists_discover hs) shared
  refine ⟨fails, fun e failed => ?_, fun k v s p hk hv found planned refused => ?_⟩
  · have rejected := ((fails e).1 failed).1
    refine ⟨rejected.kind_ne_other, fun coercion => ?_⟩
    have family := rejected.family
    rw [coercion] at family
    obtain ⟨_, _, _, _, -, -, -, -, _, c, raw, _, -, -, refused⟩ := family
    exact ⟨c, raw, refused, refused.names⟩
  · obtain ⟨pair, mem, reason, refuses⟩ := refused
    obtain ⟨first, firstRefused⟩ := exists_firstRefused mem refuses
    refine ⟨{ reason := first, context := _ }, (fails _).2 ⟨?_, rfl⟩, firstRefused.kind_eq,
      firstRefused⟩
    exact .refused k v s p first hk hv found planned firstRefused

/-- A list is no decimal; the event after the session of calls names the operation and the key that
its error reports. -/
theorem translate_error_located_orders :
    let w := (Workplace.mk Orders.translator {} {}).after DryRun.executor Orders.calls
    let key := Value.object [("payload", .object [("id", .int 1)])]
    let after := Value.object [("id", .int 1), ("AND", .list []), ("NULL\n", .null)]
    let value := Value.object [("payload", .object [("op", .text "c"), ("after", after)])]
    Translator.create (.text "public.orders") .strict (.standard Iso.reader) =
      .ok Orders.translator ∧
      ∃ e c raw, (w.translator.translate .empty (.raw key) (.raw value)).1 = .error e ∧
        e.context = { table := .text "public.orders", operation := .text "c"
                      key := .object [("id", .int 1)] } ∧
        Refuses (.standard Iso.reader) c raw e.reason ∧ e.Names c := by
  intro w key after value
  have located := translate_error_located DryRun.executor "public.orders" .strict
    (.standard Iso.reader) Orders.translator Orders.create_eq {} {} Orders.calls .empty key value
  have knows := Workplace.knows_of_create DryRun.executor Orders.create_eq {} {} Orders.calls
  have failed : (w.translator.translate .empty (.raw key) (.raw value)).1 =
      .error ⟨.uncoercible (.list []) "AND" fixedScaleDecimal { kind := .invalidDecimal },
        { table := .text "public.orders", operation := .text "c"
          key := .object [("id", .int 1)] }⟩ :=
    (knows.translate .empty _ _).1.trans (by rfl)
  obtain ⟨c, raw, refused, names⟩ := (located.2.1 _ failed).2 rfl
  exact ⟨Orders.create_eq, _, c, raw, failed, ((located.1 _).1 failed).2, refused, names⟩

end Changefeed
