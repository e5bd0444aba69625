import Changefeed.Proofs.Translator.Binding

/-!
# How changed rows are located

The row that an update or a delete changes is to be located by its key where the table has one and
the event carries the payload of a key, and by the whole row before the change elsewhere
(`Addresses`).  Translators keep to this, but for one kind of event (`Misleads`): a key envelope
without a payload counts as a key whose columns are all null (`translate_identity`).
-/

namespace Changefeed

variable {parsers : ParserTable} {table : String} {s : TableSchema} {value : ValueEnvelope}

/-! ### The payload of a key -/

theorem KeyEnvelope.checkMembers_eq_valid {ms : Members} {k : KeyEnvelope}
    (h : checkMembers ms = .valid k) :
    ms.get "payload" = .object k.payload ∨ ms.get "payload" = .null ∧ k.payload = [] := by
  obtain ⟨f, payload, hf, hp, rfl⟩ := Checked.seq_eq_valid h
  obtain ⟨schema, -, rfl⟩ := Checked.map_eq_valid hf
  unfold Members.get
  rcases Members.optional_eq_valid hp with ⟨absent, rfl⟩ | ⟨v, given, checked⟩
  · rw [absent]
    exact .inr ⟨rfl, rfl⟩
  · rw [given]
    cases v <;> cases checked
    exact .inl rfl

/-- An event without a key has no payload of one. -/
theorem EventKey.payload_of_none {key : EventKey} (h : key.envelope = .ok none) :
    key.payload = .null := by
  cases key with
  | parsed k => cases h
  | raw v =>
    cases v with
    | null => rfl
    | object ms =>
      simp only [envelope, KeyEnvelope.read] at h
      split at h <;> cases h
    | _ => cases h

/-- A key envelope holds the payload that the event carries, and an empty one if it carries none. -/
theorem EventKey.payload_of_some {key : EventKey} {k : KeyEnvelope}
    (h : key.envelope = .ok (some k)) :
    key.payload = .object k.payload ∨ key.payload = .null ∧ k.payload = [] := by
  cases key with
  | parsed k' =>
    cases h
    exact .inl rfl
  | raw v =>
    cases v with
    | object ms =>
      simp only [envelope, KeyEnvelope.read, KeyEnvelope.check, Value.checkRecord] at h
      cases hc : KeyEnvelope.checkMembers ms with
      | invalid es => rw [hc] at h; cases h
      | valid k' =>
        rw [hc] at h
        cases h
        exact KeyEnvelope.checkMembers_eq_valid hc
    | _ => cases h

/-! ### The rule -/

/-- The columns that are to locate the changed row, with the members that hold their values: those
of the key where the table has a key and the event carries the payload of one, else all, with the
row before the change. -/
inductive Addresses (s : TableSchema) (key : EventKey) (value : ValueEnvelope) :
    List Column → Members → Prop where
  | key (payload : Members) : s.hasKey → key.payload = .object payload →
      Addresses s key value s.keyColumns payload
  | row (before : Members) : (s.hasKey → key.payload = .null) →
      value.payload.before = some before → Addresses s key value s.columns before

/-- Whether an event has a key envelope without a payload, on a table with a key. -/
def Misleads (s : TableSchema) (key : EventKey) (k : Option KeyEnvelope) : Prop :=
  s.hasKey ∧ k.isSome ∧ key.payload = .null

/-- But for misleading events rows are located as they are to be. -/
theorem identifies_iff_addresses {key : EventKey} {k : Option KeyEnvelope}
    (h : key.envelope = .ok k) (straight : ¬ Misleads s key k) {identity : List Column}
    {row : Members} : Identifies s value k identity row ↔ Addresses s key value identity row := by
  constructor
  · rintro (⟨k, hasKey⟩ | ⟨_, _, keyless, hb⟩)
    · rcases EventKey.payload_of_some h with carried | ⟨absent, -⟩
      · exact .key k.payload hasKey carried
      · exact absurd ⟨hasKey, rfl, absent⟩ straight
    · refine .row _ (fun hasKey => ?_) hb
      obtain rfl := keyless hasKey
      exact EventKey.payload_of_none h
  · rintro (⟨_, hasKey, carried⟩ | ⟨_, keyless, hb⟩)
    · cases k with
      | none => cases carried.symm.trans (EventKey.payload_of_none h)
      | some k =>
        rcases EventKey.payload_of_some h with same | ⟨absent, -⟩
        · obtain rfl := Value.object.inj (carried.symm.trans same)
          exact .key k hasKey
        · cases carried.symm.trans absent
    · refine .row k _ (fun hasKey => ?_) hb
      cases k with
      | none => rfl
      | some k => exact absurd ⟨hasKey, rfl, keyless hasKey⟩ straight

/-- A misleading event is located by a key without any values. -/
theorem Misleads.identifies_iff {key : EventKey} {k : Option KeyEnvelope}
    (misleads : Misleads s key k) (h : key.envelope = .ok k) {identity : List Column}
    {row : Members} :
    Identifies s value k identity row ↔ identity = s.keyColumns ∧ row = [] := by
  obtain ⟨hasKey, some, absent⟩ := misleads
  obtain ⟨k, rfl⟩ := Option.isSome_iff_exists.1 some
  have empty : k.payload = [] := by
    rcases EventKey.payload_of_some h with carried | ⟨-, empty⟩
    · cases absent.symm.trans carried
    · exact empty
  constructor
  · rintro (⟨_, -⟩ | ⟨_, before, keyless, -⟩)
    · exact ⟨rfl, empty⟩
    · cases keyless hasKey
  · rintro ⟨rfl, rfl⟩
    rw [← empty]
    exact .key k hasKey

/-! ### Statements that locate a row -/

/-- The conditions that a statement ends in. -/
def Reading.conditions {α : Type} : Reading α → List (Atom α)
  | .insert .. => []
  | .update _ _ conditions | .delete _ conditions => conditions

/-- What is bound for the conditions of a statement comes last. -/
theorem Reading.conditions_suffix {α : Type} (r : Reading α) :
    r.conditions.filterMap Atom.value? <:+ r.values := by
  cases r with
  | insert table columns values => exact List.nil_suffix
  | update table assignments conditions => exact List.suffix_append _ _
  | delete table conditions => exact List.suffix_rfl

/-- A statement changes the rows that have the values of a row in columns: it is an update or a
delete with one condition for each of them, in order. -/
def BoundStatement.Locates (st : BoundStatement) (parsers : ParserTable) (identity : List Column)
    (row : Members) : Prop :=
  ∃ r : Reading Value, st = r.statement ∧ r.kind ≠ .insert ∧
    List.Forall₂ (Changefeed.Locates parsers row) identity r.conditions

theorem Means.locates {key : Option KeyEnvelope} {r : Reading Value}
    (means : Means parsers table s key value r) (changes : r.kind ≠ .insert) :
    ∃ identity row, Identifies s value key identity row ∧
      List.Forall₂ (Locates parsers row) identity r.conditions := by
  cases means with
  | insert after values _ _ _ => exact absurd rfl changes
  | update after row identity assignments conditions _ _ _ identified located =>
    exact ⟨identity, row, identified, located⟩
  | delete row identity conditions _ identified located =>
    exact ⟨identity, row, identified, located⟩

/-- Without values all columns are null. -/
theorem locates_nil_iff {cs : List Column} {conditions : List (Atom Value)} :
    List.Forall₂ (Locates parsers []) cs conditions ↔
      conditions = cs.map fun c => .isNull c.name := by
  induction cs generalizing conditions with
  | nil => simp [List.forall₂_nil_left_iff]
  | cons c cs ih =>
    have null : Members.get [] c.name = .null := rfl
    simp only [List.forall₂_cons_left_iff, locates_of_null null, ih, List.map_cons]
    simp

/-! ### Events that change rows -/

/-- Whether an event changes a row that is there. -/
def ValueEnvelope.Changes (value : ValueEnvelope) : Prop :=
  value.payload.operation = some .update ∨ value.payload.operation = some .delete

/-- A change whose row is located in no way lacks something. -/
theorem exists_lacks {key : Option KeyEnvelope} (changes : value.Changes)
    (unlocated : ∀ identity row, ¬ Identifies s value key identity row) :
    ∃ reason, Lacks s key value reason := by
  have keyless (hasKey : s.hasKey) : key = none := by
    cases key with
    | none => rfl
    | some k => exact absurd (.key k hasKey) (unlocated _ _)
  have absent : value.payload.before = none := by
    cases hb : value.payload.before with
    | none => rfl
    | some before => exact absurd (.row key before keyless hb) (unlocated _ _)
  rcases changes with update | delete
  · cases ha : value.payload.after with
    | none => exact ⟨_, .image (.inr update) ha⟩
    | some after =>
      by_cases complete : ∀ c ∈ s.columns, (after.get? c.name).isSome
      · exact ⟨_, .row (.inr ⟨update, after, ha, complete⟩) keyless absent⟩
      · refine ⟨_, .columns after (.inr update) ha ?_⟩
        simpa [Option.isSome_iff_ne_none] using complete
  · exact ⟨_, .row (.inl delete) keyless absent⟩

namespace Translator

variable {t : Translator} {policy : IdentifierPolicy} {source : ParserSource} {key : EventKey}
  {eventValue : EventValue} {k : Option KeyEnvelope}

/-- What a translation of a change gives is a statement that locates the row. -/
theorem Knows.exists_locates (h : t.Knows table policy source (some s))
    (named : policy.checkTable (.text table) = .ok table)
    (seen : ∃ key value, policy.discover key value = .ok s) (shared : ParserTable)
    (hk : key.envelope = .ok k) (hv : eventValue.envelope = .ok value) (changes : value.Changes)
    {o : Option BoundStatement} (translated : (t.translate shared key eventValue).1 = .ok o) :
    ∃ st identity row, o = some st ∧ Identifies s value k identity row ∧
      st.Locates (source.table shared) identity row := by
  obtain ⟨kind, changing, known⟩ : ∃ kind : StatementKind, kind ≠ .insert ∧
      eventValue.operation.bind Operation.kind? = some kind := by
    rw [EventValue.operation_of_envelope hv]
    rcases changes with h | h <;> rw [h]
    · exact ⟨.update, by decide, rfl⟩
    · exact ⟨.delete, by decide, rfl⟩
  have kinds := (translate_eq_ok translated).1.trans known
  obtain ⟨st, rfl, rfl⟩ := Option.map_eq_some_iff.1 kinds
  obtain ⟨s', k', v', r, found, hk', hv', means, rfl⟩ :=
    (h.translate_eq_some_iff named (fun _ same => Option.some.inj same ▸ seen) shared key
      eventValue).1 translated
  cases found
  cases hk.symm.trans hk'
  cases hv.symm.trans hv'
  obtain ⟨identity, row, identified, located⟩ := means.locates changing
  exact ⟨_, identity, row, rfl, identified, r, rfl, changing, located⟩

/-- A change whose row is located in no way is no statement. -/
theorem Knows.translate_of_unlocated (h : t.Knows table policy source (some s))
    (named : policy.checkTable (.text table) = .ok table)
    (seen : ∃ key value, policy.discover key value = .ok s) (shared : ParserTable)
    (hk : key.envelope = .ok k) (hv : eventValue.envelope = .ok value) (changes : value.Changes)
    (unlocated : ∀ identity row, ¬ Identifies s value k identity row) :
    ∃ e, (t.translate shared key eventValue).1 = .error e ∧ e.reason.kind = .statementBuild := by
  obtain ⟨reason, lacks⟩ := exists_lacks changes unlocated
  refine ⟨{ reason, context := _ }, (h.translate_eq_error_iff named
    (fun _ same => Option.some.inj same ▸ seen) shared).2 ⟨?_, rfl⟩, lacks.kind_eq⟩
  exact .lacking k value s reason hk hv rfl lacks

end Translator

/-- A translator that knows its columns locates the rows of updates and deletes as they are to be
located, and reports a change whose row is to be located by a row that the event does not carry.
The exception are events with a key envelope without a payload, on a table with a key: these are
located by the nulls of its columns, and a delete always is. -/
theorem translate_identity {σ : Type} (ex : Executor σ) (table : String)
    (policy : IdentifierPolicy) (source : ParserSource) (t : Translator)
    (fresh : Translator.create (.text table) policy source = .ok t) (m : Metrics) (x : σ)
    (calls : List Call) (shared : ParserTable) (key : EventKey) (value : EventValue)
    (s : TableSchema) (k : Option KeyEnvelope) (v : ValueEnvelope) :
    let w := (Workplace.mk t m x).after ex calls
    let translated := (w.translator.translate shared key value).1
    let parsers := source.table shared
    w.translator.state = .ready → w.translator.schema = some s →
      key.envelope = .ok k → value.envelope = .ok v → v.Changes →
      (¬ Misleads s key k →
        (∀ o, translated = .ok o → ∃ st identity row, o = some st ∧
          Addresses s key v identity row ∧ st.Locates parsers identity row) ∧
        ((∀ identity row, ¬ Addresses s key v identity row) →
          ∃ e, translated = .error e ∧ e.reason.kind = .statementBuild)) ∧
      (Misleads s key k →
        (∀ o, translated = .ok o → ∃ r : Reading Value, o = some r.statement ∧
          r.kind ≠ .insert ∧ r.conditions = s.keyColumns.map fun c => .isNull c.name) ∧
        (v.payload.operation = some .delete → ∃ o, translated = .ok o)) := by
  intro w translated parsers _ known hk hv changes
  have knows : w.translator.Knows table policy source (discovered policy calls) :=
    Workplace.knows_of_create ex fresh m x calls
  have found : discovered policy calls = some s := knows.schema_eq.symm.trans known
  rw [found] at knows
  have named := (Translator.create_eq_ok fresh).1
  have seen := exists_discover found
  refine ⟨fun straight => ⟨fun o produced => ?_, fun unlocated => ?_⟩,
    fun misleads => ⟨fun o produced => ?_, fun delete => ?_⟩⟩
  · obtain ⟨st, identity, row, rfl, identified, located⟩ :=
      knows.exists_locates named seen shared hk hv changes produced
    exact ⟨st, identity, row, rfl, (identifies_iff_addresses hk straight).1 identified, located⟩
  · refine knows.translate_of_unlocated named seen shared hk hv changes fun identity row h => ?_
    exact unlocated identity row ((identifies_iff_addresses hk straight).1 h)
  · obtain ⟨st, identity, row, rfl, identified, r, rfl, changing, located⟩ :=
      knows.exists_locates named seen shared hk hv changes produced
    obtain ⟨rfl, rfl⟩ := (misleads.identifies_iff hk).1 identified
    exact ⟨r, rfl, changing, locates_nil_iff.1 located⟩
  · have means : Means parsers table s k v
        (.delete table (s.keyColumns.map fun c => .isNull c.name)) :=
      .delete [] s.keyColumns _ delete ((misleads.identifies_iff hk).2 ⟨rfl, rfl⟩)
        (locates_nil_iff.2 rfl)
    exact ⟨_, (knows.translate_eq_some_iff named (fun _ same => Option.some.inj same ▸ seen)
      shared key value).2 ⟨s, k, v, _, rfl, hk, hv, means, rfl⟩⟩

namespace Orders

/-- The columns of orders, of which the first two are the key. -/
def keyed : TableSchema where
  columns := [⟨"id", "bytes", none, [("scale", .int 2)]⟩,
    ⟨"AND", "bytes", some fixedScaleDecimal, [("scale", .int 2)]⟩,
    ⟨"NULL\n", "bytes", none, [("scale", .int 2)]⟩]
  keyColumns := [⟨"id", "bytes", none, [("scale", .int 2)]⟩,
    ⟨"AND", "bytes", some fixedScaleDecimal, [("scale", .int 2)]⟩]

theorem discovered_eq : discovered .strict calls = some keyed := rfl

/-- The row of an order. -/
def row : Members := [("id", .int 1), ("AND", .bytes [5]), ("NULL\n", .null)]

/-- A key envelope without a payload. -/
def keyWithoutPayload : EventKey :=
  .raw (.object [("schema", schemaValue (key []).schema)])

end Orders

/-- An event without a key on a table that has one is located by the row before the change. -/
theorem translate_identity_orders :
    let w := (Workplace.mk Orders.translator {} {}).after DryRun.executor Orders.calls
    let v := Orders.event [] "d" (some Orders.row) none
    let translated := (w.translator.translate .empty (.raw .null) (.parsed v)).1
    Translator.create (.text "public.orders") .strict (.standard Iso.reader) =
      .ok Orders.translator ∧
    w.translator.state = .ready ∧ w.translator.schema = some Orders.keyed ∧ v.Changes ∧
    ¬ Misleads Orders.keyed (.raw .null) none ∧
    ∃ st, translated = .ok (some st) ∧
      st.Locates (.standard Iso.reader) Orders.keyed.columns Orders.row := by
  intro w v translated
  have knows := Workplace.knows_of_create DryRun.executor Orders.create_eq {} {} Orders.calls
  rw [Orders.discovered_eq] at knows
  have ready : w.translator.state = .ready := knows.state_eq.2 rfl
  have straight : ¬ Misleads Orders.keyed (.raw .null) none := by simp [Misleads]
  have produced : translated = .ok (some ⟨"public.orders", .delete,
      "DELETE FROM public.orders WHERE id = ? AND AND::numeric = ? AND NULL\n IS NULL",
      [.int 1, .decimal (.finite false 5 (-2))]⟩) :=
    (knows.translate .empty _ _).1.trans (by rfl)
  obtain ⟨_, identity, row, same, addressed, located⟩ := ((translate_identity DryRun.executor
    "public.orders" .strict (.standard Iso.reader) Orders.translator Orders.create_eq {} {}
    Orders.calls .empty (.raw .null) (.parsed v) Orders.keyed none v ready knows.schema_eq rfl rfl
    (.inr rfl)).1 straight).1 _ produced
  cases same
  refine ⟨Orders.create_eq, ready, knows.schema_eq, .inr rfl, straight, _, produced, ?_⟩
  rcases addressed with ⟨_, -, carried⟩ | ⟨_, -, before⟩
  · cases carried
  · cases before
    exact located

/-- A delete whose key envelope lacks a payload deletes the rows without a key, and not the one that
was there before the change. -/
theorem translate_identity_misled :
    let w := (Workplace.mk Orders.translator {} {}).after DryRun.executor Orders.calls
    let v := Orders.event [] "d" (some Orders.row) none
    Orders.keyWithoutPayload.payload = .null ∧
    ∃ st, (w.translator.translate .empty Orders.keyWithoutPayload (.parsed v)).1 =
        .ok (some st) ∧
      st.sql = "DELETE FROM public.orders WHERE id IS NULL AND AND IS NULL" ∧
      ¬ ∃ identity row, Addresses Orders.keyed Orders.keyWithoutPayload v identity row ∧
        st.Locates (.standard Iso.reader) identity row := by
  intro w v
  have knows := Workplace.knows_of_create DryRun.executor Orders.create_eq {} {} Orders.calls
  refine ⟨rfl, ⟨"public.orders", .delete,
    "DELETE FROM public.orders WHERE id IS NULL AND AND IS NULL", []⟩,
    (knows.translate .empty _ _).1.trans (by rfl), rfl, ?_⟩
  rintro ⟨_, _, ⟨_, -, carried⟩ | ⟨_, -, before⟩, r, same, -, located⟩
  · cases carried
  · cases before
    -- the row has a number, which is compared with a parameter, and the statement has none
    obtain ⟨a, rest, first, -, conditions⟩ := List.forall₂_cons_left_iff.1 located
    have numbered : Members.get Orders.row "id" ≠ .null := show Value.int 1 ≠ .null from nofun
    obtain ⟨w, -, rfl⟩ := (locates_iff numbered).1 first
    have unbound : r.values = [] := (congrArg BoundStatement.parameters same).symm
    have none := r.conditions_suffix
    rw [unbound, conditions] at none
    cases List.suffix_nil.1 none

end Changefeed
