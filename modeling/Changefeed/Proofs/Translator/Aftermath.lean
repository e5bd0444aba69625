import Changefeed.Proofs.Translator.Rejection

/-!
# What a failed translation leaves behind

A translation learns the columns of its table before it finds out what the event lacks, and builds
what the statement starts with before it binds the values.  It keeps both when it fails later: how
far it came is all that a failure leaves behind (`Translator.Knows.translate_of_rejected`), and
nothing that was known before is lost or changed (`translate_failure_keeps`).
-/

namespace Changefeed

namespace Translator

/-- A translator that knows the columns of its table. -/
def informed (t : Translator) (s : TableSchema) : Translator :=
  { t with state := .ready, schema := some s }

/-- A translator that keeps what the statements of a kind start with. -/
def prepared (t : Translator) (kind : StatementKind) (s : TableSchema) : Translator :=
  { t with templates := fun k =>
      if k = kind then some (Changefeed.template kind t.table s) else t.templates k }

variable {t : Translator} {table : String} {policy : IdentifierPolicy} {source : ParserSource}
  {known : Option TableSchema} {shared : ParserTable} {key : EventKey} {value : EventValue}
  {k : Option KeyEnvelope} {v : ValueEnvelope} {s : TableSchema}

theorem Knows.informed_eq (h : t.Knows table policy source (some s)) : t.informed s = t := by
  have ready := h.state_eq.2 rfl
  have schema := h.schema_eq
  cases t
  cases ready
  cases schema
  rfl

theorem Knows.informed (h : t.Knows table policy source known)
    (hs : known = none ∨ known = some s) : (t.informed s).Knows table policy source (some s) := by
  refine ⟨h.table_eq, h.policy_eq, h.parsers_eq, rfl, by simp [Translator.informed],
    fun kind text kept => ?_⟩
  obtain ⟨s', hs', rfl⟩ := h.templates_eq kind text kept
  rcases hs with rfl | rfl
  · cases hs'
  · cases hs'
    exact ⟨_, rfl, rfl⟩

theorem Knows.informed_of_ready (h : t.Knows table policy source known) (ready : t.state = .ready)
    {other : Option TableSchema} (found : known.or other = some s) : t.informed s = t := by
  obtain ⟨s', rfl⟩ := Option.isSome_iff_exists.1 (h.state_eq.1 ready)
  obtain rfl := Option.some.inj found
  exact h.informed_eq

/-- A text that was kept stays when one more is kept. -/
theorem Knows.templates_prepared (h : t.Knows table policy source known)
    {other : Option TableSchema} (found : known.or other = some s) {kind : StatementKind}
    {text : String} (ht : t.templates kind = some text) (kind' : StatementKind) :
    ((t.informed s).prepared kind' s).templates kind = some text := by
  obtain ⟨s', rfl, rfl⟩ := h.templates_eq kind text ht
  obtain rfl := Option.some.inj found
  by_cases hk : kind = kind'
  · simp [prepared, Translator.informed, hk, h.table_eq]
  · simpa [prepared, Translator.informed, hk] using ht

/-- Behind its discovery the columns are known. -/
theorem Knows.bootstrap_of_columns (h : t.Knows table policy source known)
    (found : columnsFor policy known k v = .ok s) :
    t.bootstrap k v = (.ok s, t.informed s) := by
  cases known with
  | some s' =>
    obtain rfl := Except.ok.inj found
    rw [h.informed_eq]
    exact bootstrap_of_ready (h.state_eq.2 rfl) h.schema_eq k v
  | none =>
    have found : t.policy.discover k v = .ok s := by rwa [h.policy_eq]
    rw [bootstrap_of_none h.schema_eq, found]
    rfl

theorem Knows.templateFor_snd (h : t.Knows table policy source (some s)) (kind : StatementKind) :
    (t.templateFor kind s).2 = t.prepared kind s := by
  unfold Translator.templateFor
  cases kept : t.templates kind with
  | none => rfl
  | some text =>
    have same : t.templates = fun k =>
        if k = kind then some (Changefeed.template kind t.table s) else t.templates k := by
      obtain ⟨s', hs, rfl⟩ := h.templates_eq kind text kept
      obtain rfl := Option.some.inj hs
      funext k
      split_ifs with hk
      · rw [hk, kept, h.table_eq]
      · rfl
    rw [prepared, ← same]

/-- How far a translation came is what its failure leaves behind. -/
theorem Knows.translate_of_rejected (h : t.Knows table policy source known)
    (seen : ∀ s, known = some s → ∃ key value, policy.discover key value = .ok s)
    {reason : Reason} (rejected : Rejected (source.table shared) policy known key value reason) :
    match reason.kind with
    | .malformedEvent | .schemaBootstrap => (t.translate shared key value).2 = t
    | .statementBuild => ∃ s, known.or (described policy key value) = some s ∧
        (t.translate shared key value).2 = t.informed s
    | .coercion => ∃ s kind, known.or (described policy key value) = some s ∧
        value.operation.bind Operation.kind? = some kind ∧
        (t.translate shared key value).2 = (t.informed s).prepared kind s
    | .other => False := by
  have event : (t.translate shared key value).2 = (t.translateEvent shared key value).2 := by
    unfold Translator.translate
    rcases t.translateEvent shared key value with ⟨e | o, t'⟩ <;> rfl
  -- From there on the course is that of a translator that has known the columns before.
  have reached (k : Option KeyEnvelope) (v : ValueEnvelope) (s : TableSchema)
      (hk : key.envelope = .ok k) (hv : value.envelope = .ok v)
      (found : known.or (described policy key value) = some s) :
      (t.informed s).Knows table policy source (some s) ∧
        t.translateEvent shared key value = (t.informed s).translateEnvelopes shared s k v := by
    have columns := (columnsFor_eq_ok_iff_or_described hk hv).2 found
    refine ⟨h.informed ((Option.or_eq_some_iff.1 found).symm.imp_left And.left), ?_⟩
    simp only [Translator.translateEvent, hk, hv, h.bootstrap_of_columns columns]
  rw [event]
  have family := rejected.family
  generalize reason.kind = kind at family ⊢
  cases kind with
  | malformedEvent =>
    rcases family with hk | ⟨k, hk, hv⟩
    · simp only [Translator.translateEvent, hk]
    · simp only [Translator.translateEvent, hk, hv]
  | schemaBootstrap =>
    obtain ⟨rfl, k, v, hk, hv, undescribed⟩ := family
    simp only [Translator.translateEvent, hk, hv, bootstrap_of_none h.schema_eq, h.policy_eq,
      undescribed]
  | statementBuild =>
    obtain ⟨k, v, s, hk, hv, found, lacks⟩ := family
    obtain ⟨_, _, hd⟩ := exists_discover_of_or_described seen found
    have planless := (ofEnvelopes_eq_error (IdentifierPolicy.discover_ok hd).1).2 lacks
    refine ⟨s, found, ?_⟩
    simp only [(reached k v s hk hv found).2, Translator.translateEnvelopes, planless]
  | coercion =>
    obtain ⟨k, v, s, p, hk, hv, found, planned, -⟩ := family
    obtain ⟨knows, reached⟩ := reached k v s hk hv found
    refine ⟨s, p.kind, found, ?_, ?_⟩
    · rw [EventValue.operation_of_envelope hv, ← Plan.ofEnvelopes_kind planned, Option.map_some]
    · rw [reached, Translator.translateEnvelopes, planned]
      exact knows.templateFor_snd p.kind
  | other => exact family

end Translator

/-- A translation that fails leaves the translator as it was if the event cannot be read or
describes no columns that can be used.  Else the columns are known behind it, those from before if
there were any, and if a parser refused a value also what the statement starts with; nothing else
changes, and what was kept stays. -/
theorem translate_failure_keeps {σ : Type} (ex : Executor σ) (table : String)
    (policy : IdentifierPolicy) (source : ParserSource) (t : Translator)
    (fresh : Translator.create (.text table) policy source = .ok t) (m : Metrics) (x : σ)
    (calls : List Call) (shared : ParserTable) (key : EventKey) (value : EventValue)
    (e : EventError) :
    let before := ((Workplace.mk t m x).after ex calls).translator
    let behind := (before.translate shared key value).2
    (before.translate shared key value).1 = .error e →
      (match e.reason.kind with
      | .malformedEvent | .schemaBootstrap => behind = before
      | .statementBuild => ∃ s, before.schema.or (described policy key value) = some s ∧
          behind = before.informed s
      | .coercion => ∃ s kind, before.schema.or (described policy key value) = some s ∧
          value.operation.bind Operation.kind? = some kind ∧
          behind = (before.informed s).prepared kind s
      | .other => False) ∧
      (before.state = .ready → behind.state = .ready ∧ behind.schema = before.schema ∧
        (e.reason.kind ≠ .coercion → behind = before)) ∧
      ∀ kind text, before.templates kind = some text → behind.templates kind = some text := by
  intro before behind failed
  have knows : before.Knows table policy source (discovered policy calls) :=
    Workplace.knows_of_create ex fresh m x calls
  have seen (s : TableSchema) (hs : before.schema = some s) :
      ∃ key value, policy.discover key value = .ok s :=
    exists_discover (knows.schema_eq.symm.trans hs)
  rw [← knows.schema_eq] at knows
  have rejected :=
    ((knows.translate_eq_error_iff (Translator.create_eq_ok fresh).1 seen shared).1 failed).1
  have left := knows.translate_of_rejected seen rejected
  refine ⟨left, ?_⟩
  cases family : e.reason.kind with
  | malformedEvent | schemaBootstrap =>
    rw [family] at left
    have left : behind = before := left
    rw [left]
    exact ⟨fun ready => ⟨ready, rfl, fun _ => rfl⟩, fun _ _ ht => ht⟩
  | statementBuild =>
    rw [family] at left
    obtain ⟨s, found, left⟩ := left
    have left : behind = before.informed s := left
    rw [left]
    refine ⟨fun ready => ?_, fun _ _ ht => ht⟩
    rw [knows.informed_of_ready ready found]
    exact ⟨ready, rfl, fun _ => rfl⟩
  | coercion =>
    rw [family] at left
    obtain ⟨s, kind, found, -, left⟩ := left
    have left : behind = (before.informed s).prepared kind s := left
    rw [left]
    refine ⟨fun ready => ⟨rfl, ?_, fun other => absurd rfl other⟩,
      fun kind' text ht => knows.templates_prepared found ht kind⟩
    rw [knows.informed_of_ready ready found]
    rfl
  | other => exact absurd family rejected.kind_ne_other

/-- Of a translator that is ready, an event without a row changes nothing. -/
theorem translate_failure_keeps_orders :
    let before := ((Workplace.mk Orders.translator {} {}).after DryRun.executor
      Orders.calls).translator
    let value := EventValue.parsed (Orders.event [] "c" none none)
    Translator.create (.text "public.orders") .strict (.standard Iso.reader) =
      .ok Orders.translator ∧
      before.state = .ready ∧ ∃ e, (before.translate .empty (.raw .null) value).1 = .error e ∧
        (before.translate .empty (.raw .null) value).2 = before := by
  intro before value
  have knows := Workplace.knows_of_create DryRun.executor Orders.create_eq {} {} Orders.calls
  have ready : before.state = .ready := knows.state_eq.2 rfl
  have failed : (before.translate .empty (.raw .null) value).1 =
      .error ⟨.noImage .after, { table := .text "public.orders", operation := .text "c" }⟩ :=
    (knows.translate .empty _ _).1.trans (by rfl)
  obtain ⟨-, kept, -⟩ := translate_failure_keeps DryRun.executor "public.orders" .strict
    (.standard Iso.reader) Orders.translator Orders.create_eq {} {} Orders.calls .empty (.raw .null)
    value _ failed
  exact ⟨Orders.create_eq, ready, _, failed, (kept ready).2.2 nofun⟩

/-- An event that lacks a column makes a fresh translator ready, and one with a list for a decimal
then leaves what an insert starts with. -/
theorem translate_failure_leaves :
    let first := Orders.translator.translate .empty (.raw .null)
      (.parsed (Orders.event Orders.fields "c" none (some [("id", .int 1)])))
    let second := first.2.translate .empty (.raw .null) (.parsed (Orders.event [] "c" none
      (some [("id", .int 1), ("AND", .list []), ("NULL\n", .null)])))
    ((∃ e, first.1 = .error e) ∧ Orders.translator.state = .uninitialized ∧
      first.2.state = .ready ∧ Orders.translator.schema = none ∧ first.2.schema.isSome) ∧
    (∃ e, second.1 = .error e) ∧ first.2.templates .insert = none ∧
      (second.2.templates .insert).isSome :=
  ⟨⟨⟨_, rfl⟩, rfl, rfl, rfl, rfl⟩, ⟨_, rfl⟩, rfl, rfl⟩

end Changefeed
