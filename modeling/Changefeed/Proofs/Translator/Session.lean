import Changefeed.Executor.DryRun
import Changefeed.Executor.Faulty
import Changefeed.Parser.Iso
import Changefeed.Proofs.Identifier
import Changefeed.Translator.Process

/-!
# Sessions of a translator

A session is a fresh translator with any calls on it, whatever their outcomes and whatever the
executor does with the statements.  `discovered` are the columns that the first event among the
calls describes, and `Translator.Knows` says that a translator remembers these and nothing else of
its past: it holds at the start and every call keeps it (`Workplace.knows_step`), so it holds after
any session (`Workplace.knows_after`).
-/

namespace Changefeed

/-- A call of a translator.  The parsers that are shared stand in the call: they may have changed
since the one before. -/
inductive Call where
  | translate (shared : ParserTable) (key : EventKey) (value : EventValue)
  | process (shared : ParserTable) (key : EventKey) (value : EventValue)
  | bootstrap (key : Option KeyEnvelope) (value : ValueEnvelope)
  | template (kind : StatementKind)
deriving Inhabited

namespace Workplace

variable {σ : Type} (ex : Executor σ)

/-- The state behind a call. -/
def step (w : Workplace σ) : Call → Workplace σ
  | .translate shared key value =>
    { w with translator := (w.translator.translate shared key value).2 }
  | .process shared key value => (w.process ex shared key value).2
  | .bootstrap key value => { w with translator := (w.translator.bootstrap key value).2 }
  | .template kind => { w with translator := (w.translator.template kind).2 }

/-- The state behind calls in order. -/
def after (w : Workplace σ) (calls : List Call) : Workplace σ :=
  calls.foldl (step ex) w

theorem after_append (w : Workplace σ) (calls later : List Call) :
    w.after ex (calls ++ later) = (w.after ex calls).after ex later :=
  List.foldl_append

end Workplace

/-! ### What a session discovers -/

/-- The columns that an event describes, if it can be read and the policy takes their names. -/
def described (p : IdentifierPolicy) (key : EventKey) (value : EventValue) : Option TableSchema :=
  match key.envelope, value.envelope with
  | .ok k, .ok v => (p.discover k v).toOption
  | _, _ => none

theorem toOption_eq_some {ε α : Type} {x : Except ε α} {a : α} :
    x.toOption = some a ↔ x = .ok a := by
  cases x <;> simp [Except.toOption]

theorem described_eq_some {p : IdentifierPolicy} {key : EventKey} {value : EventValue}
    {s : TableSchema} : described p key value = some s ↔
      ∃ k v, key.envelope = .ok k ∧ value.envelope = .ok v ∧ p.discover k v = .ok s := by
  unfold described
  rcases key.envelope with e | k <;> rcases value.envelope with e | v <;> simp [toOption_eq_some]

/-- The columns that the event of a call describes. -/
def Call.describes (p : IdentifierPolicy) : Call → Option TableSchema
  | .translate _ key value | .process _ key value => described p key value
  | .bootstrap key value => (p.discover key value).toOption
  | .template _ => none

/-- The columns that the first call describes which describes any. -/
def discovered (p : IdentifierPolicy) (calls : List Call) : Option TableSchema :=
  calls.findSome? (Call.describes p)

theorem discovered_append (p : IdentifierPolicy) (calls later : List Call) :
    discovered p (calls ++ later) = (discovered p calls).or (discovered p later) :=
  List.findSome?_append

theorem discovered_concat (p : IdentifierPolicy) (calls : List Call) (call : Call) :
    discovered p (calls ++ [call]) = (discovered p calls).or (call.describes p) := by
  rw [discovered_append]
  congr 1
  simp only [discovered, List.findSome?_cons, List.findSome?_nil]
  cases call.describes p <;> rfl

/-- What calls discover some event describes. -/
theorem exists_discover {p : IdentifierPolicy} {calls : List Call} {s : TableSchema}
    (h : discovered p calls = some s) : ∃ key value, p.discover key value = .ok s := by
  obtain ⟨call, -, hc⟩ := List.exists_of_findSome?_eq_some h
  cases call with
  | translate shared key value | process shared key value =>
    obtain ⟨k, v, -, -, hd⟩ := described_eq_some.1 hc
    exact ⟨k, v, hd⟩
  | bootstrap key value => exact ⟨key, value, toOption_eq_some.1 hc⟩
  | template kind => cases hc

/-! ### What a translator remembers -/

namespace Translator

/-- A translator of `table` that remembers the columns `known`, if any, and no more: it is ready
when there are such columns, and the texts that it keeps are those that they give. -/
structure Knows (t : Translator) (table : String) (policy : IdentifierPolicy)
    (parsers : ParserSource) (known : Option TableSchema) : Prop where
  table_eq : t.table = table
  policy_eq : t.policy = policy
  parsers_eq : t.parsers = parsers
  schema_eq : t.schema = known
  state_eq : t.state = .ready ↔ known.isSome
  templates_eq : ∀ kind text, t.templates kind = some text →
    ∃ s, known = some s ∧ text = Changefeed.template kind table s

variable {t : Translator} {table : String} {policy : IdentifierPolicy} {parsers : ParserSource}
  {known : Option TableSchema}

theorem create_eq_ok (fresh : create (.text table) policy parsers = .ok t) :
    policy.checkTable (.text table) = .ok table ∧ t = { table, policy, parsers } := by
  obtain ⟨name, checked, rfl⟩ := map_eq_ok_iff.1 fresh
  obtain ⟨rfl, -⟩ := IdentifierPolicy.checkTable_eq_ok checked
  exact ⟨checked, rfl⟩

theorem knows_of_create (fresh : create (.text table) policy parsers = .ok t) :
    t.Knows table policy parsers none := by
  obtain ⟨-, rfl⟩ := create_eq_ok fresh
  exact ⟨rfl, rfl, rfl, rfl, by simp, by simp⟩

/-- Figures are no part of what is remembered. -/
theorem Knows.of_stats (h : t.Knows table policy parsers known) (own : Stats → Stats) :
    { t with stats := own t.stats }.Knows table policy parsers known :=
  ⟨h.table_eq, h.policy_eq, h.parsers_eq, h.schema_eq, h.state_eq, h.templates_eq⟩

/-! ### Bootstrapping -/

/-- The columns that a translator works with: those that it knows, or those that the event at hand
describes. -/
def columnsFor (policy : IdentifierPolicy) (known : Option TableSchema)
    (key : Option KeyEnvelope) (value : ValueEnvelope) : Except Reason TableSchema :=
  match known with
  | some s => .ok s
  | none => policy.discover key value

theorem columnsFor_eq_ok_iff {key : Option KeyEnvelope} {value : ValueEnvelope}
    {s : TableSchema} : columnsFor policy known key value = .ok s ↔
      known.or (policy.discover key value).toOption = some s := by
  cases known with
  | some s' => simp [columnsFor]
  | none => cases hd : policy.discover key value <;> simp [columnsFor, hd, Except.toOption]

theorem bootstrap_of_ready {s : TableSchema} (ready : t.state = .ready) (h : t.schema = some s)
    (key : Option KeyEnvelope) (value : ValueEnvelope) : t.bootstrap key value = (.ok s, t) := by
  simp only [bootstrap, ready, h]

theorem bootstrap_of_none (h : t.schema = none) (key : Option KeyEnvelope)
    (value : ValueEnvelope) :
    t.bootstrap key value =
      match t.policy.discover key value with
      | .ok s => (.ok s, { t with state := .ready, schema := some s })
      | .error e => (.error e, t) := by
  unfold bootstrap
  rw [h]
  cases t.state <;> rfl

theorem Knows.bootstrap_eq (h : t.Knows table policy parsers known) (key : Option KeyEnvelope)
    (value : ValueEnvelope) : (t.bootstrap key value).1 = columnsFor policy known key value := by
  cases known with
  | some s => rw [bootstrap_of_ready (h.state_eq.2 rfl) h.schema_eq, columnsFor]
  | none =>
    rw [bootstrap_of_none h.schema_eq, h.policy_eq, columnsFor]
    cases policy.discover key value <;> rfl

theorem Knows.bootstrap (h : t.Knows table policy parsers known) (key : Option KeyEnvelope)
    (value : ValueEnvelope) :
    (t.bootstrap key value).2.Knows table policy parsers
      (known.or (policy.discover key value).toOption) := by
  cases known with
  | some s => rwa [bootstrap_of_ready (h.state_eq.2 rfl) h.schema_eq, Option.some_or]
  | none =>
    have unused (kind : StatementKind) : t.templates kind = none := by
      cases hk : t.templates kind with
      | none => rfl
      | some text => simpa using h.templates_eq kind text hk
    rw [bootstrap_of_none h.schema_eq, h.policy_eq, Option.none_or]
    cases policy.discover key value with
    | error e => exact h
    | ok s =>
      exact ⟨h.table_eq, rfl, h.parsers_eq, rfl, by simp [Except.toOption],
        fun kind text hk => by simp [unused] at hk⟩

/-! ### Texts that are kept -/

theorem Knows.templateFor_eq {s : TableSchema} (h : t.Knows table policy parsers (some s))
    (kind : StatementKind) : (t.templateFor kind s).1 = Changefeed.template kind table s := by
  unfold templateFor
  cases hk : t.templates kind with
  | none => simp only [h.table_eq]
  | some text =>
    obtain ⟨s', hs, rfl⟩ := h.templates_eq kind text hk
    obtain rfl := Option.some.inj hs
    rfl

theorem Knows.templateFor {s : TableSchema} (h : t.Knows table policy parsers (some s))
    (kind : StatementKind) : (t.templateFor kind s).2.Knows table policy parsers (some s) := by
  unfold Translator.templateFor
  cases hk : t.templates kind with
  | some text => exact h
  | none =>
    refine ⟨h.table_eq, h.policy_eq, h.parsers_eq, h.schema_eq, h.state_eq, fun k text ht => ?_⟩
    by_cases hkk : k = kind
    · subst hkk
      simp only [if_true, Option.some.injEq] at ht
      exact ⟨s, rfl, by rw [← ht, h.table_eq]⟩
    · simp only [if_neg hkk] at ht
      exact h.templates_eq k text ht

theorem Knows.template (h : t.Knows table policy parsers known) (kind : StatementKind) :
    (t.template kind).2.Knows table policy parsers known := by
  unfold Translator.template
  cases known with
  | none => simpa only [h.schema_eq] using h
  | some s => simpa only [h.schema_eq] using h.templateFor kind

/-! ### Translation without a memory -/

/-- The statement for an event of a table with columns `s`, its text built anew. -/
def freshStatement (table : String) (parsers : ParserTable) (s : TableSchema)
    (key : Option KeyEnvelope) (value : ValueEnvelope) :
    Except EventError (Option BoundStatement) :=
  match Plan.ofEnvelopes s key value with
  | .error e => .error { reason := e }
  | .ok none => .ok none
  | .ok (some p) => (bindPlan table parsers (Changefeed.template p.kind table s) p).map some

/-- The statement for an event as the columns `known` decide it, without anything else from before:
if there are none, the event has to describe them. -/
def statementFor (table : String) (policy : IdentifierPolicy) (parsers : ParserTable)
    (known : Option TableSchema) (key : EventKey) (value : EventValue) :
    Except EventError (Option BoundStatement) :=
  match key.envelope, value.envelope with
  | .error e, _ => .error { reason := e }
  | .ok _, .error e => .error { reason := e }
  | .ok k, .ok v =>
    match columnsFor policy known k v with
    | .error e => .error { reason := e }
    | .ok s => freshStatement table parsers s k v

/-- The outcome for an event as the columns `known` decide it: its statement, or an error that says
where it arose. -/
def outcomeFor (table : String) (policy : IdentifierPolicy) (parsers : ParserTable)
    (known : Option TableSchema) (key : EventKey) (value : EventValue) :
    Except EventError (Option BoundStatement) :=
  (statementFor table policy parsers known key value).mapError fun e =>
    e.located { table := .text table, operation := value.op, key := key.payload }

theorem outcomeFor_eq_ok_iff {parsers : ParserTable} {key : EventKey} {value : EventValue}
    {o : Option BoundStatement} : outcomeFor table policy parsers known key value = .ok o ↔
      ∃ k v s, key.envelope = .ok k ∧ value.envelope = .ok v ∧
        columnsFor policy known k v = .ok s ∧ freshStatement table parsers s k v = .ok o := by
  rw [outcomeFor, mapError_eq_ok_iff, statementFor]
  rcases key.envelope with e | k
  · simp
  rcases value.envelope with e | v
  · simp
  simp only [Except.ok.injEq, exists_and_left, exists_eq_left']
  cases columnsFor policy known k v <;> simp

theorem columnsFor_or_discover (policy : IdentifierPolicy) (known : Option TableSchema)
    (key : Option KeyEnvelope) (value : ValueEnvelope) :
    columnsFor policy (known.or (policy.discover key value).toOption) key value =
      columnsFor policy known key value := by
  cases known with
  | some s => rfl
  | none =>
    rw [Option.none_or]
    cases hd : policy.discover key value <;> simp only [Except.toOption, columnsFor, hd]

/-- To be told the columns of an event is no help with the event itself. -/
theorem outcomeFor_or_described (table : String) (policy : IdentifierPolicy)
    (parsers : ParserTable) (known : Option TableSchema) (key : EventKey) (value : EventValue) :
    outcomeFor table policy parsers (known.or (described policy key value)) key value =
      outcomeFor table policy parsers known key value := by
  unfold outcomeFor statementFor described
  rcases key.envelope with e | k
  · rfl
  rcases value.envelope with e | v
  · rfl
  simp only [columnsFor_or_discover]

theorem Knows.translateEnvelopes_eq {s : TableSchema} (h : t.Knows table policy parsers (some s))
    (shared : ParserTable) (key : Option KeyEnvelope) (value : ValueEnvelope) :
    (t.translateEnvelopes shared s key value).1 =
      freshStatement table (parsers.table shared) s key value := by
  unfold translateEnvelopes freshStatement
  cases Plan.ofEnvelopes s key value with
  | error e => rfl
  | ok plan =>
    cases plan with
    | none => rfl
    | some p =>
      have kept := h.templateFor p.kind
      show (bindPlan (t.templateFor p.kind s).2.table _ (t.templateFor p.kind s).1 p).map some = _
      rw [kept.table_eq, kept.parsers_eq, h.templateFor_eq p.kind]

theorem Knows.translateEnvelopes {s : TableSchema} (h : t.Knows table policy parsers (some s))
    (shared : ParserTable) (key : Option KeyEnvelope) (value : ValueEnvelope) :
    (t.translateEnvelopes shared s key value).2.Knows table policy parsers (some s) := by
  unfold Translator.translateEnvelopes
  cases Plan.ofEnvelopes s key value with
  | error e => exact h
  | ok plan =>
    cases plan with
    | none => exact h
    | some p => exact h.templateFor p.kind

theorem Knows.translateEvent (h : t.Knows table policy parsers known) (shared : ParserTable)
    (key : EventKey) (value : EventValue) :
    (t.translateEvent shared key value).1 =
        statementFor table policy (parsers.table shared) known key value ∧
      (t.translateEvent shared key value).2.Knows table policy parsers
        (known.or (described policy key value)) := by
  unfold Translator.translateEvent statementFor described
  rcases key.envelope with e | k
  · exact ⟨rfl, by simpa using h⟩
  rcases value.envelope with e | v
  · exact ⟨rfl, by simpa using h⟩
  have columns := h.bootstrap_eq k v
  have kept := h.bootstrap k v
  dsimp only
  generalize t.bootstrap k v = booted at columns kept ⊢
  obtain ⟨e | s, t'⟩ := booted <;> simp only [← columns] at kept ⊢
  · exact ⟨trivial, kept⟩
  · rw [columnsFor_eq_ok_iff.1 columns.symm] at kept ⊢
    exact ⟨kept.translateEnvelopes_eq shared k v, kept.translateEnvelopes shared k v⟩

/-- What a translation gives is what it would give without a memory, and it adds nothing to what
is remembered but the columns of the event, if none were known. -/
theorem Knows.translate (h : t.Knows table policy parsers known) (shared : ParserTable)
    (key : EventKey) (value : EventValue) :
    (t.translate shared key value).1 =
        outcomeFor table policy (parsers.table shared) known key value ∧
      (t.translate shared key value).2.Knows table policy parsers
        (known.or (described policy key value)) := by
  obtain ⟨outcome, kept⟩ := h.translateEvent shared key value
  unfold Translator.translate outcomeFor contextOf
  rw [← outcome, h.table_eq]
  generalize t.translateEvent shared key value = translated at kept ⊢
  obtain ⟨e | s, t'⟩ := translated
  · exact ⟨rfl, kept⟩
  · exact ⟨rfl, kept⟩

end Translator

/-! ### Calls keep what is remembered -/

namespace Workplace

variable {σ : Type} (ex : Executor σ) {w : Workplace σ} {table : String}
  {policy : IdentifierPolicy} {parsers : ParserSource} {known : Option TableSchema}

/-- Handling an event leaves the translator as translating it does, up to its figures. -/
theorem process_translator (w : Workplace σ) (shared : ParserTable) (key : EventKey)
    (value : EventValue) :
    ∃ own : Stats → Stats, (w.process ex shared key value).2.translator =
      { (w.translator.translate shared key value).2 with
        stats := own (w.translator.translate shared key value).2.stats } := by
  unfold process
  rcases w.translator.translate shared key value with ⟨e | statement, t⟩
  · exact ⟨Stats.addFailed, rfl⟩
  cases statement with
  | none => exact ⟨Stats.addSkipped, rfl⟩
  | some s =>
    simp only [apply]
    rcases ex.execute s.sql s.parameters _ with ⟨e | done, executor⟩
    · exact ⟨Stats.addFailed, rfl⟩
    · exact ⟨(·.addApplied s.kind), rfl⟩

theorem knows_step (h : w.translator.Knows table policy parsers known) (call : Call) :
    (w.step ex call).translator.Knows table policy parsers
      (known.or (call.describes policy)) := by
  cases call with
  | translate shared key value => exact (h.translate shared key value).2
  | process shared key value =>
    obtain ⟨own, same⟩ := process_translator ex w shared key value
    simp only [step, same]
    exact (h.translate shared key value).2.of_stats own
  | bootstrap key value => exact h.bootstrap key value
  | template kind => simpa only [step, Call.describes, Option.or_none] using h.template kind

theorem knows_after (h : w.translator.Knows table policy parsers known) (calls : List Call) :
    (w.after ex calls).translator.Knows table policy parsers
      (known.or (discovered policy calls)) := by
  induction calls generalizing w known with
  | nil => simpa [discovered, after] using h
  | cons call calls ih =>
    have later := ih (knows_step ex h call)
    rw [Option.or_assoc] at later
    have first : discovered policy (call :: calls) =
        (call.describes policy).or (discovered policy calls) := by
      simp only [discovered, List.findSome?_cons]
      cases call.describes policy <;> rfl
    rw [first]
    exact later

/-- After any calls a fresh translator knows the columns that they discovered. -/
theorem knows_of_create {t : Translator} (fresh : Translator.create (.text table) policy parsers =
    .ok t) (m : Metrics) (x : σ) (calls : List Call) :
    ((Workplace.mk t m x).after ex calls).translator.Knows table policy parsers
      (discovered policy calls) := by
  simpa only [Option.none_or] using
    knows_after ex (w := ⟨t, m, x⟩) (Translator.knows_of_create fresh) calls

end Workplace

/-! ### Sessions on orders -/

namespace Orders

/-- The schema of a record, whose fields have a name and perhaps a meaning. -/
def record (name : Option String) (fields : List (String × Option String)) : FieldSchema :=
  .mk "struct" name none true []
    (fields.map fun (field, meaning) =>
      .mk "bytes" (some field) meaning true [("scale", .int 2)] [])

/-- The columns of an order; words of the language of statements and a final line feed are taken
in names. -/
def fields : List (String × Option String) :=
  [("id", none), ("AND", some fixedScaleDecimal), ("NULL\n", none)]

/-- A change of a row with fields. -/
def event (fields : List (String × Option String)) (op : String) (before after : Option Members) :
    ValueEnvelope where
  schema := some (.mk "struct" none none false []
    [record (some "before") fields, record (some "after") fields])
  payload := { before, after, op, source := none, timestamp := none }

/-- The key of an order: its first two columns. -/
def key (payload : Members) : KeyEnvelope where
  schema := some (record none (fields.take 2))
  payload

/-- A translator of orders without a past. -/
def translator : Translator where
  table := "public.orders"
  policy := .strict
  parsers := .standard Iso.reader

theorem create_eq :
    Translator.create (.text "public.orders") .strict (.standard Iso.reader) = .ok translator := rfl

/-- Dry runs of which every execution fails. -/
def failing : Faulty DryRun where
  inner := {}
  failures _ := some (.ofKind .runtime)

/-- Calls that fail in all ways; the columns are known from the fourth on, and events with other
columns follow. -/
def calls : List Call :=
  [.process .empty (.raw .null) (.raw (.text "no event")),
    .template .delete,
    .translate .empty (.raw .null) (.parsed (event [("two words", none)] "c" none (some []))),
    .process .empty (.parsed (key [])) (.parsed (event fields "c" none (some [("id", .int 1)]))),
    .bootstrap none (event [("other", none)] "c" none none),
    .process .empty (.raw .null) (.parsed (event [("other", none)] "d" (some []) none))]

end Orders
end Changefeed
