import Changefeed.Proofs.Sink.Execution
import Changefeed.Proofs.Sink.Tables

/-!
# Tables do not touch each other

What a run asks for a table, and what it leaves of it in the sink, are the same as if only the
records of that table had come, provided that what comes of a statement depends on the statement
alone (`Executor.Steady`).  A record of another table changes nothing of the table
(`Sink.SameOf.step_other`), and a record of the table does the same to sinks that are the same of it
(`Sink.SameOf.step_own`).
-/

namespace Changefeed

/-! ### Executors without a memory -/

namespace Executor

variable {σ : Type} (ex : Executor σ)

/-- From a state on, what comes of a statement depends on the statement alone. -/
def Steady (outcome : Recorded → Except Failure Unit) (x : σ) : Prop :=
  ∀ handed b, (ex.execute b.sql b.parameters (ex.behind x handed)).1 = outcome b

variable {ex} {outcome : Recorded → Except Failure Unit} {x : σ}

theorem Steady.execute (steady : ex.Steady outcome x) (sql : String) (parameters : List Value) :
    ex.Steady outcome (ex.execute sql parameters x).2 :=
  fun handed => steady (⟨sql, parameters⟩ :: handed)

theorem Steady.fate (steady : ex.Steady outcome x) (f : Fate) :
    ex.Steady outcome (f.executor ex x) := by
  unfold Fate.executor
  cases f.statement? with
  | none => exact steady
  | some b => exact steady.execute b.sql b.parameters

end Executor

/-- A dry run accepts every statement. -/
theorem DryRun.steady (d : DryRun) : executor.Steady (fun _ => .ok ()) d :=
  fun _ _ => rfl

namespace Sink

variable {σ : Type} {ex : Executor σ} {outcome : Recorded → Except Failure Unit}

/-! ### One table of a sink -/

/-- Two sinks that are the same of a table: its translator, its counters, and what new translators
are made with. -/
structure SameOf (table : String) (a b : Sink σ) : Prop where
  settings_eq : a.settings = b.settings
  parsers_eq : a.parsers = b.parsers
  shared_eq : a.sharedParsers = b.sharedParsers
  translator_eq : Assoc.get? a.translators table = Assoc.get? b.translators table
  counters_eq : a.metrics.ofTable table = b.metrics.ofTable table

theorem SameOf.refl (table : String) (s : Sink σ) : SameOf table s s :=
  ⟨rfl, rfl, rfl, rfl, rfl⟩

variable {table : String} {a b : Sink σ} {r : Record}

/-- A record that goes elsewhere is not handed to the translator of a table. -/
theorem Filed.recipient_ne {t : Translator} (filed : a.Filed) (h : a.recipient r = some t)
    (other : r.goesTo a.settings table = false) : t.table ≠ table := by
  rintro rfl
  have own := Record.goesTo_iff.2 (filed.recipient h).1
  rw [other] at own
  cases own

/-- A record that goes elsewhere changes nothing of a table. -/
theorem SameOf.step_other (h : SameOf table a b) (filed : a.Filed)
    (other : r.goesTo a.settings table = false) : SameOf table (a.step ex r) b where
  settings_eq := (step_settings ex a r).trans h.settings_eq
  parsers_eq := (step_parsers ex a r).1.trans h.parsers_eq
  shared_eq := (step_parsers ex a r).2.trans h.shared_eq
  translator_eq := by
    rw [get?_step, ← h.translator_eq]
    cases hr : a.recipient r with
    | none => rfl
    | some t => exact if_neg (filed.recipient_ne hr other)
  counters_eq := by
    rw [ofTable_step, ← h.counters_eq]
    cases hr : a.recipient r with
    | none => rfl
    | some t => exact if_neg (filed.recipient_ne hr other)

theorem SameOf.translatorOf (h : SameOf table a b) (own : r.goesTo a.settings table) :
    a.translatorOf r = b.translatorOf r := by
  have target := Record.goesTo_iff.1 own
  unfold Sink.translatorOf
  rw [← h.settings_eq, target]
  simp only [translatorFor, h.translator_eq, h.settings_eq, h.parsers_eq]

theorem SameOf.recipient (h : SameOf table a b) (own : r.goesTo a.settings table) :
    a.recipient r = b.recipient r := by
  unfold Sink.recipient
  rw [h.translatorOf own]

/-- What becomes of a record of a table follows from what is the same. -/
theorem SameOf.fate (h : SameOf table a b) (own : r.goesTo a.settings table)
    (steady : ex.Steady outcome a.executor) (steady' : ex.Steady outcome b.executor) :
    a.fate ex r = b.fate ex r := by
  have alike (s : BoundStatement) : (ex.execute s.sql s.parameters a.executor).1 =
      (ex.execute s.sql s.parameters b.executor).1 :=
    (steady [] ⟨s.sql, s.parameters⟩).trans (steady' [] ⟨s.sql, s.parameters⟩).symm
  unfold Sink.fate
  rw [h.translatorOf own]
  split_ifs
  · rfl
  · cases b.translatorOf r with
    | error e => rfl
    | ok t => simp only [Workplace.fate, place, h.shared_eq, alike]

/-- A record of a table does the same to sinks that are the same of it. -/
theorem SameOf.step_own (h : SameOf table a b) (own : r.goesTo a.settings table)
    (steady : ex.Steady outcome a.executor) (steady' : ex.Steady outcome b.executor) :
    SameOf table (a.step ex r) (b.step ex r) where
  settings_eq := by rw [step_settings, step_settings, h.settings_eq]
  parsers_eq := by rw [(step_parsers ex a r).1, (step_parsers ex b r).1, h.parsers_eq]
  shared_eq := by rw [(step_parsers ex a r).2, (step_parsers ex b r).2, h.shared_eq]
  translator_eq := by
    have advanced (t : Translator) : a.advanced ex r t = b.advanced ex r t := by
      unfold Sink.advanced
      rw [h.shared_eq, h.fate own steady steady']
    rw [get?_step, get?_step, h.recipient own, h.translator_eq]
    simp only [advanced]
  counters_eq := by
    rw [ofTable_step, ofTable_step, h.recipient own, h.counters_eq, h.fate own steady steady']

/-! ### Runs -/

variable (ex)

/-- The statements that are handed to the executor for records, with the tables they are for. -/
def statements (s : Sink σ) (records : List Record) : List BoundStatement :=
  (s.fates ex records).filterMap (·.statement?)

theorem statements_cons (s : Sink σ) (r : Record) (rest : List Record) :
    s.statements ex (r :: rest) =
      (s.fate ex r).statement?.toList ++ (s.step ex r).statements ex rest := by
  unfold statements
  rw [fates]
  cases h : (s.fate ex r).statement? with
  | none => rw [List.filterMap_cons_none h, Option.toList_none, List.nil_append]
  | some b => rw [List.filterMap_cons_some h, Option.toList_some, List.singleton_append]

theorem executions_handed {s : Sink σ} (tolerant : s.settings.failures.failFast = false)
    {records : List Record} (readable : ∀ r ∈ records, r.isReadable) :
    (s.executions ex records).map (·.handed) =
      (s.statements ex records).map fun b => ⟨b.sql, b.parameters⟩ := by
  rw [executions_eq ex tolerant readable, statements, List.map_filterMap, List.map_filterMap]
  congr 1
  funext f
  cases f <;> rfl

variable {ex}

/-- A statement is for the table that its record goes to. -/
theorem Filed.statement_target {t : BoundStatement} (filed : a.Filed)
    (h : t ∈ (a.fate ex r).statement?) : targetTable a.settings r = .ok (.text t.table) := by
  cases hr : a.recipient r with
  | none =>
    rw [fate_of_none ex hr] at h
    cases h
  | some taker =>
    rw [statement_table ex hr h]
    exact (filed.recipient hr).1

theorem Filed.filter_statement (filed : a.Filed) (r : Record) (table : String) :
    (a.fate ex r).statement?.toList.filter (·.table = table) =
      if r.goesTo a.settings table then (a.fate ex r).statement?.toList else [] := by
  cases h : (a.fate ex r).statement? with
  | none => split_ifs <;> rfl
  | some t =>
    have target := filed.statement_target (Option.mem_def.2 h)
    by_cases same : t.table = table <;> simp [Record.goesTo_iff, target, same]

/-- Records are for a table what those of them are that go to it. -/
theorem SameOf.steps (h : SameOf table a b) (filed : a.Filed) (filed' : b.Filed)
    (steady : ex.Steady outcome a.executor) (steady' : ex.Steady outcome b.executor)
    (records : List Record) :
    let own := records.filter (·.goesTo a.settings table)
    SameOf table (a.steps ex records) (b.steps ex own) ∧
      (a.statements ex records).filter (·.table = table) = b.statements ex own := by
  induction records generalizing a b with
  | nil => exact ⟨h, rfl⟩
  | cons r rest ih =>
    have settings := step_settings ex a r
    have steadier : ex.Steady outcome (a.step ex r).executor := by
      rw [step_executor]
      exact steady.fate _
    rw [statements_cons, List.filter_append, filed.filter_statement]
    cases own : r.goesTo a.settings table with
    | false =>
      -- the record is a step of the first sink only, and none that shows in the table
      obtain ⟨same, statements⟩ :=
        ih (h.step_other filed own) (filed.step ex r) filed' steadier steady'
      rw [settings] at same statements
      rw [List.filter_cons_of_neg (by simp [own])]
      exact ⟨same, statements⟩
    | true =>
      have steadier' : ex.Steady outcome (b.step ex r).executor := by
        rw [step_executor]
        exact steady'.fate _
      obtain ⟨same, statements⟩ :=
        ih (h.step_own own steady steady') (filed.step ex r) (filed'.step ex r) steadier steadier'
      rw [settings] at same statements
      rw [List.filter_cons_of_pos own, h.fate own steady steady', statements]
      exact ⟨same, (statements_cons ..).symm⟩

end Sink

/-- Tables do not touch each other: the statements for a table, its translator and its samples are
the same behind a run as behind the run over only the records that go to that table. -/
theorem run_isolated {σ : Type} (ex : Executor σ) (x : σ) {outcome : Recorded → Except Failure Unit}
    (steady : ex.Steady outcome x) (iso : IsoReader) (settings : Settings)
    (parsers : Option ParserTable) (tolerant : settings.failures.failFast = false)
    (records : List Record) (readable : ∀ r ∈ records, r.isReadable) (table : String) :
    let s := Sink.create iso settings x parsers
    let own := records.filter (·.goesTo settings table)
    let recorded (b : BoundStatement) : Recorded := ⟨b.sql, b.parameters⟩
    ∃ counts whole counts' part,
      s.run ex records = (.ok counts, whole) ∧ s.run ex own = (.ok counts', part) ∧
      (s.executions ex records).map (·.handed) = (s.statements ex records).map recorded ∧
      (s.executions ex own).map (·.handed) = (s.statements ex own).map recorded ∧
      (s.statements ex records).filter (·.table = table) = s.statements ex own ∧
      Assoc.get? whole.translators table = Assoc.get? part.translators table ∧
      whole.metrics.samples.filter (·.isOf table) = part.metrics.samples.filter (·.isOf table) := by
  intro s own recorded
  have readable' : ∀ r ∈ own, r.isReadable := fun r hr => readable r (List.mem_filter.1 hr).1
  have filed : s.Filed := Sink.filed_create iso settings x parsers
  have steady' : ex.Steady outcome s.executor := steady
  obtain ⟨same, statements⟩ :=
    (Sink.SameOf.refl table s).steps filed filed steady' steady' records
  refine ⟨_, _, _, _, Sink.run_eq ex tolerant readable, Sink.run_eq ex tolerant readable',
    Sink.executions_handed ex tolerant readable, Sink.executions_handed ex tolerant readable',
    statements, same.translator_eq, ?_⟩
  rw [Metrics.samples_ofTable, Metrics.samples_ofTable]
  exact congrArg Metrics.samples same.counters_eq

/-- Of four records the second has no table, the third fails with the name of its own, and the last
goes to the table of the first. -/
theorem run_isolated_orders :
    let records := [Orders.arrival "db.orders" "c" [("id", .int 1)],
      Orders.arrival "" "c" [("id", .int 2)], Orders.arrival "db.no-name" "c" [("id", .int 3)],
      Orders.arrival "db.orders" "u" [("id", .int 1)]]
    let s : Sink DryRun := .create Iso.reader {} {} none
    let own := records.filter (·.goesTo {} "orders")
    DryRun.executor.Steady (fun _ => .ok ()) {} ∧
    ({} : Settings).failures.failFast = false ∧ (∀ r ∈ records, r.isReadable) ∧
    own.length = 2 ∧ (s.run DryRun.executor records).1.toOption = some ⟨4, 2, 0, 2⟩ ∧
    (s.run DryRun.executor own).1.toOption = some ⟨2, 2, 0, 0⟩ ∧
    (s.statements DryRun.executor records).filter (·.table = "orders") =
      s.statements DryRun.executor own := by
  intro records s own
  have steady : DryRun.executor.Steady (fun _ => .ok ()) {} := DryRun.steady {}
  have readable : ∀ r ∈ records, r.isReadable := by decide +kernel
  obtain ⟨-, -, -, -, -, -, -, -, statements, -⟩ :=
    run_isolated DryRun.executor {} steady Iso.reader {} none rfl records readable "orders"
  exact ⟨steady, rfl, readable, by decide +kernel, by decide +kernel, by decide +kernel,
    statements⟩

end Changefeed
