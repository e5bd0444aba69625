import Changefeed.Proofs.Sink.Execution
import Changefeed.Proofs.Sink.Tables
import Changefeed.Proofs.Translator.Ledger

/-!
# The ledgers of a sink

What becomes of a record is counted in four places: by the run, by the translator that took it, by
the shared counters, and by what the executor was asked for.  A run accounts for each record once
(`Sink.run_accounts`), and behind any runs the figures of the translators and the counters agree
(`Sink.Balanced`), since each record keeps that balance (`Sink.Balanced.step`).
-/

namespace Changefeed

namespace Sink

variable {σ : Type} (ex : Executor σ)

/-! ### One record -/

/-- The figures of the translator for a table, all zero as long as there is none. -/
def figuresOf (s : Sink σ) (table : String) : Stats :=
  ((Assoc.get? s.translators table).map (·.stats)).getD {}

/-- The counters of each table agree with the figures of its translator and with the statements
that the executor failed with; a table without a translator has no counters. -/
structure Balanced (s : Sink σ) (refusals : String → StatementKind → Nat) : Prop where
  agrees : ∀ table, s.metrics.Agrees table (s.figuresOf table) (refusals table)
  known : ∀ c, Assoc.get? s.translators c.table = none → s.metrics.count c = 0

theorem balanced_create (iso : IsoReader) (settings : Settings) (x : σ)
    (parsers : Option ParserTable) :
    (create iso settings x parsers).Balanced fun _ _ => 0 where
  agrees _ :=
    { applied := fun kind => by cases kind <;> rfl
      skipped := rfl
      failed := rfl
      changes := fun kind => by cases kind <;> rfl
      snapshots := rfl
      others := rfl }
  known _ _ := rfl

variable {s : Sink σ} {r : Record} {t : Translator} {refusals : String → StatementKind → Nat}

theorem fate_fits (h : s.recipient r = some t) :
    (s.fate ex r).Fits t.table (.raw r.value) := by
  rw [fate_of_some ex h]
  exact (s.place t).fate_fits ex s.sharedParsers (.raw r.key) (.raw r.value)

theorem Filed.figuresOf_recipient (filed : s.Filed) (h : s.recipient r = some t) :
    s.figuresOf t.table = t.stats := by
  unfold figuresOf
  rcases (filed.recipient h).2 with present | ⟨absent, new⟩
  · rw [present]
    rfl
  · rw [absent, new]
    rfl

/-- The executor refuses a statement for a table only with a record that goes to it. -/
theorem isRefusalOf_eq_false {table : String} (elsewhere : ∀ t ∈ s.recipient r, t.table ≠ table)
    (kind : StatementKind) : (s.fate ex r).isRefusalOf table kind = false := by
  rw [Bool.eq_false_iff]
  intro refusal
  obtain ⟨b, hb, own⟩ := Fate.statement_of_isRefusalOf refusal
  cases h : s.recipient r with
  | none =>
    rw [fate_of_none ex h] at hb
    cases hb
  | some t => exact elsewhere t h ((statement_table ex h hb).symm.trans own)

theorem Balanced.agrees_step (balanced : s.Balanced refusals) (filed : s.Filed) (r : Record)
    (table : String) :
    (s.step ex r).metrics.Agrees table ((s.step ex r).figuresOf table) fun kind =>
      refusals table kind + if (s.fate ex r).isRefusalOf table kind then 1 else 0 := by
  by_cases own : ∃ t ∈ s.recipient r, t.table = table
  · obtain ⟨t, h, rfl⟩ := own
    have figures : (s.step ex r).figuresOf t.table = (s.fate ex r).figures t.stats := by
      rw [figuresOf, get?_step, h]
      simp only [if_pos]
      rfl
    rw [step_metrics ex h, figures, ← filed.figuresOf_recipient h]
    exact (balanced.agrees t.table).event (fate_fits ex h)
  · -- neither the translator of the table nor one of its counters is touched
    have elsewhere : ∀ t ∈ s.recipient r, t.table ≠ table := fun t h same => own ⟨t, h, same⟩
    simp only [isRefusalOf_eq_false ex elsewhere, Bool.false_eq_true, if_false, Nat.add_zero]
    rw [figuresOf, get?_step]
    cases h : s.recipient r with
    | none =>
      rw [step_of_none ex h]
      exact balanced.agrees table
    | some t =>
      have other := elsewhere t h
      rw [step_metrics ex h]
      simp only [if_neg other]
      exact (balanced.agrees table).event_other fun c hc => by
        rwa [Fate.table_of_mem_counters hc]

/-- A record keeps the balance, whatever becomes of it. -/
theorem Balanced.step (balanced : s.Balanced refusals) (filed : s.Filed) (r : Record) :
    (s.step ex r).Balanced fun table kind =>
      refusals table kind + if (s.fate ex r).isRefusalOf table kind then 1 else 0 where
  agrees table := balanced.agrees_step ex filed r table
  known c absent := by
    rw [get?_step] at absent
    cases h : s.recipient r with
    | none =>
      rw [h] at absent
      rw [step_of_none ex h]
      exact balanced.known c absent
    | some t =>
      rw [h] at absent
      dsimp only at absent
      split_ifs at absent with own
      -- a raised counter would be one of the recipient's table, which has a translator now
      have other : c ∉ (s.fate ex r).counters t.table (.raw r.value) := fun hc =>
        own (Fate.table_of_mem_counters hc).symm
      rw [step_metrics ex h, Metrics.count_foldl_add, List.count_eq_zero_of_not_mem other,
        balanced.known c absent]

/-! ### Runs -/

/-- Records keep the balance. -/
theorem Balanced.steps (balanced : s.Balanced refusals) (filed : s.Filed) (records : List Record) :
    (s.steps ex records).Balanced fun table kind =>
      refusals table kind + (s.fates ex records).countP (·.isRefusalOf table kind) := by
  induction records generalizing s refusals with
  | nil => exact balanced
  | cons r rest ih =>
    have later := ih (balanced.step ex filed r) (filed.step ex r)
    simp only [fates, List.countP_cons, Nat.add_assoc, Nat.add_comm (List.countP _ _)] at later ⊢
    exact later

/-- The counters only grow. -/
theorem count_le_steps (s : Sink σ) (records : List Record) (c : Counter) :
    s.metrics.count c ≤ (s.steps ex records).metrics.count c := by
  induction records generalizing s with
  | nil => exact Nat.le_refl _
  | cons r rest ih =>
    refine Nat.le_trans ?_ (ih (s.step ex r))
    cases h : s.recipient r with
    | none => exact Nat.le_of_eq (by rw [step_of_none ex h])
    | some t =>
      rw [step_metrics ex h, Metrics.count_foldl_add]
      exact Nat.le_add_right _ _

/-- The sink behind runs, one after the other. -/
def runAll (s : Sink σ) (runs : List (List Record)) : Sink σ :=
  runs.foldl (fun s records => (s.run ex records).2) s

/-- What becomes of the records of runs, one after the other. -/
def history (s : Sink σ) : List (List Record) → List Fate
  | [] => []
  | records :: later => s.fates ex records ++ (s.run ex records).2.history later

/-- Tolerant runs step through all of their records. -/
theorem runAll_eq (tolerant : s.settings.failures.failFast = false) {runs : List (List Record)}
    (readable : ∀ records ∈ runs, ∀ r ∈ records, r.isReadable) :
    s.runAll ex runs = s.steps ex runs.flatten ∧ s.history ex runs = s.fates ex runs.flatten := by
  induction runs generalizing s with
  | nil => exact ⟨rfl, rfl⟩
  | cons records runs ih =>
    obtain ⟨first, later⟩ := List.forall_mem_cons.1 readable
    have tolerant' : (s.steps ex records).settings.failures.failFast = false := by
      rwa [steps_settings]
    obtain ⟨reached, history_eq⟩ := ih tolerant' later
    rw [List.flatten_cons, steps_append, fates_append, ← reached, ← history_eq, history,
      run_eq ex tolerant first]
    refine ⟨?_, rfl⟩
    show ((s.run ex records).2).runAll ex runs = _
    rw [run_eq ex tolerant first]

theorem length_entries (s : Sink σ) (records : List Record) :
    (s.entries ex records).length = (s.fates ex records).countP (·.isFailed) := by
  induction records generalizing s with
  | nil => rfl
  | cons r rest ih =>
    have one : (entry s.settings (r, s.fate ex r)).toList.length =
        if (s.fate ex r).isFailed then 1 else 0 := by
      unfold entry
      cases s.fate ex r <;> rfl
    rw [entries_cons, List.length_append, one, ih, fates, List.countP_cons, Nat.add_comm]

/-- A run accounts for each of its records once. -/
structure Accounts (s : Sink σ) (records : List Record) (counts : Summary) (after : Sink σ) :
    Prop where
  received_eq : counts.received = records.length
  divided : counts.received = counts.applied + counts.skipped + counts.failed
  length_fates : (s.fates ex records).length = records.length
  /-- The log has one more entry for each record that failed. -/
  log_eq : after.log = s.log ++ s.entries ex records
  length_entries : (s.entries ex records).length = counts.failed
  /-- The executor was asked in the order of the records, and at most once for each. -/
  executions_eq : s.executions ex records = (s.fates ex records).filterMap (·.execution?)
  length_executions : (s.executions ex records).length =
    counts.applied + (s.executions ex records).countP (·.failure.isSome)
  count_le : ∀ c, s.metrics.count c ≤ after.metrics.count c

/-- A tolerant run accounts for its records. -/
theorem run_accounts (tolerant : s.settings.failures.failFast = false) {records : List Record}
    (readable : ∀ r ∈ records, r.isReadable) :
    ∃ counts after,
      s.run ex records = (.ok counts, after) ∧ s.Accounts ex records counts after := by
  refine ⟨_, _, run_eq ex tolerant readable, ?_⟩
  have asked := executions_eq ex tolerant readable
  rw [Summary.foldl_add_empty]
  exact
    { received_eq := s.length_fates ex records
      divided := Fate.length_eq_countP (s.fates ex records)
      length_fates := s.length_fates ex records
      log_eq := s.steps_log ex records
      length_entries := s.length_entries ex records
      executions_eq := asked
      length_executions := by rw [asked, Fate.length_executions, Fate.countP_isRefused]
      count_le := s.count_le_steps ex records }

end Sink

/-- Every record of any runs is accounted for exactly once, and the ledgers agree in every state
that they reach. -/
theorem runs_balanced {σ : Type} (ex : Executor σ) (x : σ) (iso : IsoReader)
    (settings : Settings) (parsers : Option ParserTable)
    (tolerant : settings.failures.failFast = false) (runs : List (List Record))
    (readable : ∀ records ∈ runs, ∀ r ∈ records, r.isReadable) :
    let s := Sink.create iso settings x parsers
    let reached := s.runAll ex runs
    let refusals (table : String) (kind : StatementKind) :=
      (s.history ex runs).countP (·.isRefusalOf table kind)
    (∀ earlier records later, runs = earlier ++ records :: later →
      let before := s.runAll ex earlier
      ∃ counts after, before.run ex records = (.ok counts, after) ∧
        before.Accounts ex records counts after) ∧
    (∀ table t, Assoc.get? reached.translators table = some t →
      reached.metrics.Agrees table t.stats (refusals table)) ∧
    ∀ c, Assoc.get? reached.translators c.table = none → reached.metrics.count c = 0 := by
  intro s reached refusals
  have balanced : reached.Balanced refusals := by
    have stepped := (Sink.balanced_create iso settings x parsers).steps ex
      (Sink.filed_create iso settings x parsers) runs.flatten
    obtain ⟨reached_eq, history_eq⟩ := Sink.runAll_eq ex (s := s) tolerant readable
    simp only [Nat.zero_add] at stepped
    rwa [← reached_eq, ← history_eq] at stepped
  refine ⟨?_, fun table t present => ?_, balanced.known⟩
  · rintro earlier records later rfl
    have tolerant' : (s.runAll ex earlier).settings.failures.failFast = false := by
      have earlier_readable : ∀ rs ∈ earlier, ∀ r ∈ rs, r.isReadable := fun rs hrs =>
        readable rs (List.mem_append_left _ hrs)
      rw [(Sink.runAll_eq ex (s := s) tolerant earlier_readable).1, Sink.steps_settings]
      exact tolerant
    exact Sink.run_accounts ex tolerant' (readable records (by simp))
  · have agrees := balanced.agrees table
    rwa [Sink.figuresOf, present] at agrees

/-- Two runs with a snapshot, a record without a table and an update that the executor refuses. -/
theorem runs_balanced_orders :
    let failures := fun n => if n = 2 then some (.ofKind .runtime) else none
    let runs := [[Orders.arrival "db.orders" "c" [("id", .int 1)],
        Orders.arrival "db.orders" "r" [("id", .int 2)], Orders.arrival "" "c" [("id", .int 3)]],
      [Orders.arrival "db.orders" "u" [("id", .int 1)]]]
    let s : Sink (Faulty DryRun) := .create Iso.reader {} { inner := {}, failures } none
    let ex := DryRun.executor.faulty
    ({} : Settings).failures.failFast = false ∧ (∀ records ∈ runs, ∀ r ∈ records, r.isReadable) ∧
    (s.run ex runs.head!).1.toOption = some ⟨3, 1, 1, 1⟩ ∧
    (s.history ex runs).countP (·.isRefusalOf "orders" .update) = 1 ∧
    ∃ t, Assoc.get? (s.runAll ex runs).translators "orders" = some t ∧
      t.stats = { insert := 1, skipped := 1, failed := 1 } ∧
      (s.runAll ex runs).metrics.Agrees "orders" t.stats fun kind =>
        (s.history ex runs).countP (·.isRefusalOf "orders" kind) := by
  intro failures runs s ex
  have readable : ∀ records ∈ runs, ∀ r ∈ records, r.isReadable := by decide +kernel
  have figures : (Assoc.get? (s.runAll ex runs).translators "orders").map (·.stats) =
      some { insert := 1, skipped := 1, failed := 1 } := by decide +kernel
  obtain ⟨t, present, stats⟩ := Option.map_eq_some_iff.1 figures
  obtain ⟨-, agrees, -⟩ :=
    runs_balanced ex { inner := {}, failures } Iso.reader {} none rfl runs readable
  exact ⟨rfl, readable, by decide +kernel, by decide +kernel, t, present, stats,
    agrees "orders" t present⟩

end Changefeed
