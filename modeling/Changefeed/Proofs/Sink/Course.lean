import Changefeed.Proofs.Sink.Tolerance
import Changefeed.Proofs.Translator.Fate

/-!
# The course of a run

What becomes of a record is its `Sink.fate`; a sink behind a record is `Sink.step`.  A tolerant run
over readable records goes through these steps, and its summary is counted from the fates
(`Sink.run_eq`).
-/

namespace Changefeed

/-- Counts a record by its fate. -/
def Summary.add (counts : Summary) (f : Fate) : Summary :=
  match f with
  | .skipped => counts.addHandled false
  | .applied _ => counts.addHandled true
  | .rejected _ | .refused _ _ => counts.addFailed

namespace Sink

variable {σ : Type} (ex : Executor σ)

/-! ### One record -/

/-- The translator for the table of a record. -/
def translatorOf (s : Sink σ) (r : Record) : Except Failure Translator :=
  match targetTable s.settings r with
  | .error e => .error e
  | .ok table => s.translatorFor table

/-- The translator that a record is handed to, if it gets as far as that. -/
def recipient (s : Sink σ) (r : Record) : Option Translator :=
  if r.isTombstone then none else (s.translatorOf r).toOption

/-- A translator of a sink at work. -/
def place (s : Sink σ) (t : Translator) : Workplace σ :=
  ⟨t, s.metrics, s.executor⟩

/-- What becomes of a record. -/
def fate (s : Sink σ) (r : Record) : Fate :=
  if r.isTombstone then .skipped
  else
    match s.translatorOf r with
    | .error e => .rejected e
    | .ok t => (s.place t).fate ex s.sharedParsers (.raw r.key) (.raw r.value)

/-- The translator `t` behind a record that was handed to it. -/
def advanced (s : Sink σ) (r : Record) (t : Translator) : Translator :=
  (t.translate s.sharedParsers (.raw r.key) (.raw r.value)).2.withStats
    ((s.fate ex r).figures t.stats)

/-- The sink behind the handling of a record that is handed to the translator `t`. -/
def advance (s : Sink σ) (r : Record) (t : Translator) : Sink σ :=
  { s.withTranslator (s.advanced ex r t) with
    metrics := ((s.fate ex r).counters t.table (.raw r.value)).foldl Metrics.add s.metrics
    executor := (s.fate ex r).executor ex s.executor }

/-- The entry in the log for a record with its fate, if it fails. -/
def entry (settings : Settings) : Record × Fate → Option LogEntry
  | (r, f) => f.cause?.map (failureEntry settings r (r.sourceTable.toOption.getD .null))

/-- The sink behind a record, whatever becomes of it. -/
def step (s : Sink σ) (r : Record) : Sink σ :=
  (attend ex (s, {}) r).1

variable {s : Sink σ} {r : Record} {t : Translator}

theorem advanced_table (s : Sink σ) (r : Record) (t : Translator) :
    (s.advanced ex r t).table = t.table :=
  (t.translate_learns ..).table_eq

theorem advance_translators (s : Sink σ) (r : Record) (t : Translator) :
    (s.advance ex r t).translators =
      Assoc.insert t.table (s.advanced ex r t) s.translators := by
  rw [← advanced_table ex s r t]
  rfl

theorem fate_of_some (h : s.recipient r = some t) :
    s.fate ex r = (s.place t).fate ex s.sharedParsers (.raw r.key) (.raw r.value) := by
  unfold recipient at h
  unfold fate
  split_ifs at h ⊢
  rw [toOption_eq_some.1 h]

/-- A record that no translator gets has no statement. -/
theorem fate_of_none (h : s.recipient r = none) : (s.fate ex r).statement? = none := by
  unfold recipient at h
  unfold fate
  split_ifs at h ⊢
  · rfl
  · cases ht : s.translatorOf r with
    | error e => rfl
    | ok t => simp [ht, Except.toOption] at h

theorem handle_of_none (h : s.recipient r = none) :
    s.handle ex r = ((s.fate ex r).outcome, s) := by
  unfold recipient at h
  unfold fate handle translatorOf
  split_ifs at h ⊢
  · rfl
  · unfold translatorOf at h
    cases htable : targetTable s.settings r with
    | error e => rfl
    | ok table =>
      rw [htable] at h
      dsimp only at h ⊢
      cases ht : s.translatorFor table with
      | error e => rfl
      | ok t => simp [ht, Except.toOption] at h

theorem handle_of_some (h : s.recipient r = some t) :
    s.handle ex r = ((s.fate ex r).outcome, s.advance ex r t) := by
  have found := fate_of_some ex h
  unfold recipient translatorOf at h
  unfold handle
  split_ifs at h ⊢
  cases htable : targetTable s.settings r with
  | error e => simp [htable, Except.toOption] at h
  | ok table =>
    rw [htable, toOption_eq_some] at h
    dsimp only at h ⊢
    rw [h]
    have same := Workplace.process_eq ex s.sharedParsers (s.place t) (.raw r.key) (.raw r.value)
    rw [← found] at same
    unfold place at same
    simp only [process, same]
    rfl

theorem handle_outcome (s : Sink σ) (r : Record) :
    (s.handle ex r).1 = (s.fate ex r).outcome := by
  cases h : s.recipient r with
  | none => rw [handle_of_none ex h]
  | some t => rw [handle_of_some ex h]

theorem attend_eq (s : Sink σ) (counts : Summary) (r : Record) :
    attend ex (s, counts) r = (s.step ex r, counts.add (s.fate ex r)) := by
  have outcome := handle_outcome ex s r
  unfold step attend
  dsimp only
  generalize s.handle ex r = handled at outcome ⊢
  obtain ⟨result, s'⟩ := handled
  obtain rfl : result = (s.fate ex r).outcome := outcome
  cases s.fate ex r <;> rfl

theorem step_of_none (h : s.recipient r = none) :
    s.step ex r = { s with log := s.log ++ (entry s.settings (r, s.fate ex r)).toList } := by
  unfold step attend entry
  rw [handle_of_none ex h]
  cases s.fate ex r <;> simp [Fate.outcome, Fate.cause?, note]

theorem step_of_some (h : s.recipient r = some t) :
    s.step ex r =
      { s.advance ex r t with log := s.log ++ (entry s.settings (r, s.fate ex r)).toList } := by
  unfold step attend entry
  rw [handle_of_some ex h]
  cases s.fate ex r <;> simp [Fate.outcome, Fate.cause?, note, advance, withTranslator]

theorem step_settings (s : Sink σ) (r : Record) : (s.step ex r).settings = s.settings :=
  attend_settings ex (s, {}) r

theorem step_parsers (s : Sink σ) (r : Record) :
    (s.step ex r).parsers = s.parsers ∧ (s.step ex r).sharedParsers = s.sharedParsers := by
  cases h : s.recipient r with
  | none =>
    rw [step_of_none ex h]
    exact ⟨rfl, rfl⟩
  | some t =>
    rw [step_of_some ex h]
    exact ⟨rfl, rfl⟩

theorem step_executor (s : Sink σ) (r : Record) :
    (s.step ex r).executor = (s.fate ex r).executor ex s.executor := by
  cases h : s.recipient r with
  | none => rw [step_of_none ex h, Fate.executor, fate_of_none ex h]
  | some t =>
    rw [step_of_some ex h]
    rfl

/-! ### Many records -/

/-- The sink behind records in order, whatever becomes of them. -/
def steps (s : Sink σ) (records : List Record) : Sink σ :=
  records.foldl (step ex) s

/-- What becomes of records, one after the other. -/
def fates (s : Sink σ) : List Record → List Fate
  | [] => []
  | r :: rest => s.fate ex r :: (s.step ex r).fates rest

/-- The entries in the log for records with their fates. -/
def entries (s : Sink σ) (records : List Record) : List LogEntry :=
  (records.zip (s.fates ex records)).filterMap (entry s.settings)

theorem steps_cons (s : Sink σ) (r : Record) (rest : List Record) :
    s.steps ex (r :: rest) = (s.step ex r).steps ex rest := rfl

theorem steps_append (s : Sink σ) (records later : List Record) :
    s.steps ex (records ++ later) = (s.steps ex records).steps ex later :=
  List.foldl_append

theorem fates_append (s : Sink σ) (records later : List Record) :
    s.fates ex (records ++ later) = s.fates ex records ++ (s.steps ex records).fates ex later := by
  induction records generalizing s with
  | nil => rfl
  | cons r rest ih => simp only [List.cons_append, fates, ih, steps_cons]

theorem length_fates (s : Sink σ) (records : List Record) :
    (s.fates ex records).length = records.length := by
  induction records generalizing s with
  | nil => rfl
  | cons r rest ih => rw [fates, List.length_cons, ih, List.length_cons]

theorem steps_settings (s : Sink σ) (records : List Record) :
    (s.steps ex records).settings = s.settings := by
  induction records generalizing s with
  | nil => rfl
  | cons r rest ih => rw [steps_cons, ih, step_settings]

theorem entries_cons (s : Sink σ) (r : Record) (rest : List Record) :
    s.entries ex (r :: rest) =
      (entry s.settings (r, s.fate ex r)).toList ++ (s.step ex r).entries ex rest := by
  rw [entries, entries, fates, List.zip_cons_cons, step_settings]
  cases h : entry s.settings (r, s.fate ex r) with
  | none => rw [List.filterMap_cons_none h, Option.toList_none, List.nil_append]
  | some e => rw [List.filterMap_cons_some h, Option.toList_some, List.singleton_append]

theorem steps_log (s : Sink σ) (records : List Record) :
    (s.steps ex records).log = s.log ++ s.entries ex records := by
  induction records generalizing s with
  | nil => simp [steps, entries]
  | cons r rest ih =>
    have first : (s.step ex r).log = s.log ++ (entry s.settings (r, s.fate ex r)).toList := by
      cases h : s.recipient r with
      | none => rw [step_of_none ex h]
      | some t => rw [step_of_some ex h]
    rw [steps_cons, ih, first, entries_cons, List.append_assoc]

theorem attendAll_eq (s : Sink σ) (counts : Summary) (records : List Record) :
    s.attendAll ex counts records =
      (s.steps ex records, (s.fates ex records).foldl Summary.add counts) := by
  induction records generalizing s counts with
  | nil => rfl
  | cons r rest ih => rw [attendAll_cons, attend_eq, ih]; rfl

/-- A tolerant run over readable records steps through all of them. -/
theorem run_eq (tolerant : s.settings.failures.failFast = false) {records : List Record}
    (readable : ∀ r ∈ records, r.isReadable) : s.run ex records =
      (.ok ((s.fates ex records).foldl Summary.add {}), s.steps ex records) := by
  rw [run_of_readable ex tolerant readable, attendAll_eq]

/-- A record of a run is stepped over, unless it cannot be read: then it ends the run. -/
theorem runOne_step (s : Sink σ) (counts : Summary) (r : Record) :
    (s.runOne ex counts r).2 = s.step ex r ∨ ∃ e, s.runOne ex counts r = (.error e, s) := by
  have attended : (attend ex (s, counts) r).1 = s.step ex r := by rw [attend_eq]
  cases hs : r.sourceTable with
  | error f => exact .inr ⟨_, runOne_of_unreadable ex hs⟩
  | ok v =>
    have readable : r.isReadable := Record.isReadable_iff_exists.2 ⟨v, hs⟩
    cases h : (s.handle ex r).1 with
    | error e => exact .inl (by rw [runOne_of_error ex counts h readable, attended])
    | ok statement => exact .inl (by rw [runOne_of_ok ex h, attended])

/-- A run steps over its records up to where it ends. -/
theorem exists_steps_runFrom (s : Sink σ) (counts : Summary) (records : List Record) :
    ∃ earlier later, records = earlier ++ later ∧
      (s.runFrom ex counts records).2 = s.steps ex earlier := by
  induction records generalizing s counts with
  | nil => exact ⟨[], [], rfl, rfl⟩
  | cons r rest ih =>
    rw [runFrom]
    rcases s.runOne_step ex counts r with stepped | ⟨e, ended⟩
    · rcases hr : s.runOne ex counts r with ⟨e | counts', s'⟩
      · rw [hr] at stepped
        exact ⟨[r], rest, rfl, stepped⟩
      · rw [hr] at stepped
        obtain rfl : s' = s.step ex r := stepped
        obtain ⟨earlier, later, rfl, same⟩ := ih (s.step ex r) counts'
        exact ⟨r :: earlier, later, rfl, same⟩
    · rw [ended]
      exact ⟨[], r :: rest, rfl, rfl⟩

end Sink

/-! ### Counting fates -/

theorem Summary.foldl_add (counts : Summary) (fs : List Fate) :
    fs.foldl add counts =
      { received := counts.received + fs.length
        applied := counts.applied + fs.countP (·.isApplied)
        skipped := counts.skipped + fs.countP (·.isSkipped)
        failed := counts.failed + fs.countP (·.isFailed) } := by
  induction fs generalizing counts with
  | nil => rfl
  | cons f fs ih =>
    rw [List.foldl_cons, ih]
    cases f <;>
      simp [add, addHandled, addFailed, Fate.isApplied, Fate.isSkipped, Fate.isFailed] <;> omega

theorem Summary.foldl_add_empty (fs : List Fate) :
    fs.foldl add {} =
      { received := fs.length
        applied := fs.countP (·.isApplied)
        skipped := fs.countP (·.isSkipped)
        failed := fs.countP (·.isFailed) } := by
  simp only [foldl_add, Nat.zero_add]

/-! ### Records of orders -/

/-- A record with an event whose row is the same before and after. -/
def Orders.arrival (topic op : String) (row : Members) : Record where
  value := (event [("id", none)] op (some row) (some row)).toValue
  topic := .text topic

end Changefeed
