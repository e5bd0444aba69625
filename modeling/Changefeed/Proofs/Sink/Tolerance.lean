import Mathlib.Tactic.ByContra
import Mathlib.Tactic.SplitIfs
import Changefeed.Executor.DryRun
import Changefeed.Parser.Iso
import Changefeed.Proofs.Identifier
import Changefeed.Sink.Run

/-!
# Runs that go on

`Sink.attend` is what a tolerant run does with a record, whatever becomes of it.  A run attends to
all of its records as long as the source table of each can be looked up
(`Sink.runFrom_of_readable`).  A record where it cannot ends every run, tolerant or not: the same
lookup fails in the handling and once more when the failure is logged.
-/

namespace Changefeed

/-! ### Records that can be read -/

/-- What is found where members are looked for: those of a mapping, and none in a value that counts
as not given. -/
def Value.Opens (v : Value) (ms : Members) : Prop :=
  v = .object ms ∨ v.isEmpty ∧ ms = []

theorem membersIfGiven_eq_ok_iff {v : Value} {ms : Members} :
    v.membersIfGiven = .ok ms ↔ v.Opens ms := by
  unfold Value.Opens
  cases v with
  | object ms' => cases ms' <;> simp [Value.membersIfGiven, Value.isEmpty, eq_comm]
  | _ =>
    simp only [Value.membersIfGiven, reduceCtorEq, false_or]
    split_ifs with h <;> simp [h, eq_comm]

namespace Record

/-- Whether the source table of a record can be looked up. -/
def isReadable (r : Record) : Bool :=
  r.sourceTable.isOk

theorem isReadable_iff_exists {r : Record} : r.isReadable ↔ ∃ v, r.sourceTable = .ok v := by
  unfold isReadable
  cases r.sourceTable <;> simp [Except.isOk, Except.toBool]

/-- A record is readable when its value, the payload in it and the source in that are mappings or
count as not given. -/
theorem isReadable_iff {r : Record} : r.isReadable ↔
    ∃ value payload source, r.value.Opens value ∧ (Members.get value "payload").Opens payload ∧
      (Members.get payload "source").Opens source := by
  simp only [isReadable_iff_exists, sourceTable, bind_eq_ok_iff, membersIfGiven_eq_ok_iff]
  constructor
  · rintro ⟨v, value, hv, payload, hp, source, hs, -⟩
    exact ⟨value, payload, source, hv, hp, hs⟩
  · rintro ⟨value, payload, source, hv, hp, hs⟩
    exact ⟨_, value, hv, payload, hp, source, hs, rfl⟩

theorem isReadable_of_isTombstone {r : Record} (h : r.isTombstone) : r.isReadable := by
  obtain ⟨value, key, topic⟩ := r
  cases value <;> first
    | rfl
    | cases h

end Record

/-! ### One record -/

namespace Sink

variable {σ : Type} (ex : Executor σ)

/-- The sink and the counts behind a record, whatever becomes of it: a failure is logged and
counted. -/
def attend (state : Sink σ × Summary) (r : Record) : Sink σ × Summary :=
  match state.1.handle ex r with
  | (.ok statement, s) => (s, state.2.addHandled statement.isSome)
  | (.error e, s) =>
    (s.note (failureEntry s.settings r (r.sourceTable.toOption.getD .null) e), state.2.addFailed)

/-- The sink and the counts behind records in order. -/
def attendAll (s : Sink σ) (counts : Summary) (records : List Record) : Sink σ × Summary :=
  records.foldl (attend ex) (s, counts)

variable {s : Sink σ} {counts : Summary} {r : Record}

theorem handle_settings (s : Sink σ) (r : Record) : (s.handle ex r).2.settings = s.settings := by
  unfold handle
  split_ifs
  · rfl
  · cases targetTable s.settings r with
    | error e => rfl
    | ok table => dsimp only; cases s.translatorFor table <;> rfl

/-- A record whose source table cannot be looked up changes nothing, and its failure is that of the
lookup. -/
theorem handle_of_unreadable {f : Fault} (h : r.sourceTable = .error f) :
    s.handle ex r = (.error (.fault f), s) := by
  have kept : ¬ r.isTombstone := by
    intro tombstone
    obtain ⟨v, hv⟩ := Record.isReadable_iff_exists.1 (Record.isReadable_of_isTombstone tombstone)
    exact nomatch h.symm.trans hv
  have unrouted : targetTable s.settings r = .error (.fault f) := by
    rw [targetTable, unqualifiedTable, h]
    rfl
  rw [handle, if_neg kept, unrouted]

theorem attend_settings (state : Sink σ × Summary) (r : Record) :
    (attend ex state r).1.settings = state.1.settings := by
  have same := handle_settings ex state.1 r
  unfold attend
  generalize state.1.handle ex r = handled at same ⊢
  obtain ⟨e | statement, s⟩ := handled
  · exact same
  · exact same

theorem attend_received (state : Sink σ × Summary) (r : Record) :
    (attend ex state r).2.received = state.2.received + 1 := by
  unfold attend
  rcases state.1.handle ex r with ⟨e | statement, s⟩
  · rfl
  · cases statement <;> rfl

/-- A record that is handled is counted, whatever the settings are. -/
theorem runOne_of_ok {statement : Option BoundStatement}
    (h : (s.handle ex r).1 = .ok statement) :
    s.runOne ex counts r = (.ok (attend ex (s, counts) r).2, (attend ex (s, counts) r).1) := by
  unfold runOne attend
  generalize s.handle ex r = handled at h ⊢
  obtain ⟨e | statement, s'⟩ := handled
  · cases h
  · rfl

theorem runOne_of_unreadable {f : Fault} (h : r.sourceTable = .error f) :
    s.runOne ex counts r = (.error (.fault f), s) := by
  simp only [runOne, handle_of_unreadable ex h, settle, h]

/-- A failure that can be logged ends a run if settings say so. -/
theorem runOne_of_error (counts : Summary) {e : Failure} (h : (s.handle ex r).1 = .error e)
    (readable : r.isReadable) : s.runOne ex counts r =
      (if s.settings.failures.failFast then .error (ending e) else .ok (attend ex (s, counts) r).2,
        (attend ex (s, counts) r).1) := by
  obtain ⟨source, hs⟩ := Record.isReadable_iff_exists.1 readable
  have same := handle_settings ex s r
  unfold runOne attend
  generalize s.handle ex r = handled at h same ⊢
  obtain ⟨e' | statement, s'⟩ := handled
  · obtain rfl := Except.error.inj h
    have same : s'.settings = s.settings := same
    simp only [settle, hs, note, ← same, Except.toOption, Option.getD_some]
    by_cases ends : s'.settings.failures.failFast
    · simp only [ends, if_true]
    · simp only [ends, Bool.false_eq_true, if_false]
  · cases h

theorem runOne_of_readable (counts : Summary)
    (tolerant : s.settings.failures.failFast = false) (readable : r.isReadable) :
    s.runOne ex counts r = (.ok (attend ex (s, counts) r).2, (attend ex (s, counts) r).1) := by
  cases h : (s.handle ex r).1 with
  | error e =>
    rw [runOne_of_error ex counts h readable]
    simp only [tolerant, Bool.false_eq_true, if_false]
  | ok statement => exact runOne_of_ok ex h

/-! ### Many records -/

theorem attendAll_cons (s : Sink σ) (counts : Summary) (r : Record) (rest : List Record) :
    s.attendAll ex counts (r :: rest) =
      (attend ex (s, counts) r).1.attendAll ex (attend ex (s, counts) r).2 rest := rfl

theorem attendAll_received (s : Sink σ) (counts : Summary) (records : List Record) :
    (s.attendAll ex counts records).2.received = counts.received + records.length := by
  induction records generalizing s counts with
  | nil => rfl
  | cons r rest ih =>
    rw [attendAll_cons, ih, attend_received, List.length_cons]
    dsimp only
    omega

/-- Behind records that leave a run going it is at the ones that follow. -/
theorem runFrom_cons {s' : Sink σ} {counts' : Summary}
    (h : s.runOne ex counts r = (.ok counts', s')) (rest : List Record) :
    s.runFrom ex counts (r :: rest) = s'.runFrom ex counts' rest := by
  rw [runFrom, h]

/-- A tolerant run attends to records that are readable and goes on behind them. -/
theorem runFrom_of_readable (counts : Summary)
    (tolerant : s.settings.failures.failFast = false) (records : List Record)
    (readable : ∀ r ∈ records, r.isReadable) (rest : List Record) :
    s.runFrom ex counts (records ++ rest) =
      (s.attendAll ex counts records).1.runFrom ex (s.attendAll ex counts records).2 rest := by
  induction records generalizing s counts with
  | nil => rfl
  | cons r records ih =>
    have first := runOne_of_readable ex counts tolerant
      (readable r List.mem_cons_self)
    rw [List.cons_append, runFrom_cons ex first]
    refine ih _ ?_ fun r' hr' => readable r' (List.mem_cons_of_mem r hr')
    rw [attend_settings, tolerant]

end Sink

/-! ### How runs end -/

/-- Records that are not all readable have a first that is not. -/
theorem exists_first_unreadable {records : List Record} (h : ¬ ∀ r ∈ records, r.isReadable) :
    ∃ pre r post f, records = pre ++ r :: post ∧ (∀ r' ∈ pre, r'.isReadable) ∧
      r.sourceTable = .error f := by
  cases hf : records.find? fun r => !r.isReadable with
  | none => exact absurd (by simpa using hf) h
  | some r =>
    obtain ⟨unreadable, pre, post, rfl, readable⟩ := List.find?_eq_some_iff_append.1 hf
    simp only [Bool.not_eq_true', Bool.not_not] at unreadable readable
    cases hs : r.sourceTable with
    | ok v => simp [Record.isReadable, hs, Except.isOk, Except.toBool] at unreadable
    | error f => exact ⟨pre, r, post, f, rfl, readable, hs⟩

namespace Sink

variable {σ : Type} (ex : Executor σ)

theorem run_of_unreadable {s : Sink σ} (tolerant : s.settings.failures.failFast = false)
    {pre : List Record} {r : Record} (post : List Record) {f : Fault}
    (readable : ∀ r' ∈ pre, r'.isReadable) (h : r.sourceTable = .error f) :
    s.run ex (pre ++ r :: post) = (.error (.fault f), (s.attendAll ex {} pre).1) := by
  rw [run, runFrom_of_readable ex {} tolerant pre readable, runFrom, runOne_of_unreadable ex h]

theorem run_of_readable {s : Sink σ} (tolerant : s.settings.failures.failFast = false)
    {records : List Record} (readable : ∀ r ∈ records, r.isReadable) :
    s.run ex records =
      (.ok (s.attendAll ex {} records).2, (s.attendAll ex {} records).1) := by
  have whole := runFrom_of_readable ex {} tolerant records readable []
  rwa [List.append_nil] at whole

/-- A failure that ends a run is an error of this library. -/
theorem ending_isOwn (cause : Failure) : (ending cause).isOwn := by
  unfold ending
  split_ifs with own
  · exact own
  · rfl

theorem attend_failed_of_ok {s : Sink σ} {counts : Summary} {r : Record}
    {statement : Option BoundStatement} (h : (s.handle ex r).1 = .ok statement) :
    (attend ex (s, counts) r).2.failed = counts.failed := by
  unfold attend
  dsimp only
  generalize s.handle ex r = handled at h ⊢
  obtain ⟨e | statement, s'⟩ := handled
  · cases h
  · cases statement <;> rfl

/-- A run that the first failure ends reaches it behind records that all succeed. -/
theorem runFrom_failFast {s : Sink σ} {counts : Summary} {records : List Record} {e : Failure}
    (failFast : s.settings.failures.failFast) (h : (s.runFrom ex counts records).1 = .error e) :
    ∃ pre r post cause, records = pre ++ r :: post ∧
      (s.attendAll ex counts pre).2.failed = counts.failed ∧
      ((s.attendAll ex counts pre).1.handle ex r).1 = .error cause ∧
      (∀ v, r.sourceTable = .ok v → e = ending cause) ∧
      ∀ f, r.sourceTable = .error f → e = .fault f := by
  induction records generalizing s counts with
  | nil => cases h
  | cons r rest ih =>
    cases hr : (s.handle ex r).1 with
    | ok statement =>
      rw [runFrom_cons ex (runOne_of_ok ex hr)] at h
      have failFast' : (attend ex (s, counts) r).1.settings.failures.failFast := by
        rwa [attend_settings]
      obtain ⟨pre, r', post, cause, rfl, none, failed, readable, unreadable⟩ := ih failFast' h
      refine ⟨r :: pre, r', post, cause, rfl, ?_, failed, readable, unreadable⟩
      rw [attendAll_cons, none, attend_failed_of_ok ex hr]
    | error cause =>
      refine ⟨[], r, rest, cause, rfl, rfl, hr, fun v hv => ?_, fun f hf => ?_⟩
      · have ended := runOne_of_error ex counts hr
          (Record.isReadable_iff_exists.2 ⟨v, hv⟩)
        rw [runFrom, ended, if_pos failFast] at h
        exact (Except.error.inj h).symm
      · rw [runFrom, runOne_of_unreadable ex hf] at h
        exact (Except.error.inj h).symm

end Sink

/-- A tolerant run gives a summary exactly when all of its records are readable; it has then
attended to each, and else it ends with the failure to read the first that is not.  Where the first
failure ends a run, that is an error of this library exactly when its record is readable. -/
theorem run_outcome {σ : Type} (ex : Executor σ) (s : Sink σ) (records : List Record) :
    (s.settings.failures.failFast = false →
      ((∃ counts, (s.run ex records).1 = .ok counts) ↔ ∀ r ∈ records, r.isReadable) ∧
      ((∀ r ∈ records, r.isReadable) →
        s.run ex records =
          (.ok (s.attendAll ex {} records).2, (s.attendAll ex {} records).1) ∧
        (s.attendAll ex {} records).2.received = records.length) ∧
      ∀ pre r post f, records = pre ++ r :: post → (∀ r' ∈ pre, r'.isReadable) →
        r.sourceTable = .error f →
        s.run ex records = (.error (.fault f), (s.attendAll ex {} pre).1)) ∧
    (s.settings.failures.failFast →
      ∀ e, (s.run ex records).1 = .error e →
        ∃ pre r post cause, records = pre ++ r :: post ∧
          (s.attendAll ex {} pre).2.failed = 0 ∧
          ((s.attendAll ex {} pre).1.handle ex r).1 = .error cause ∧
          (r.isReadable → e = Sink.ending cause ∧ e.isOwn) ∧
          ∀ f, r.sourceTable = .error f → e = .fault f ∧ ¬ e.isOwn) := by
  refine ⟨fun tolerant => ⟨⟨?_, ?_⟩, ?_, ?_⟩, ?_⟩
  · rintro ⟨counts, h⟩
    by_contra unreadable
    obtain ⟨pre, r, post, f, rfl, readable, hf⟩ := exists_first_unreadable unreadable
    rw [Sink.run_of_unreadable ex tolerant post readable hf] at h
    cases h
  · intro readable
    exact ⟨_, congrArg Prod.fst (Sink.run_of_readable ex tolerant readable)⟩
  · intro readable
    refine ⟨Sink.run_of_readable ex tolerant readable, ?_⟩
    rw [Sink.attendAll_received]
    exact Nat.zero_add _
  · rintro pre r post f rfl readable hf
    exact Sink.run_of_unreadable ex tolerant post readable hf
  · intro failFast e h
    obtain ⟨pre, r, post, cause, rfl, none, failed, readable, unreadable⟩ :=
      Sink.runFrom_failFast ex failFast h
    refine ⟨pre, r, post, cause, rfl, none, failed, fun hr => ?_, fun f hf => ?_⟩
    · obtain ⟨v, hv⟩ := Record.isReadable_iff_exists.1 hr
      obtain rfl := readable v hv
      exact ⟨rfl, Sink.ending_isOwn cause⟩
    · obtain rfl := unreadable f hf
      exact ⟨rfl, by simp [Failure.isOwn]⟩

/-- A sink of dry runs without any translator yet. -/
def Sink.fresh (failFast : Bool) : Sink DryRun :=
  .create Iso.reader { failures := { failFast } } {} none

/-- A record without a table is passed over, but one whose payload is a number is not. -/
theorem run_outcome_of_foreign_payload :
    let unrouted : Record := { value := .object [("payload", .object [])] }
    let foreign : Record := { value := .object [("payload", .int 7)] }
    let last : Record := { value := .null }
    ((Sink.fresh false).run DryRun.executor [unrouted, last]).1 =
      .ok { received := 2, skipped := 1, failed := 1 } ∧
    (Sink.fresh false).run DryRun.executor [unrouted, foreign, last] =
      (.error (.ofKind .noSuchAttribute),
        ((Sink.fresh false).attendAll DryRun.executor {} [unrouted]).1) := by
  intro unrouted foreign last
  constructor
  · have whole := ((run_outcome DryRun.executor (Sink.fresh false) [unrouted, last]).1 rfl).2.1
      (by decide)
    rw [whole.1]
    rfl
  · exact ((run_outcome DryRun.executor (Sink.fresh false) [unrouted, foreign, last]).1 rfl).2.2
      [unrouted] foreign [last] _ rfl (by decide) rfl

/-- One record with a number for its payload ends a run that should pass over all failures, and the
failure of a run that ends at the first is no error of this library. -/
theorem run_not_tolerant :
    let foreign : Record := { value := .object [("payload", .int 7)] }
    (¬ ∃ counts, ((Sink.fresh false).run DryRun.executor [foreign]).1 = .ok counts) ∧
    ∃ e, ((Sink.fresh true).run DryRun.executor [foreign]).1 = .error e ∧ ¬ e.isOwn := by
  intro foreign
  constructor
  · rintro ⟨counts, h⟩
    cases h
  · exact ⟨_, rfl, by decide⟩

end Changefeed
