import Changefeed.Executor.Faulty
import Changefeed.Proofs.Sink.Alike

/-!
# Failures of an executor

The failures of an executor stay with the records whose statements fail.  A dry run that is told to
fail at some of its executions is compared with one that is not: what is asked of both is the same,
and the pattern of failures decides which of it is kept.
-/

namespace Changefeed

/-! ### Dry runs that fail at some of their executions -/

theorem DryRun.executions_eq (d : DryRun) (handed : List Recorded) :
    executor.executions d handed = handed.map (⟨·, none⟩) ∧
      (executor.behind d handed).statements = d.statements ++ handed := by
  induction handed generalizing d with
  | nil => exact ⟨rfl, (List.append_nil _).symm⟩
  | cons b handed ih =>
    obtain ⟨asked, kept⟩ := ih (executor.execute b.sql b.parameters d).2
    exact ⟨congrArg _ asked, kept.trans (List.append_assoc ..)⟩

namespace Faulty

/-- The executions of statements whose failures a pattern gives, from a call on. -/
def scheduled (failures : Nat → Option Failure) (first : Nat) (handed : List Recorded) :
    List Execution :=
  (handed.zipIdx first).map fun x => ⟨x.1, failures x.2⟩

/-- The statements whose executions a pattern lets through, from a call on. -/
def kept (failures : Nat → Option Failure) (first : Nat) (handed : List Recorded) :
    List Recorded :=
  ((handed.zipIdx first).filter fun x => (failures x.2).isNone).map (·.1)

theorem countP_scheduled (failures : Nat → Option Failure) (first : Nat) (handed : List Recorded) :
    (scheduled failures first handed).countP (·.failure.isSome) =
      (List.range' first handed.length).countP fun n => (failures n).isSome := by
  induction handed generalizing first with
  | nil => rfl
  | cons r rest ih =>
    have later := ih (first + 1)
    unfold scheduled at later ⊢
    rw [List.zipIdx_cons, List.map_cons, List.countP_cons, later, List.length_cons,
      List.range'_succ, List.countP_cons]

/-- A dry run fails where the pattern says so, and keeps the other statements. -/
theorem executions_dryRun (x : Faulty DryRun) (handed : List Recorded) :
    DryRun.executor.faulty.executions x handed =
        scheduled x.failures (x.executions + 1) handed ∧
      (DryRun.executor.faulty.behind x handed).inner.statements =
        x.inner.statements ++ kept x.failures (x.executions + 1) handed := by
  induction handed generalizing x with
  | nil => exact ⟨rfl, (List.append_nil _).symm⟩
  | cons b handed ih =>
    obtain ⟨asked, left⟩ := ih (DryRun.executor.faulty.execute b.sql b.parameters x).2
    rw [Executor.executions, Executor.behind_cons]
    dsimp only
    rw [asked, left]
    cases h : x.failures (x.executions + 1) <;>
      simp [Executor.faulty, through, DryRun.executor, scheduled, kept, h, List.zipIdx_cons]

end Faulty

namespace Sink

/-- A sink whose executor is told to fail at some of its executions. -/
def withFailures {σ : Type} (s : Sink σ) (failures : Nat → Option Failure) : Sink (Faulty σ) :=
  s.on { inner := s.executor, failures }

theorem alike_withFailures {σ : Type} (s : Sink σ) (failures : Nat → Option Failure) :
    Alike (s.withFailures failures) s :=
  ⟨rfl, rfl, rfl, rfl⟩

end Sink

/-- The failures of an executor stay with the records whose executions fail: the run asks for the
same executions as one in which none fails, keeps the statements of those that do not fail, counts
as failed instead of applied just those that do, and leaves the same memories. -/
theorem run_faults_isolated (s : Sink DryRun) (failures : Nat → Option Failure)
    (tolerant : s.settings.failures.failFast = false) (records : List Record)
    (readable : ∀ r ∈ records, r.isReadable) :
    let faulty := s.withFailures failures
    let handed := (s.executions DryRun.executor records).map (·.handed)
    let hits := (List.range' 1 handed.length).countP fun n => (failures n).isSome
    ∃ counts after counts' after',
      faulty.run DryRun.executor.faulty records = (.ok counts, after) ∧
      s.run DryRun.executor records = (.ok counts', after') ∧
      (faulty.executions DryRun.executor.faulty records).map (·.handed) = handed ∧
      after'.executor.statements = s.executor.statements ++ handed ∧
      after.executor.inner.statements = s.executor.statements ++
        ((handed.zipIdx 1).filter fun x => (failures x.2).isNone).map (·.1) ∧
      counts.applied + hits = counts'.applied ∧ counts.failed = counts'.failed + hits ∧
      counts.skipped = counts'.skipped ∧ after.memories = after'.memories := by
  intro faulty handed hits
  have tolerant' : faulty.settings.failures.failFast = false := tolerant
  have alike : Sink.Alike faulty s := s.alike_withFailures failures
  have same := alike.fates_demand DryRun.executor.faulty DryRun.executor records
  have handed_eq := Fate.handed_of_demand same
  obtain ⟨left, asked⟩ := faulty.fates_executions DryRun.executor.faulty records
  obtain ⟨left', asked'⟩ := s.fates_executions DryRun.executor records
  have clean : ((s.fates DryRun.executor records).filterMap (·.execution?)).map (·.handed) =
      handed := by rw [← Sink.executions_eq DryRun.executor tolerant readable]
  obtain ⟨scheduled, kept⟩ := faulty.executor.executions_dryRun handed
  obtain ⟨never, all⟩ := s.executor.executions_eq handed
  rw [handed_eq, clean] at left asked
  rw [clean] at left' asked'
  have refused : (faulty.fates DryRun.executor.faulty records).countP (·.isRefused) = hits := by
    rw [Fate.countP_isRefused, asked, scheduled]
    exact Faulty.countP_scheduled ..
  have refused' : (s.fates DryRun.executor records).countP (·.isRefused) = 0 := by
    rw [Fate.countP_isRefused, asked', never, List.countP_map]
    exact List.countP_eq_zero.2 fun _ _ => Bool.false_ne_true
  -- as many statements are handed over either way, so those refused are lacking among the applied
  have length := congrArg List.length handed_eq
  rw [List.length_map, List.length_map, Fate.length_executions, Fate.length_executions] at length
  have rejected := Fate.countP_isRejected_of_demand same
  refine ⟨_, _, _, _, Sink.run_eq _ tolerant' readable, Sink.run_eq _ tolerant readable,
    ?_, ?_, ?_, ?_, ?_, ?_, (alike.steps _ _ records).memories_eq⟩
  · rw [Sink.executions_eq _ tolerant' readable, handed_eq, clean]
  · rw [left', all]
  · rw [left, kept]
    rfl
  · simp only [Summary.foldl_add_empty]
    omega
  · simp only [Summary.foldl_add_empty, Fate.countP_isFailed]
    omega
  · simp only [Summary.foldl_add_empty, Fate.countP_isSkipped_of_demand same]

/-- The second of three inserts is refused. -/
theorem run_faults_isolated_orders :
    let s : Sink DryRun := .create Iso.reader {} {} none
    let failures := fun n => if n = 2 then some (.ofKind .runtime) else none
    let records := [Orders.arrival "db.orders" "c" [("id", .int 1)],
      Orders.arrival "db.items" "c" [("id", .int 2)],
      Orders.arrival "db.orders" "c" [("id", .int 3)]]
    s.settings.failures.failFast = false ∧ (∀ r ∈ records, r.isReadable) ∧
    ((s.withFailures failures).run DryRun.executor.faulty records).1.toOption =
      some ⟨3, 2, 0, 1⟩ ∧
    ((s.withFailures failures).executions DryRun.executor.faulty records).map (·.handed) =
      (s.executions DryRun.executor records).map (·.handed) ∧
    (s.run DryRun.executor records).1.toOption = some ⟨3, 3, 0, 0⟩ := by
  intro s failures records
  have readable : ∀ r ∈ records, r.isReadable := by decide +kernel
  obtain ⟨counts, after, counts', after', ran, ran', same, -⟩ :=
    run_faults_isolated s failures rfl records readable
  exact ⟨rfl, readable, by decide +kernel, same, by decide +kernel⟩

end Changefeed
