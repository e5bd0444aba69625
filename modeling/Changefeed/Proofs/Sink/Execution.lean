import Changefeed.Proofs.Sink.Simulation

/-!
# What a run asks of its executor

`Executor.recording` is an executor that also keeps what it is asked to execute.  A run with it is
the same run (`Sink.run_recording`), and `Sink.executions` are what it has kept at the end: one
execution for each record that has a statement (`Sink.executions_eq`).
-/

namespace Changefeed

/-- A statement that was handed to an executor, with its failure if it failed. -/
structure Execution where
  handed : Recorded
  failure : Option Failure

/-- An executor that also keeps what it is asked to execute, and what came of it. -/
def Executor.recording {σ : Type} (ex : Executor σ) : Executor (σ × List Execution) where
  connect := fun (x, kept) => ((ex.connect x).1, (ex.connect x).2, kept)
  disconnect := fun (x, kept) => ((ex.disconnect x).1, (ex.disconnect x).2, kept)
  testConnection := fun (x, kept) => ((ex.testConnection x).1, (ex.testConnection x).2, kept)
  execute sql parameters := fun (x, kept) =>
    let (result, x) := ex.execute sql parameters x
    let failure := match result with
      | .ok () => none
      | .error e => some e
    (result, x, kept ++ [⟨⟨sql, parameters⟩, failure⟩])
  isConnected := fun (x, _) => ex.isConnected x

/-! ### One statement after another -/

namespace Executor

variable {σ : Type} (ex : Executor σ)

/-- The state of an executor behind statements. -/
def behind (x : σ) (handed : List Recorded) : σ :=
  handed.foldl (fun x b => (ex.execute b.sql b.parameters x).2) x

/-- The executions of statements in order, from a state on. -/
def executions : (x : σ) → List Recorded → List Execution
  | _, [] => []
  | x, b :: rest =>
    let (result, x) := ex.execute b.sql b.parameters x
    let failure := match result with
      | .ok () => none
      | .error e => some e
    ⟨b, failure⟩ :: executions x rest

theorem behind_cons (x : σ) (b : Recorded) (handed : List Recorded) :
    ex.behind x (b :: handed) = ex.behind (ex.execute b.sql b.parameters x).2 handed := rfl

theorem behind_append (x : σ) (handed later : List Recorded) :
    ex.behind x (handed ++ later) = ex.behind (ex.behind x handed) later :=
  List.foldl_append

theorem executions_append (x : σ) (handed later : List Recorded) :
    ex.executions x (handed ++ later) =
      ex.executions x handed ++ ex.executions (ex.behind x handed) later := by
  induction handed generalizing x with
  | nil => rfl
  | cons b handed ih => simp only [List.cons_append, executions, ih]; rfl

end Executor

/-! ### The statements of a run -/

/-- What the executor was asked for a record with a fate. -/
def Fate.execution? : Fate → Option Execution
  | .skipped | .rejected _ => none
  | .applied b => some ⟨⟨b.sql, b.parameters⟩, none⟩
  | .refused b e => some ⟨⟨b.sql, b.parameters⟩, some e⟩

theorem Fate.execution?_of_none {f : Fate} (h : f.statement? = none) : f.execution? = none := by
  cases f <;> first
    | rfl
    | cases h

theorem Fate.execution?_cons (f : Fate) (fs : List Fate) :
    (f :: fs).filterMap (·.execution?) =
      f.execution?.toList ++ fs.filterMap (·.execution?) := by
  cases f <;> rfl

namespace Fate

theorem length_executions (fs : List Fate) :
    (fs.filterMap (·.execution?)).length = fs.countP (·.isApplied) + fs.countP (·.isRefused) := by
  induction fs with
  | nil => rfl
  | cons f fs ih =>
    have one : f.execution?.toList.length =
        (if f.isApplied then 1 else 0) + if f.isRefused then 1 else 0 := by
      cases f <;> rfl
    simp only [execution?_cons, List.length_append, List.countP_cons, ih]
    omega

theorem countP_isRefused (fs : List Fate) : fs.countP (·.isRefused) =
    (fs.filterMap (·.execution?)).countP (·.failure.isSome) := by
  induction fs with
  | nil => rfl
  | cons f fs ih =>
    have one : (if f.isRefused then 1 else 0) =
        f.execution?.toList.countP (·.failure.isSome) := by
      cases f <;> rfl
    simp only [execution?_cons, List.countP_append, List.countP_cons, ih]
    omega

end Fate

namespace Workplace

variable {σ : Type} (ex : Executor σ) (shared : ParserTable) (t : Translator) (m : Metrics) (x : σ)
  (kept : List Execution) (key : EventKey) (value : EventValue)

theorem fate_recording :
    (⟨t, m, x, kept⟩ : Workplace (σ × List Execution)).fate ex.recording shared key value =
      (⟨t, m, x⟩ : Workplace σ).fate ex shared key value := rfl

theorem fate_executions (w : Workplace σ) :
    let handed := (w.fate ex shared key value).execution?.toList.map (·.handed)
    (w.fate ex shared key value).executor ex w.executor = ex.behind w.executor handed ∧
      (w.fate ex shared key value).execution?.toList = ex.executions w.executor handed := by
  unfold fate
  rcases (w.translator.translate shared key value).1 with e | _ | b
  · exact ⟨rfl, rfl⟩
  · exact ⟨rfl, rfl⟩
  · cases h : (ex.execute b.sql b.parameters w.executor).1 <;>
      simp [Fate.executor, Fate.statement?, Fate.execution?, Executor.behind,
        Executor.executions, h]

theorem executor_recording :
    ((⟨t, m, x⟩ : Workplace σ).fate ex shared key value).executor ex.recording (x, kept) =
      (((⟨t, m, x⟩ : Workplace σ).fate ex shared key value).executor ex x,
        kept ++ ((⟨t, m, x⟩ : Workplace σ).fate ex shared key value).execution?.toList) := by
  unfold fate
  rcases (t.translate shared key value).1 with e | _ | b
  · simp [Fate.executor, Fate.statement?, Fate.execution?]
  · simp [Fate.executor, Fate.statement?, Fate.execution?]
  · cases h : (ex.execute b.sql b.parameters x).1 <;>
      simp [Fate.executor, Fate.statement?, Fate.execution?, Executor.recording, h]

end Workplace

namespace Sink

variable {σ : Type} (ex : Executor σ)

/-- A sink whose executor has kept some executions. -/
def recording (s : Sink σ) (kept : List Execution) : Sink (σ × List Execution) :=
  { s with executor := (s.executor, kept) }

/-- What a run asks its executor to execute, in order. -/
def executions (s : Sink σ) (records : List Record) : List Execution :=
  ((s.recording []).run ex.recording records).2.executor.2

theorem fate_recording (s : Sink σ) (kept : List Execution) (r : Record) :
    (s.recording kept).fate ex.recording r = s.fate ex r := by
  have same : (s.recording kept).translatorOf r = s.translatorOf r := rfl
  unfold fate
  rw [same]
  split_ifs
  · rfl
  · cases s.translatorOf r with
    | error e => rfl
    | ok t => exact Workplace.fate_recording ..

theorem advance_recording {s : Sink σ} {r : Record} {t : Translator} (h : s.recipient r = some t)
    (kept : List Execution) : (s.recording kept).advance ex.recording r t =
      (s.advance ex r t).recording (kept ++ (s.fate ex r).execution?.toList) := by
  have executor := Workplace.executor_recording ex s.sharedParsers t s.metrics s.executor kept
    (.raw r.key) (.raw r.value)
  rw [show (⟨t, s.metrics, s.executor⟩ : Workplace σ) = s.place t from rfl,
    ← fate_of_some ex h] at executor
  unfold advance advanced
  rw [fate_recording]
  simp only [recording, executor]
  rfl

/-- Keeping what is executed changes nothing else in the handling of a record. -/
theorem handle_recording (s : Sink σ) (kept : List Execution) (r : Record) :
    (s.recording kept).handle ex.recording r =
      ((s.handle ex r).1,
        (s.handle ex r).2.recording (kept ++ (s.fate ex r).execution?.toList)) := by
  cases h : s.recipient r with
  | none =>
    have none := Fate.execution?_of_none (fate_of_none ex h)
    have h' : (s.recording kept).recipient r = .none := h
    rw [handle_of_none ex h, handle_of_none ex.recording h', fate_recording, none,
      Option.toList_none, List.append_nil]
  | some t =>
    have h' : (s.recording kept).recipient r = .some t := h
    rw [handle_of_some ex h, handle_of_some ex.recording h', fate_recording,
      advance_recording ex h]

/-- A run with an executor that keeps what it executes is the same run. -/
theorem run_recording (s : Sink σ) (records : List Record) :
    (s.recording []).run ex.recording records =
      ((s.run ex records).1, (s.run ex records).2.recording (s.executions ex records)) := by
  have simulates : ex.recording.Simulates ex fun x y => y.1 = x := by
    rintro x y sql parameters rfl -
    exact ⟨rfl, rfl⟩
  obtain ⟨y, same, executor⟩ := run_on simulates (s := s) (y := (s.executor, [])) rfl records
  have kept : s.executions ex records = y.2 := congrArg (·.2.executor.2) same
  have same : (s.recording []).run ex.recording records =
      ((s.run ex records).1, (s.run ex records).2.on y) := same
  rw [same, kept, recording, ← executor]
  rfl

theorem step_recording (s : Sink σ) (kept : List Execution) (r : Record) :
    (s.recording kept).step ex.recording r =
      (s.step ex r).recording (kept ++ (s.fate ex r).execution?.toList) := by
  unfold step attend
  rw [handle_recording]
  rcases s.handle ex r with ⟨e | statement, s'⟩ <;> rfl

theorem steps_recording (s : Sink σ) (kept : List Execution) (records : List Record) :
    (s.recording kept).steps ex.recording records =
      (s.steps ex records).recording (kept ++ (s.fates ex records).filterMap (·.execution?)) := by
  induction records generalizing s kept with
  | nil => simp [steps, fates]
  | cons r rest ih =>
    rw [steps_cons, steps_cons, step_recording, ih, fates, Fate.execution?_cons,
      List.append_assoc]

/-- A tolerant run asks for one execution for each record that has a statement, in order. -/
theorem executions_eq {s : Sink σ} (tolerant : s.settings.failures.failFast = false)
    {records : List Record} (readable : ∀ r ∈ records, r.isReadable) :
    s.executions ex records = (s.fates ex records).filterMap (·.execution?) := by
  have tolerant' : (s.recording []).settings.failures.failFast = false := tolerant
  rw [executions, run_eq ex.recording tolerant' readable, steps_recording]
  rfl

theorem fate_executions (s : Sink σ) (r : Record) :
    let handed := (s.fate ex r).execution?.toList.map (·.handed)
    (s.step ex r).executor = ex.behind s.executor handed ∧
      (s.fate ex r).execution?.toList = ex.executions s.executor handed := by
  rw [step_executor]
  cases h : s.recipient r with
  | none =>
    have idle := fate_of_none ex h
    rw [Fate.executor, idle, Fate.execution?_of_none idle]
    exact ⟨rfl, rfl⟩
  | some t =>
    rw [fate_of_some ex h]
    exact (s.place t).fate_executions ex s.sharedParsers (.raw r.key) (.raw r.value)

/-- What becomes of the statements of records is what the executor makes of them in order. -/
theorem fates_executions (s : Sink σ) (records : List Record) :
    let es := (s.fates ex records).filterMap (·.execution?)
    (s.steps ex records).executor = ex.behind s.executor (es.map (·.handed)) ∧
      es = ex.executions s.executor (es.map (·.handed)) := by
  induction records generalizing s with
  | nil => exact ⟨rfl, rfl⟩
  | cons r rest ih =>
    obtain ⟨first, asked⟩ := s.fate_executions ex r
    obtain ⟨later, asked'⟩ := ih (s.step ex r)
    rw [first] at later asked'
    rw [steps_cons, fates, Fate.execution?_cons]
    dsimp only
    rw [List.map_append, ex.behind_append, ex.executions_append, ← asked, ← asked']
    exact ⟨later, rfl⟩

/-- A run asks for the executions of the records up to where it ends. -/
theorem exists_executions_eq (s : Sink σ) (records : List Record) :
    ∃ earlier later, records = earlier ++ later ∧
      s.executions ex records = (s.fates ex earlier).filterMap (·.execution?) := by
  obtain ⟨earlier, later, split, same⟩ :=
    exists_steps_runFrom ex.recording (s.recording []) {} records
  refine ⟨earlier, later, split, ?_⟩
  rw [executions, run, same, steps_recording]
  rfl

end Sink

end Changefeed
