import Changefeed.Proofs.Translator.Frame

/-!
# What becomes of an event

An event needs no statement, or its statement is applied, or it fails before there is a statement,
or the executor refuses its statement.  All that the handling of an event changes besides what is
known of the table can be read off this `Fate` (`Workplace.process_eq`): the outcome, the
translator's figures, the counters, and the executor.
-/

namespace Changefeed

/-- What becomes of an event, or of the record that brings it. -/
inductive Fate where
  /-- It needed no statement. -/
  | skipped
  /-- Its statement was executed. -/
  | applied (statement : BoundStatement)
  /-- It failed before there was a statement. -/
  | rejected (cause : Failure)
  /-- The executor failed with its statement. -/
  | refused (statement : BoundStatement) (cause : Failure)
deriving Inhabited

namespace Fate

variable {σ : Type}

/-- What the handling gives. -/
def outcome : Fate → Except Failure (Option BoundStatement)
  | skipped => .ok none
  | applied statement => .ok (some statement)
  | rejected cause | refused _ cause => .error cause

/-- The statement that was handed to the executor. -/
def statement? : Fate → Option BoundStatement
  | skipped | rejected _ => none
  | applied statement | refused statement _ => some statement

/-- The failure, if it failed. -/
def cause? : Fate → Option Failure
  | skipped | applied _ => none
  | rejected cause | refused _ cause => some cause

/-- The figures of a translator behind an event with this fate. -/
def figures : Fate → Stats → Stats
  | skipped => Stats.addSkipped
  | applied statement => (·.addApplied statement.kind)
  | rejected _ | refused _ _ => Stats.addFailed

/-- The counters that are raised for an event of a table. -/
def counters (table : String) (value : EventValue) : Fate → List Counter
  | skipped => [.event table value.label, .skipped table (Workplace.skipReason value)]
  | applied statement => [.event table value.label, .applied table statement.kind.name]
  | rejected cause => [.failure table value.label cause.kindName]
  | refused _ cause => [.event table value.label, .failure table value.label cause.kindName]

/-- The state of the executor behind an event. -/
def executor (ex : Executor σ) (x : σ) (f : Fate) : σ :=
  match f.statement? with
  | some b => (ex.execute b.sql b.parameters x).2
  | none => x

theorem table_of_mem_counters {table : String} {value : EventValue} {f : Fate} {c : Counter}
    (h : c ∈ f.counters table value) : c.table = table := by
  cases f <;> simp only [counters, List.mem_cons, List.not_mem_nil, or_false] at h
  case rejected => rw [h]; rfl
  all_goals rcases h with rfl | rfl <;> rfl

/-! ### Kinds of fate -/

/-- Whether a statement was executed. -/
def isApplied : Fate → Bool
  | applied _ => true
  | _ => false

/-- Whether no statement was needed. -/
def isSkipped : Fate → Bool
  | skipped => true
  | _ => false

/-- Whether it failed before there was a statement. -/
def isRejected : Fate → Bool
  | rejected _ => true
  | _ => false

/-- Whether it failed, before or in its execution. -/
def isFailed : Fate → Bool
  | rejected _ | refused _ _ => true
  | _ => false

/-- Whether the executor failed with the statement. -/
def isRefused : Fate → Bool
  | refused _ _ => true
  | _ => false

/-- A record is applied, skipped or failed, and just one of these. -/
theorem length_eq_countP (fs : List Fate) : fs.length =
    fs.countP (·.isApplied) + fs.countP (·.isSkipped) + fs.countP (·.isFailed) := by
  induction fs with
  | nil => rfl
  | cons f fs ih =>
    have one : 1 = (if f.isApplied then 1 else 0) + (if f.isSkipped then 1 else 0) +
        if f.isFailed then 1 else 0 := by
      cases f <;> rfl
    simp only [List.length_cons, List.countP_cons, ih]
    omega

theorem countP_isFailed (fs : List Fate) :
    fs.countP (·.isFailed) = fs.countP (·.isRejected) + fs.countP (·.isRefused) := by
  induction fs with
  | nil => rfl
  | cons f fs ih =>
    have one : (if f.isFailed then 1 else 0) =
        (if f.isRejected then 1 else 0) + if f.isRefused then 1 else 0 := by
      cases f <;> rfl
    simp only [List.countP_cons, ih]
    omega

/-- What became of an event fits its operation: unless it failed before, it had a statement just if
its operation changes rows, and one that does so. -/
def Fits (table : String) (value : EventValue) (f : Fate) : Prop :=
  (∀ cause, f ≠ .rejected cause) →
    f.statement?.map (·.kind) = value.operation.bind Operation.kind? ∧
      ∀ b ∈ f.statement?, b.table = table

end Fate

/-! ### Handling -/

namespace Workplace

variable {σ : Type} (ex : Executor σ) (shared : ParserTable) (w : Workplace σ) (key : EventKey)
  (value : EventValue)

/-- What becomes of an event. -/
def fate : Fate :=
  match (w.translator.translate shared key value).1 with
  | .error e => .rejected (.event e)
  | .ok none => .skipped
  | .ok (some b) =>
    match (ex.execute b.sql b.parameters w.executor).1 with
    | .ok () => .applied b
    | .error e => .refused b e

/-- The handling of an event leaves the translator as its translation does, and changes figures,
counters and the executor according to its fate. -/
theorem process_eq : w.process ex shared key value =
    ((w.fate ex shared key value).outcome,
      { translator := (w.translator.translate shared key value).2.withStats
          ((w.fate ex shared key value).figures w.translator.stats)
        metrics := ((w.fate ex shared key value).counters w.translator.table value).foldl
          Metrics.add w.metrics
        executor := (w.fate ex shared key value).executor ex w.executor }) := by
  have learns := w.translator.translate_learns shared key value
  unfold process fate
  generalize w.translator.translate shared key value = translated at learns ⊢
  obtain ⟨outcome, t⟩ := translated
  dsimp only at learns
  rw [← learns.table_eq, ← learns.stats_eq]
  rcases outcome with e | _ | b
  · rfl
  · rfl
  · dsimp only [apply, note, id_eq]
    cases he : ex.execute b.sql b.parameters w.executor with
    | mk result x =>
      cases result with
      | ok done => simp only [Fate.executor, Fate.statement?, he]; rfl
      | error e => simp only [Fate.executor, Fate.statement?, he]; rfl

/-- What becomes of an event fits it. -/
theorem fate_fits : (w.fate ex shared key value).Fits w.translator.table value := by
  intro translated
  have statement : (w.translator.translate shared key value).1 =
      .ok (w.fate ex shared key value).statement? := by
    revert translated
    unfold fate
    rcases (w.translator.translate shared key value).1 with e | _ | b
    · intro translated
      exact absurd rfl (translated (.event e))
    · intro translated
      rfl
    · intro translated
      dsimp only
      cases (ex.execute b.sql b.parameters w.executor).1 <;> rfl
  obtain ⟨kind, bound⟩ := Translator.translate_eq_ok statement
  exact ⟨kind, fun b hb => (bound b hb).1⟩

end Workplace
end Changefeed
