import Changefeed.Proofs.Sink.Course

/-!
# Runs on two executors

Where one executor answers bound statements as another one does, in states that are related
(`Executor.Simulates`), a sink handles records on both alike: a run ends the same way and leaves the
same sink but for the executor, whose states are related again (`Sink.run_on`).
-/

namespace Changefeed

variable {σ τ : Type} {ex : Executor σ} {ex' : Executor τ} {R : σ → τ → Prop}

/-- In related states two executors give the same for a statement with a value for each
placeholder, and are in related states behind it. -/
def Executor.Simulates (ex' : Executor τ) (ex : Executor σ) (R : σ → τ → Prop) : Prop :=
  ∀ x y sql parameters, R x y → placeholderCount sql = parameters.length →
    (ex'.execute sql parameters y).1 = (ex.execute sql parameters x).1 ∧
      R (ex.execute sql parameters x).2 (ex'.execute sql parameters y).2

/-- A translator at work on another executor. -/
def Workplace.on (w : Workplace σ) (y : τ) : Workplace τ :=
  { w with executor := y }

theorem Workplace.fate_on (simulates : ex'.Simulates ex R) {w : Workplace σ} {y : τ}
    (related : R w.executor y) (shared : ParserTable) (key : EventKey) (value : EventValue) :
    (w.on y).fate ex' shared key value = w.fate ex shared key value ∧
      R ((w.fate ex shared key value).executor ex w.executor)
        ((w.fate ex shared key value).executor ex' y) := by
  have same : (w.on y).translator = w.translator := rfl
  unfold fate
  rw [same]
  cases translated : (w.translator.translate shared key value).1 with
  | error e => exact ⟨rfl, related⟩
  | ok o =>
    cases o with
    | none => exact ⟨rfl, related⟩
    | some b =>
      have bound := ((Translator.translate_eq_ok translated).2 b rfl).2
      obtain ⟨answer, behind⟩ := simulates w.executor y b.sql b.parameters related bound
      have answer : (ex'.execute b.sql b.parameters (w.on y).executor).1 =
        (ex.execute b.sql b.parameters w.executor).1 := answer
      dsimp only
      rw [answer]
      cases (ex.execute b.sql b.parameters w.executor).1 with
      | ok done => exact ⟨rfl, behind⟩
      | error e => exact ⟨rfl, behind⟩

namespace Sink

/-- A sink on another executor. -/
def on (s : Sink σ) (y : τ) : Sink τ :=
  { s with executor := y }

theorem fate_on (simulates : ex'.Simulates ex R) {s : Sink σ} {y : τ} (related : R s.executor y)
    (r : Record) : (s.on y).fate ex' r = s.fate ex r ∧
      R ((s.fate ex r).executor ex s.executor) ((s.fate ex r).executor ex' y) := by
  have same : (s.on y).translatorOf r = s.translatorOf r := rfl
  unfold fate
  rw [same]
  split_ifs
  · exact ⟨rfl, related⟩
  · cases s.translatorOf r with
    | error e => exact ⟨rfl, related⟩
    | ok t => exact Workplace.fate_on simulates (w := s.place t) related ..

theorem handle_on (simulates : ex'.Simulates ex R) {s : Sink σ} {y : τ}
    (related : R s.executor y) (r : Record) :
    ∃ y', (s.on y).handle ex' r = ((s.handle ex r).1, (s.handle ex r).2.on y') ∧
      R (s.handle ex r).2.executor y' := by
  obtain ⟨same, behind⟩ := fate_on simulates related r
  cases h : s.recipient r with
  | none =>
    have h' : (s.on y).recipient r = none := h
    rw [handle_of_none ex h, handle_of_none ex' h', same]
    exact ⟨y, rfl, related⟩
  | some t =>
    have h' : (s.on y).recipient r = some t := h
    rw [handle_of_some ex h, handle_of_some ex' h', advance, advanced, same]
    exact ⟨(s.fate ex r).executor ex' y, rfl, behind⟩

theorem runOne_on (simulates : ex'.Simulates ex R) {s : Sink σ} {y : τ}
    (related : R s.executor y) (counts : Summary) (r : Record) :
    ∃ y', (s.on y).runOne ex' counts r =
        ((s.runOne ex counts r).1, (s.runOne ex counts r).2.on y') ∧
      R (s.runOne ex counts r).2.executor y' := by
  obtain ⟨y', same, behind⟩ := handle_on simulates related r
  refine ⟨y', ?_⟩
  unfold runOne
  rw [same]
  generalize s.handle ex r = handled at behind ⊢
  obtain ⟨e | statement, s'⟩ := handled
  · have settled : (s'.on y').settle r e = ((s'.settle r e).1, (s'.settle r e).2.on y') := by
      unfold settle
      cases r.sourceTable <;> rfl
    have kept : (s'.settle r e).2.executor = s'.executor := by
      unfold settle
      cases r.sourceTable <;> rfl
    dsimp only
    rw [settled]
    rw [← kept] at behind
    generalize s'.settle r e = settled at behind ⊢
    obtain ⟨e' | ended, s''⟩ := settled
    · exact ⟨rfl, behind⟩
    · exact ⟨rfl, behind⟩
  · exact ⟨rfl, behind⟩

theorem runFrom_on (simulates : ex'.Simulates ex R) {s : Sink σ} {y : τ}
    (related : R s.executor y) (counts : Summary) (records : List Record) :
    ∃ y', (s.on y).runFrom ex' counts records =
        ((s.runFrom ex counts records).1, (s.runFrom ex counts records).2.on y') ∧
      R (s.runFrom ex counts records).2.executor y' := by
  -- The states are related behind each record, and only a related start is used of them.
  induction records generalizing s y counts with
  | nil => exact ⟨y, rfl, related⟩
  | cons r rest ih =>
    obtain ⟨y', same, behind⟩ := runOne_on simulates related counts r
    unfold runFrom
    rw [same]
    generalize s.runOne ex counts r = one at behind ⊢
    obtain ⟨e | counts', s'⟩ := one
    · exact ⟨y', rfl, behind⟩
    · exact ih behind counts'

/-- A run on an executor that simulates another one is the run on that one. -/
theorem run_on (simulates : ex'.Simulates ex R) {s : Sink σ} {y : τ} (related : R s.executor y)
    (records : List Record) :
    ∃ y', (s.on y).run ex' records = ((s.run ex records).1, (s.run ex records).2.on y') ∧
      R (s.run ex records).2.executor y' :=
  runFrom_on simulates related {} records

end Sink
end Changefeed
