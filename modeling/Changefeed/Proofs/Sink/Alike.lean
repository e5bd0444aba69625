import Changefeed.Proofs.Sink.Execution

/-!
# Translation does not look at executors

Two sinks that are `Sink.Alike`, whatever executors they are on, ask the same of them for a record
(`Sink.Alike.fate_demand`) and are alike behind it (`Sink.Alike.step`), so a run asks the same of
both (`Sink.Alike.fates_demand`) and leaves the same memories.
-/

namespace Changefeed

namespace Assoc

variable {α β γ : Type} [DecidableEq α]

theorem get?_map (f : β → γ) (xs : List (α × β)) (k : α) :
    get? (xs.map fun x => (x.1, f x.2)) k = (get? xs k).map f := by
  induction xs with
  | nil => rfl
  | cons x xs ih =>
    rw [List.map_cons, get?_cons, get?_cons, ih]
    split_ifs <;> rfl

theorem insert_map (f : β → γ) (k : α) (v : β) (xs : List (α × β)) :
    (insert k v xs).map (fun x => (x.1, f x.2)) =
      insert k (f v) (xs.map fun x => (x.1, f x.2)) := by
  induction xs with
  | nil => rfl
  | cons x xs ih =>
    simp only [insert, List.map_cons]
    split_ifs
    · rfl
    · rw [List.map_cons, ih]

end Assoc

/-! ### What translators remember -/

namespace Translator

/-- What a translator remembers, without its figures. -/
def memory (t : Translator) : Translator :=
  t.withStats {}

theorem memory_withStats (t : Translator) (stats : Stats) :
    (t.withStats stats).memory = t.memory := rfl

theorem memory_table (t : Translator) : t.memory.table = t.table := rfl

variable {t t' : Translator} (h : t.memory = t'.memory) (shared : ParserTable) (key : EventKey)
  (value : EventValue)

include h in
/-- What is translated and remembered follows from what was remembered. -/
theorem translate_of_memory :
    (t.translate shared key value).1 = (t'.translate shared key value).1 ∧
      (t.translate shared key value).2.memory = (t'.translate shared key value).2.memory := by
  have first := t.translate_withStats {} shared key value
  have second := t'.translate_withStats {} shared key value
  have same := first.symm.trans
    ((congrArg (fun m : Translator => m.translate shared key value) h).trans second)
  exact Prod.mk.inj same

end Translator

/-- What a record asks of the executor, before it is known whether that succeeds. -/
def Fate.demand : Fate → Except Failure (Option BoundStatement)
  | .skipped => .ok none
  | .rejected e => .error e
  | .applied b | .refused b _ => .ok (some b)

theorem Workplace.fate_demand {σ : Type} (ex : Executor σ) (w : Workplace σ) (shared : ParserTable)
    (key : EventKey) (value : EventValue) : (w.fate ex shared key value).demand =
      (w.translator.translate shared key value).1.mapError .event := by
  unfold fate
  rcases (w.translator.translate shared key value).1 with e | _ | b
  · rfl
  · rfl
  · dsimp only
    cases (ex.execute b.sql b.parameters w.executor).1 <;> rfl

namespace Sink

variable {σ τ : Type} (ex : Executor σ) (ex' : Executor τ)

/-- What the translators of a sink remember, by their tables. -/
def memories (s : Sink σ) : List (String × Translator) :=
  s.translators.map fun x => (x.1, x.2.memory)

/-- Two sinks that take records alike, whatever their executors, figures and counters. -/
structure Alike (a : Sink σ) (b : Sink τ) : Prop where
  settings_eq : a.settings = b.settings
  parsers_eq : a.parsers = b.parsers
  shared_eq : a.sharedParsers = b.sharedParsers
  memories_eq : a.memories = b.memories

namespace Alike

variable {a : Sink σ} {b : Sink τ} (h : Alike a b)

include h

theorem translatorOf (r : Record) :
    (a.translatorOf r).map Translator.memory = (b.translatorOf r).map Translator.memory := by
  have found (name : String) : (Assoc.get? a.translators name).map Translator.memory =
      (Assoc.get? b.translators name).map Translator.memory := by
    rw [← Assoc.get?_map, ← Assoc.get?_map]
    exact congrArg (Assoc.get? · name) h.memories_eq
  unfold Sink.translatorOf
  rw [h.settings_eq]
  cases targetTable b.settings r with
  | error e => rfl
  | ok table =>
    dsimp only [translatorFor]
    rw [h.settings_eq, h.parsers_eq]
    cases table with
    | text name =>
      have same := found name
      dsimp only
      generalize Assoc.get? a.translators name = x at same ⊢
      generalize Assoc.get? b.translators name = y at same ⊢
      cases x <;> cases y <;> simp_all [Except.map]
    | _ => rfl

theorem fate_demand (r : Record) : (a.fate ex r).demand = (b.fate ex' r).demand := by
  have same := h.translatorOf r
  unfold fate
  split_ifs
  · rfl
  · generalize a.translatorOf r = x at same ⊢
    generalize b.translatorOf r = y at same ⊢
    cases x <;> cases y <;> simp only [Except.map, Except.ok.injEq, Except.error.injEq,
      reduceCtorEq] at same ⊢
    · rw [same]
    · rw [Workplace.fate_demand, Workplace.fate_demand, h.shared_eq]
      exact congrArg _ (Translator.translate_of_memory same ..).1

theorem recipient (r : Record) :
    (a.recipient r).map Translator.memory = (b.recipient r).map Translator.memory := by
  have same := h.translatorOf r
  unfold Sink.recipient
  split_ifs
  · rfl
  · generalize a.translatorOf r = x at same ⊢
    generalize b.translatorOf r = y at same ⊢
    cases x <;> cases y <;> simp_all [Except.map, Except.toOption]

/-- Behind a record that both take, alike sinks are alike. -/
theorem step (r : Record) : Alike (a.step ex r) (b.step ex' r) where
  settings_eq := by rw [step_settings, step_settings, h.settings_eq]
  parsers_eq := by rw [(step_parsers ex a r).1, (step_parsers ex' b r).1, h.parsers_eq]
  shared_eq := by rw [(step_parsers ex a r).2, (step_parsers ex' b r).2, h.shared_eq]
  memories_eq := by
    have same := h.recipient r
    cases ha : a.recipient r with
    | none =>
      cases hb : b.recipient r with
      | none =>
        rw [step_of_none ex ha, step_of_none ex' hb]
        exact h.memories_eq
      | some t' => simp [ha, hb] at same
    | some t =>
      cases hb : b.recipient r with
      | none => simp [ha, hb] at same
      | some t' =>
        rw [ha, hb] at same
        have same : t.memory = t'.memory := Option.some.inj same
        have table : t.table = t'.table := by rw [← t.memory_table, same, t'.memory_table]
        have advanced : (a.advanced ex r t).memory = (b.advanced ex' r t').memory := by
          unfold Sink.advanced
          rw [Translator.memory_withStats, Translator.memory_withStats, h.shared_eq]
          exact (Translator.translate_of_memory same ..).2
        rw [step_of_some ex ha, step_of_some ex' hb]
        show List.map _ (a.advance ex r t).translators = List.map _ (b.advance ex' r t').translators
        rw [advance_translators, advance_translators, Assoc.insert_map, Assoc.insert_map, advanced,
          table]
        exact congrArg _ h.memories_eq

theorem steps (records : List Record) : Alike (a.steps ex records) (b.steps ex' records) := by
  induction records generalizing a b with
  | nil => exact h
  | cons r rest ih => exact ih (h.step ex ex' r)

theorem fates_demand (records : List Record) :
    (a.fates ex records).map Fate.demand = (b.fates ex' records).map Fate.demand := by
  induction records generalizing a b with
  | nil => rfl
  | cons r rest ih =>
    rw [fates, fates, List.map_cons, List.map_cons, h.fate_demand ex ex' r,
      ih (h.step ex ex' r)]

end Alike

end Sink

/-! ### Counting what is asked -/

namespace Fate

variable {fs gs : List Fate} (h : fs.map demand = gs.map demand)

include h

/-- Records that ask the same are counted alike by all that follows from what they ask. -/
theorem countP_of_demand {p : Fate → Bool} (hp : ∀ f g, f.demand = g.demand → p f = p g) :
    fs.countP p = gs.countP p := by
  induction fs generalizing gs with
  | nil => rw [List.map_eq_nil_iff.1 h.symm]
  | cons f fs ih =>
    obtain ⟨g, gs, rfl, hg, hgs⟩ := List.map_eq_cons_iff.1 h.symm
    rw [List.countP_cons, List.countP_cons, ih hgs.symm, hp f g hg.symm]

theorem countP_isSkipped_of_demand : fs.countP (·.isSkipped) = gs.countP (·.isSkipped) :=
  countP_of_demand h fun f g same => by cases f <;> cases g <;> first
    | rfl
    | cases same

theorem countP_isRejected_of_demand : fs.countP (·.isRejected) = gs.countP (·.isRejected) :=
  countP_of_demand h fun f g same => by cases f <;> cases g <;> first
    | rfl
    | cases same

theorem handed_of_demand : (fs.filterMap (·.execution?)).map (·.handed) =
    (gs.filterMap (·.execution?)).map (·.handed) := by
  induction fs generalizing gs with
  | nil => rw [List.map_eq_nil_iff.1 h.symm]
  | cons f fs ih =>
    obtain ⟨g, gs, rfl, hg, hgs⟩ := List.map_eq_cons_iff.1 h.symm
    have later := ih hgs.symm
    cases f <;> cases g <;> cases hg <;> simpa [execution?] using later

end Fate

end Changefeed
