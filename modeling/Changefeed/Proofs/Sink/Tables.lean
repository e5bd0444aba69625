import Changefeed.Proofs.Metrics
import Changefeed.Proofs.Sink.Course

/-!
# The tables of a sink

Each translator of a sink stands under the name of its own table (`Sink.Filed`), so a record that is
handed to a translator goes to the translator's table (`Sink.Filed.recipient`) and changes neither
another translator nor the counters of another table.
-/

namespace Changefeed

namespace Translator

/-- A translator is made for a text only, and it is new. -/
theorem eq_of_create {table : Value} {policy : IdentifierPolicy} {parsers : ParserSource}
    {t : Translator} (h : create table policy parsers = .ok t) :
    table = .text t.table ∧ t = { table := t.table, policy, parsers } := by
  cases table with
  | text name =>
    obtain ⟨-, rfl⟩ := create_eq_ok h
    exact ⟨rfl, rfl⟩
  | _ =>
    exfalso
    unfold create at h
    cases policy with
    | trust => simp [IdentifierPolicy.checkTable, Except.map] at h
    | strict =>
      simp only [IdentifierPolicy.checkTable] at h
      revert h
      generalize checkTableName _ = checked
      cases checked <;> simp [Except.bind, Except.map]

end Translator

/-- Whether a record goes to a table. -/
def Record.goesTo (settings : Settings) (table : String) (r : Record) : Bool :=
  match targetTable settings r with
  | .ok (.text name) => name = table
  | _ => false

theorem Record.goesTo_iff {settings : Settings} {table : String} {r : Record} :
    r.goesTo settings table ↔ targetTable settings r = .ok (.text table) := by
  unfold goesTo
  cases targetTable settings r with
  | error e => simp
  | ok v => cases v <;> simp

theorem Metrics.ofTable_foldl_add {cs : List Counter} {name : String}
    (same : ∀ c ∈ cs, c.table = name) (m : Metrics) (table : String) :
    (cs.foldl add m).ofTable table =
      if name = table then cs.foldl add (m.ofTable table) else m.ofTable table := by
  induction cs generalizing m with
  | nil => simp
  | cons c cs ih =>
    obtain ⟨first, later⟩ := List.forall_mem_cons.1 same
    rw [List.foldl_cons, List.foldl_cons, ih later, ofTable_add, first]
    split_ifs <;> rfl

namespace Sink

variable {σ : Type} (ex : Executor σ)

/-- Every translator stands under the name of its table. -/
def Filed (s : Sink σ) : Prop :=
  ∀ name t, Assoc.get? s.translators name = some t → t.table = name

theorem filed_create (iso : IsoReader) (settings : Settings) (x : σ)
    (parsers : Option ParserTable) : (create iso settings x parsers).Filed :=
  fun _ _ h => nomatch h

variable {s : Sink σ} {r : Record} {t : Translator}

/-- A record that is handed to a translator goes to its table, and that translator is the one in
place, or new if there is none. -/
theorem Filed.recipient (filed : s.Filed) (h : s.recipient r = some t) :
    targetTable s.settings r = .ok (.text t.table) ∧
      (Assoc.get? s.translators t.table = some t ∨
        Assoc.get? s.translators t.table = none ∧
          t = { table := t.table, policy := s.settings.policy, parsers := s.parsers }) := by
  unfold Sink.recipient translatorOf at h
  split_ifs at h
  cases htable : targetTable s.settings r with
  | error e => simp [htable, Except.toOption] at h
  | ok table =>
    rw [htable, toOption_eq_some] at h
    dsimp only [translatorFor] at h
    cases table with
    | text name =>
      dsimp only at h
      cases hname : Assoc.get? s.translators name with
      | some t' =>
        rw [hname] at h
        obtain rfl := Except.ok.inj h
        obtain rfl := filed name t' hname
        exact ⟨rfl, .inl hname⟩
      | none =>
        rw [hname] at h
        obtain ⟨same, new⟩ := Translator.eq_of_create h
        obtain rfl := Value.text.inj same
        exact ⟨rfl, .inr ⟨hname, new⟩⟩
    | list vs => cases h
    | object ms => cases h
    | _ => cases (Translator.eq_of_create h).1

/-- Behind a record the translator that took it has advanced, and all others are as before. -/
theorem get?_step (s : Sink σ) (r : Record) (name : String) :
    Assoc.get? (s.step ex r).translators name =
      match s.recipient r with
      | some t =>
        if t.table = name then some (s.advanced ex r t) else Assoc.get? s.translators name
      | none => Assoc.get? s.translators name := by
  cases h : s.recipient r with
  | none => rw [step_of_none ex h]
  | some t =>
    rw [step_of_some ex h]
    show Assoc.get? (s.advance ex r t).translators name = _
    rw [advance_translators, Assoc.get?_insert]

theorem step_metrics (h : s.recipient r = some t) : (s.step ex r).metrics =
    ((s.fate ex r).counters t.table (.raw r.value)).foldl Metrics.add s.metrics := by
  rw [step_of_some ex h]
  rfl

/-- Behind a record the counters of the table that it goes to are raised, and no others. -/
theorem ofTable_step (s : Sink σ) (r : Record) (name : String) :
    (s.step ex r).metrics.ofTable name =
      match s.recipient r with
      | some t =>
        if t.table = name then
          ((s.fate ex r).counters t.table (.raw r.value)).foldl Metrics.add
            (s.metrics.ofTable name)
        else s.metrics.ofTable name
      | none => s.metrics.ofTable name := by
  cases h : s.recipient r with
  | none => rw [step_of_none ex h]
  | some t =>
    rw [step_metrics ex h]
    exact Metrics.ofTable_foldl_add (fun c hc => Fate.table_of_mem_counters hc) s.metrics name

theorem Filed.step (filed : s.Filed) (r : Record) : (s.step ex r).Filed := by
  intro name t ht
  rw [get?_step] at ht
  cases h : s.recipient r with
  | none =>
    rw [h] at ht
    exact filed name t ht
  | some t' =>
    rw [h] at ht
    dsimp only at ht
    split_ifs at ht with same
    · obtain rfl := Option.some.inj ht
      rw [advanced_table, same]
    · exact filed name t ht

theorem Filed.steps (filed : s.Filed) (records : List Record) : (s.steps ex records).Filed := by
  induction records generalizing s with
  | nil => exact filed
  | cons r rest ih => exact ih (filed.step ex r)

/-- The statement that a record has is for the table of the translator that takes it. -/
theorem statement_table {b : BoundStatement} (h : s.recipient r = some t)
    (hb : b ∈ (s.fate ex r).statement?) : b.table = t.table := by
  rw [fate_of_some ex h] at hb
  have translated : ∀ cause,
      (s.place t).fate ex s.sharedParsers (.raw r.key) (.raw r.value) ≠ .rejected cause := by
    intro cause hc
    rw [hc] at hb
    cases hb
  exact (Workplace.fate_fits ex _ _ _ _ translated).2 b hb

end Sink
end Changefeed
