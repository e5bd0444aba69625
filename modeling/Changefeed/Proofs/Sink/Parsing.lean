import Changefeed.Proofs.Sink.Execution
import Changefeed.Proofs.Sink.Tables
import Changefeed.Proofs.Translator.Parsing

/-!
# Parsers that are handed in

A table of parsers that is handed to a translator or a sink is the one in force, with what was
registered in it since (`ParserTable.inForce`), unless it was empty then: an empty table counts as
none, and the standard one is in force instead, whatever is registered later.
-/

namespace Changefeed

/-! ### The table in force -/

namespace ParserTable

/-- The table with more parsers registered in it. -/
def registerAll (parsers : ParserTable) (later : List (String × Parser)) : ParserTable :=
  later.foldl (fun t x => t.register x.1 x.2) parsers

/-- The parsers in force where a table was handed in, or none was, and parsers were registered in it
later. -/
def inForce (iso : IsoReader) (given : Option ParserTable) (later : List (String × Parser)) :
    ParserTable :=
  match given with
  | none => .standard iso
  | some parsers => if parsers.entries.isEmpty then .standard iso else parsers.registerAll later

theorem table_of (iso : IsoReader) (given : Option ParserTable)
    (later : List (String × Parser)) :
    (ParserSource.of iso given).table ((given.getD .empty).registerAll later) =
      inForce iso given later := by
  cases given with
  | none => rfl
  | some parsers =>
    unfold ParserSource.of inForce
    dsimp only
    split_ifs <;> rfl

/-- A statement for a record binds what the table gives, and its columns are those that the sink
then knows of the statement's table. -/
def Supplies {σ : Type} (parsers : ParserTable) (r : Record) (st : BoundStatement) (s : Sink σ) :
    Prop :=
  ∃ t columns, Assoc.get? s.translators st.table = some t ∧ t.schema = some columns ∧
    parsers.Bound columns (.raw r.key) (.raw r.value) st.parameters

end ParserTable

/-! ### Sinks -/

namespace Sink

variable {σ : Type} (ex : Executor σ)

/-- A sink and its translators take their parsers from one source, beside a shared table. -/
structure Takes (source : ParserSource) (shared : ParserTable) (s : Sink σ) : Prop where
  filed : s.Filed
  parsers_eq : s.parsers = source
  shared_eq : s.sharedParsers = shared
  translators : ∀ name t, Assoc.get? s.translators name = some t → t.parsers = source

theorem takes_create (iso : IsoReader) (settings : Settings) (x : σ)
    (given : Option ParserTable) :
    (create iso settings x given).Takes (.of iso given) (given.getD .empty) :=
  ⟨filed_create iso settings x given, rfl, rfl, fun _ _ h => nomatch h⟩

variable {source : ParserSource} {shared : ParserTable} {s : Sink σ} {r : Record} {t : Translator}

theorem Takes.recipient (takes : s.Takes source shared) (h : s.recipient r = some t) :
    t.parsers = source := by
  rcases (takes.filed.recipient h).2 with known | ⟨-, new⟩
  · exact takes.translators _ t known
  · rw [new]
    exact takes.parsers_eq

theorem Takes.step (takes : s.Takes source shared) (r : Record) :
    (s.step ex r).Takes source shared := by
  obtain ⟨parsers, sharedParsers⟩ := s.step_parsers ex r
  refine ⟨takes.filed.step ex r, parsers.trans takes.parsers_eq,
    sharedParsers.trans takes.shared_eq, fun name t ht => ?_⟩
  rw [get?_step] at ht
  cases h : s.recipient r with
  | none =>
    rw [h] at ht
    exact takes.translators name t ht
  | some t' =>
    rw [h] at ht
    dsimp only at ht
    split_ifs at ht
    · obtain rfl := Option.some.inj ht
      exact (t'.translate_learns ..).parsers_eq.trans (takes.recipient h)
    · exact takes.translators name t ht

theorem Takes.steps (takes : s.Takes source shared) (records : List Record) :
    (s.steps ex records).Takes source shared := by
  induction records generalizing s with
  | nil => exact takes
  | cons r rest ih => exact ih (takes.step ex r)

theorem translate_of_fate {st : BoundStatement} (h : s.recipient r = some t)
    (hst : (s.fate ex r).statement? = some st) :
    (t.translate s.sharedParsers (.raw r.key) (.raw r.value)).1 = .ok (some st) := by
  rw [fate_of_some ex h] at hst
  unfold Workplace.fate place at hst
  dsimp only at hst
  rcases translated : (t.translate s.sharedParsers (.raw r.key) (.raw r.value)).1 with e | _ | b
  · rw [translated] at hst
    cases hst
  · rw [translated] at hst
    cases hst
  · rw [translated] at hst
    dsimp only at hst
    cases executed : (ex.execute b.sql b.parameters s.executor).1 <;> rw [executed] at hst <;>
      · obtain rfl := Option.some.inj hst
        rfl

/-- A record's statement binds what the parsers of the sink give at that time. -/
theorem Takes.supplies (takes : s.Takes source shared) {st : BoundStatement}
    (hst : (s.fate ex r).statement? = some st) :
    (source.table shared).Supplies r st (s.step ex r) := by
  cases h : s.recipient r with
  | none => cases (fate_of_none ex h).symm.trans hst
  | some t =>
    obtain ⟨columns, known, bound⟩ := Translator.bound_of_translate (translate_of_fate ex h hst)
    rw [takes.recipient h, takes.shared_eq] at bound
    refine ⟨s.advanced ex r t, columns, ?_, known, bound⟩
    rw [get?_step, h, statement_table ex h hst]
    exact if_pos rfl

/-- Handling a record leaves the sink as stepping over it does, up to the log. -/
theorem handle_eq_step (s : Sink σ) (r : Record) :
    (s.handle ex r).2 = { s.step ex r with log := s.log } := by
  cases h : s.recipient r with
  | none => rw [handle_of_none ex h, step_of_none ex h]
  | some t =>
    rw [handle_of_some ex h, step_of_some ex h]
    rfl

theorem Takes.handle (takes : s.Takes source shared) (r : Record) :
    (s.handle ex r).2.Takes source shared := by
  obtain ⟨filed, parsers, sharedParsers, translators⟩ := takes.step ex r
  rw [handle_eq_step]
  exact ⟨filed, parsers, sharedParsers, translators⟩

theorem Takes.run (takes : s.Takes source shared) (records : List Record) :
    (s.run ex records).2.Takes source shared := by
  obtain ⟨earlier, later, -, same⟩ := s.exists_steps_runFrom ex {} records
  rw [Sink.run, same]
  exact takes.steps ex earlier

theorem exists_of_mem_fates {f : Fate} {records : List Record} (h : f ∈ s.fates ex records) :
    ∃ earlier r later, records = earlier ++ r :: later ∧ f = (s.steps ex earlier).fate ex r := by
  induction records generalizing s with
  | nil => cases h
  | cons r rest ih =>
    rcases List.mem_cons.1 h with rfl | h
    · exact ⟨[], r, rest, rfl, rfl⟩
    · obtain ⟨earlier, r', later, rfl, same⟩ := ih h
      exact ⟨r :: earlier, r', later, rfl, same⟩

/-- Every execution of a run is that of one of its records. -/
theorem exists_of_mem_executions {e : Execution} {records : List Record}
    (h : e ∈ s.executions ex records) :
    ∃ earlier r later st, records = earlier ++ r :: later ∧
      ((s.steps ex earlier).fate ex r).statement? = some st ∧
      e.handed = ⟨st.sql, st.parameters⟩ := by
  obtain ⟨attended, rest, rfl, same⟩ := s.exists_executions_eq ex records
  rw [same] at h
  obtain ⟨f, hf, executed⟩ := List.mem_filterMap.1 h
  obtain ⟨earlier, r, later, rfl, rfl⟩ := exists_of_mem_fates ex hf
  refine ⟨earlier, r, later ++ rest, ?_⟩
  revert executed
  cases (s.steps ex earlier).fate ex r with
  | skipped | rejected cause => exact fun executed => nomatch executed
  | applied st =>
    rintro ⟨⟩
    exact ⟨st, by simp, rfl, rfl⟩
  | refused st cause =>
    rintro ⟨⟩
    exact ⟨st, by simp, rfl, rfl⟩

end Sink

/-! ### Histories -/

/-- What is done with a sink, or with the table of parsers that was handed to it. -/
inductive SinkCall where
  | register (semanticType : String) (p : Parser)
  | handle (r : Record)
  | run (records : List Record)

/-- The parser that a call registers, with its meaning. -/
def SinkCall.registration? : SinkCall → Option (String × Parser)
  | .register semanticType p => some (semanticType, p)
  | .handle _ | .run _ => none

namespace Sink

variable {σ : Type} (ex : Executor σ)

/-- The sink behind a call, whatever its outcome. -/
def perform (s : Sink σ) : SinkCall → Sink σ
  | .register semanticType p => { s with sharedParsers := s.sharedParsers.register semanticType p }
  | .handle r => (s.handle ex r).2
  | .run records => (s.run ex records).2

/-- The sink behind calls in order. -/
def performAll (s : Sink σ) (calls : List SinkCall) : Sink σ :=
  calls.foldl (perform ex) s

theorem Takes.performAll {source : ParserSource} {shared : ParserTable} {s : Sink σ}
    (takes : s.Takes source shared) (calls : List SinkCall) :
    (s.performAll ex calls).Takes source
      (shared.registerAll (calls.filterMap SinkCall.registration?)) := by
  induction calls generalizing s shared with
  | nil => exact takes
  | cons call rest ih =>
    cases call with
    | register semanticType p =>
      have registered : Sink.Takes source (shared.register semanticType p)
          (s.perform ex (.register semanticType p)) :=
        ⟨takes.filed, takes.parsers_eq, congrArg (·.register semanticType p) takes.shared_eq,
          takes.translators⟩
      exact ih registered
    | handle r => exact ih (takes.handle ex r)
    | run records => exact ih (takes.run ex records)

end Sink

/-- The parsers that are in force are those of the table that was handed in, as it is at that time,
unless it was not given or empty when the translator or the sink was made: then they are the
standard ones.  Every parameter of every statement, of a translator after any calls and of a sink
after any calls, is what these give for its column and raw value. -/
theorem parsers_in_force (iso : IsoReader) (given : Option ParserTable) :
    (∀ table policy t, Translator.create (.text table) policy (.of iso given) = .ok t →
      ∀ (σ : Type) (ex : Executor σ) m x calls later key value st,
        let w := (Workplace.mk t m x).after ex calls
        let shared := (given.getD .empty).registerAll later
        (w.translator.translate shared key value).1 = .ok (some st) ∨
            (w.process ex shared key value).1 = .ok (some st) →
          ∃ columns, (w.translator.translate shared key value).2.schema = some columns ∧
            (ParserTable.inForce iso given later).Bound columns key value st.parameters) ∧
    ∀ settings (σ : Type) (ex : Executor σ) x calls,
      let s := (Sink.create iso settings x given).performAll ex calls
      let parsers := ParserTable.inForce iso given (calls.filterMap SinkCall.registration?)
      (∀ r st, (s.handle ex r).1 = .ok (some st) → parsers.Supplies r st (s.handle ex r).2) ∧
      ∀ records, ∀ e ∈ s.executions ex records,
        ∃ earlier r later st, records = earlier ++ r :: later ∧
          e.handed = ⟨st.sql, st.parameters⟩ ∧
          parsers.Supplies r st (s.steps ex (earlier ++ [r])) := by
  constructor
  · intro table policy t fresh σ ex m x calls later key value st w shared produced
    have produced : (w.translator.translate shared key value).1 = .ok (some st) :=
      produced.elim id Workplace.translate_of_process
    have source := (Workplace.knows_of_create ex fresh m x calls).parsers_eq
    obtain ⟨columns, known, bound⟩ := Translator.bound_of_translate produced
    rw [source, ParserTable.table_of] at bound
    exact ⟨columns, known, bound⟩
  · intro settings σ ex x calls s parsers
    have takes := (Sink.takes_create iso settings x given).performAll ex calls
    have supplies {s' : Sink σ} (takes : s'.Takes (.of iso given)
        ((given.getD .empty).registerAll (calls.filterMap SinkCall.registration?)))
        {r : Record} {st : BoundStatement} (hst : (s'.fate ex r).statement? = some st) :
        parsers.Supplies r st (s'.step ex r) := by
      have supplied := takes.supplies ex hst
      rwa [ParserTable.table_of] at supplied
    constructor
    · intro r st handled
      have outcome := s.handle_outcome ex r
      rw [handled] at outcome
      have hst : (s.fate ex r).statement? = some st := by
        revert outcome
        cases s.fate ex r <;> simp [Fate.outcome, Fate.statement?, eq_comm]
      rw [Sink.handle_eq_step]
      exact supplies takes hst
    · intro records e he
      obtain ⟨earlier, r, later, st, split, hst, handed⟩ := Sink.exists_of_mem_executions ex he
      refine ⟨earlier, r, later, st, split, handed, ?_⟩
      rw [Sink.steps_append]
      exact supplies (takes.steps ex earlier) hst

namespace Orders

/-- An insert of an order with a decimal. -/
def decimal : EventValue :=
  .parsed (event fields "c" none (some [("id", .int 1), ("AND", .bytes [5]), ("NULL\n", .null)]))

/-- A parser that gives a text for every value. -/
def marking : Parser where
  name := "mark"
  run := fun _ _ => .ok (.text "marked")

/-- A table with a parser for another meaning. -/
def parsers : ParserTable :=
  .register .empty "other" marking

/-- That table with a parser for decimals registered later. -/
def grown : ParserTable :=
  parsers.registerAll [(fixedScaleDecimal, marking)]

/-- A translator to which that table was handed. -/
def sharing : Translator :=
  { translator with parsers := .of Iso.reader (some parsers) }

end Orders

/-- A parser that is registered when the translator has been made takes part. -/
theorem parsers_in_force_orders :
    Translator.create (.text "public.orders") .strict (.of Iso.reader (some Orders.parsers)) =
      .ok Orders.sharing ∧
    ∃ st, (Orders.sharing.translate Orders.grown (.raw .null) Orders.decimal).1 = .ok (some st) ∧
      st.parameters = [.int 1, .text "marked", .null] ∧
      ∃ columns, (Orders.sharing.translate Orders.grown (.raw .null) Orders.decimal).2.schema =
          some columns ∧
        Orders.grown.Bound columns (.raw .null) Orders.decimal st.parameters := by
  have fresh : Translator.create (.text "public.orders") .strict
      (.of Iso.reader (some Orders.parsers)) = .ok Orders.sharing := rfl
  obtain ⟨st, produced, parameters⟩ : ∃ st,
      (Orders.sharing.translate Orders.grown (.raw .null) Orders.decimal).1 = .ok (some st) ∧
        st.parameters = [.int 1, .text "marked", .null] := ⟨_, rfl, rfl⟩
  exact ⟨fresh, st, produced, parameters, (parsers_in_force Iso.reader (some Orders.parsers)).1 _ _
    Orders.sharing fresh DryRun DryRun.executor {} {} [] [(fixedScaleDecimal, Orders.marking)] _ _
    st (.inl produced)⟩

/-- An empty table is not taken: the standard parser parses a decimal for which the table has none,
and goes on to when one is registered there. -/
theorem parsers_not_in_force :
    Translator.create (.text "public.orders") .strict (.of Iso.reader (some .empty)) =
      .ok Orders.translator ∧
    ∀ parsers ∈ [ParserTable.empty, ParserTable.empty.register fixedScaleDecimal Orders.marking],
      ∃ st, (Orders.translator.translate parsers (.raw .null) Orders.decimal).1 = .ok (some st) ∧
        st.parameters = [.int 1, .decimal (.finite false 5 (-2)), .null] ∧
        ∀ columns, (Orders.translator.translate parsers (.raw .null) Orders.decimal).2.schema =
          some columns → ¬ parsers.Bound columns (.raw .null) Orders.decimal st.parameters := by
  -- what the table gives is what a translator binds that takes its parsers from it
  have refuted (parsers : ParserTable) (bound : List Value)
      (taken : ∃ st, (Orders.sharing.translate parsers (.raw .null) Orders.decimal).1 =
        .ok (some st) ∧ st.parameters = bound)
      (other : bound ≠ [.int 1, .decimal (.finite false 5 (-2)), .null]) (columns : TableSchema)
      (known : (Orders.sharing.translate parsers (.raw .null) Orders.decimal).2.schema =
        some columns) : ¬ parsers.Bound columns (.raw .null) Orders.decimal
          [.int 1, .decimal (.finite false 5 (-2)), .null] := by
    intro same
    obtain ⟨st, produced, rfl⟩ := taken
    obtain ⟨columns', known', given⟩ := Translator.bound_of_translate produced
    obtain rfl := Option.some.inj (known.symm.trans known')
    exact other (given.unique same)
  refine ⟨rfl, List.forall_mem_cons.2 ⟨⟨_, rfl, rfl, ?_⟩, List.forall_mem_singleton.2
    ⟨_, rfl, rfl, ?_⟩⟩⟩
  · exact refuted .empty [.int 1, .bytes [5], .null] ⟨_, rfl, rfl⟩ (by simp)
  · exact refuted (.register .empty fixedScaleDecimal Orders.marking)
      [.int 1, .text "marked", .null] ⟨_, rfl, rfl⟩ (by simp)

end Changefeed
