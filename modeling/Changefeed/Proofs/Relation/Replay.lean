import Mathlib.Data.List.Induction
import Mathlib.Data.Multiset.Filter
import Changefeed.Proofs.Relation.Basic
import Changefeed.Proofs.Translator.Meaning

/-!
# Replay of a history

The rows of a table change one at a time, and each change is reported by an event.  A translator
turns the events into statements, and these are executed on another relation.  That relation then
holds the rows of the table, each as it is stored (`stored`), after every part of the history
(`History.replay`).  The table has to tell its rows apart at all times: a statement looks for a row
by its identity columns.
-/

namespace Changefeed

/-! ### Changes and their events -/

/-- A change of one row of a table. -/
inductive Change where
  | insert (row : Row)
  | update (before after : Row)
  | delete (row : Row)

/-- What a change does to the rows of a table. -/
inductive Change.Applies : Change → Multiset Row → Multiset Row → Prop where
  | insert (row : Row) (rest : Multiset Row) : Applies (.insert row) rest (row ::ₘ rest)
  | update (before after : Row) (rest : Multiset Row) :
      Applies (.update before after) (before ::ₘ rest) (after ::ₘ rest)
  | delete (row : Row) (rest : Multiset Row) : Applies (.delete row) (row ::ₘ rest) rest

/-- An image holds the values that a row has in columns. -/
def Shows (cs : List Column) (image : Members) (row : Row) : Prop :=
  ∀ c ∈ cs, image.get? c.name = some (row c.name)

/-- The schemas of an event are those of a table: both of its rows and the one of its key. -/
structure Describes (s : TableSchema) (key : Option KeyEnvelope) (value : ValueEnvelope) :
    Prop where
  rows : ∃ schema, value.schema = some schema ∧
    ∀ which, TableSchema.rowColumns schema which = .ok s.columns
  key : TableSchema.keyColumnsOf key = .ok s.keyColumns

/-- An event reports a change: it has complete images of the row before and after it, and its key,
if it has one, is that of the row that was there. -/
inductive Reports (s : TableSchema) (key : Option KeyEnvelope) (value : ValueEnvelope) :
    Change → Prop where
  | insert (row : Row) (image : Members) : value.payload.operation = some .create →
      value.payload.after = some image → Shows s.columns image row →
      Reports s key value (.insert row)
  | update (before after : Row) (old new : Members) : value.payload.operation = some .update →
      value.payload.before = some old → Shows s.columns old before →
      value.payload.after = some new → Shows s.columns new after →
      (∀ k, key = some k → Shows s.keyColumns k.payload before) →
      Reports s key value (.update before after)
  | delete (row : Row) (old : Members) : value.payload.operation = some .delete →
      value.payload.before = some old → Shows s.columns old row →
      (∀ k, key = some k → Shows s.keyColumns k.payload row) → Reports s key value (.delete row)

/-! ### Rows as they are stored -/

section Stored

variable (cmp : Comparison) (parsers : ParserTable) (s : TableSchema)

/-- A row as it is stored: each column holds what its value is coerced to. -/
def stored (row : Row) : Row := fun name =>
  match s.columns.find? (·.name = name) with
  | none => .null
  | some c => (coerce parsers c (row name)).toOption.getD .null

/-- The values of a row can be coerced, and only null becomes null. -/
def Storable (row : Row) : Prop :=
  ∀ c ∈ s.columns, ∃ w, coerce parsers c (row c.name) = .ok w ∧ (w = .null → row c.name = .null)

/-- The rows of a table can be stored, and no two of them agree in the identity columns then. -/
structure Replicable (source : Multiset Row) : Prop where
  storable : ∀ row ∈ source, Storable parsers s row
  distinct : ∀ row rest, source = row ::ₘ rest → ∀ other ∈ rest,
    ¬ cmp.Agree s.identityColumns (stored parsers s row) (stored parsers s other)

/-- A history of a table that is empty at first: its events in order, and the rows behind them. -/
inductive History : List (EventKey × EventValue) → Multiset Row → Prop where
  | nil : History [] 0
  | snoc {done : List (EventKey × EventValue)} {source source' : Multiset Row} {key : EventKey}
      {value : EventValue} {k : Option KeyEnvelope} {v : ValueEnvelope} {change : Change} :
      History done source → key.envelope = .ok k → value.envelope = .ok v → Describes s k v →
      Reports s k v change → change.Applies source source' → Replicable cmp parsers s source' →
      History (done ++ [(key, value)]) source'

end Stored

variable {cmp : Comparison} {parsers : ParserTable} {s : TableSchema}

theorem replicable_zero : Replicable cmp parsers s 0 :=
  ⟨fun row h => absurd h (Multiset.notMem_zero row),
    fun _ _ h => absurd h.symm Multiset.cons_ne_zero⟩

theorem History.replicable {done : List (EventKey × EventValue)} {source : Multiset Row}
    (h : History cmp parsers s done source) : Replicable cmp parsers s source := by
  cases h with
  | nil => exact replicable_zero
  | snoc _ _ _ _ _ _ replicable => exact replicable

/-- Each part of a history from its start is a history. -/
theorem History.of_append {done rest : List (EventKey × EventValue)} {source : Multiset Row}
    (h : History cmp parsers s (done ++ rest) source) :
    ∃ source', History cmp parsers s done source' := by
  induction rest using List.reverseRecOn generalizing source with
  | nil => exact ⟨source, by simpa using h⟩
  | append_singleton rest e ih =>
    rw [← List.append_assoc] at h
    generalize hall : done ++ rest ++ [e] = all at h
    cases h with
    | nil => simp at hall
    | snoc earlier _ _ _ _ _ _ =>
      obtain ⟨rfl, -⟩ := List.append_inj' hall rfl
      exact ih earlier

/-! ### Rows under their conditions -/

/-- A table whose columns have names that differ, with a key of some of them. -/
structure TableSchema.Proper (s : TableSchema) : Prop where
  distinct : s.columnNames.Nodup
  valid : ∀ c ∈ s.columns, Identifier.isColumnName c.name
  keys : s.keyColumns ⊆ s.columns

theorem TableSchema.Proper.isColumnName (proper : s.Proper) :
    ∀ c ∈ s.columns ++ s.keyColumns, Identifier.isColumnName c.name :=
  List.forall_mem_append.2 ⟨proper.valid, fun c hc => proper.valid c (proper.keys hc)⟩

theorem TableSchema.Proper.find? (proper : s.Proper) {c : Column} (hc : c ∈ s.columns) :
    s.columns.find? (·.name = c.name) = some c := by
  have distinct := proper.distinct
  rw [TableSchema.columnNames] at distinct
  generalize s.columns = cs at distinct hc
  induction cs with
  | nil => exact absurd hc List.not_mem_nil
  | cons d ds ih =>
    rw [List.map_cons, List.nodup_cons] at distinct
    rcases List.mem_cons.1 hc with rfl | hc
    · exact List.find?_cons_of_pos (by simp)
    · rw [List.find?_cons_of_neg, ih distinct.2 hc]
      -- the names of the columns that follow are all different from the first
      intro same
      rw [of_decide_eq_true same] at distinct
      exact distinct.1 (List.mem_map_of_mem hc)

theorem stored_of_mem (proper : s.Proper) {c : Column} (hc : c ∈ s.columns) {row : Row} {w : Value}
    (h : coerce parsers c (row c.name) = .ok w) : stored parsers s row c.name = w := by
  simp only [stored, proper.find? hc, h, Except.toOption, Option.getD_some]

/-- A column that is stored holds what is bound for it, and null only for null. -/
theorem Storable.coerce_eq (proper : s.Proper) {row : Row} (h : Storable parsers s row)
    {c : Column} (hc : c ∈ s.columns) :
    coerce parsers c (row c.name) = .ok (stored parsers s row c.name) ∧
      (stored parsers s row c.name = .null ↔ row c.name = .null) := by
  obtain ⟨w, hw, onlyNull⟩ := h c hc
  have same := stored_of_mem proper hc hw
  rw [same]
  refine ⟨hw, onlyNull, fun null => ?_⟩
  rw [null] at hw
  exact (Except.ok.inj hw).symm

section Conditions

variable (cmp) (proper : s.Proper) {row : Row} (h : Storable parsers s row)
include proper h

/-- The condition on a column is true of the rows that hold the same there as is stored. -/
theorem exists_condition {c : Column} (hc : c ∈ s.columns) {image : Members}
    (shows : image.get? c.name = some (row c.name)) :
    ∃ a, Locates parsers image c a ∧ ∀ x : Row, cmp.truth x a = .true ↔
      cmp.Same c (x c.name) (stored parsers s row c.name) := by
  have raw : image.get c.name = row c.name := by simp [Members.get, shows]
  obtain ⟨bound, onlyNull⟩ := h.coerce_eq proper hc
  by_cases null : row c.name = .null
  · refine ⟨.isNull c.name, .isNull (raw.trans null), fun x => ?_⟩
    rw [onlyNull.2 null, Comparison.truth, Truth.ofBool_eq_true_iff]
    simp [Comparison.Same, Value.isNull]
  · have filled : ¬ (stored parsers s row c.name).isNull :=
      fun isNull => null (onlyNull.1 (Value.isNull_iff.1 isNull))
    have compared (eq : Value → Value → Bool) (same : cmp.on c = eq) (x : Row) :
        Comparison.compare eq (x c.name) (stored parsers s row c.name) = .true ↔
          cmp.Same c (x c.name) (stored parsers s row c.name) := by
      rw [Comparison.compare_eq_true_iff, Comparison.Same, same]
      simp [filled]
    rw [← raw] at bound null
    by_cases imprecise : c.isImprecise
    · exact ⟨.equalsNumeric c.name _, .equalsNumeric _ null imprecise bound,
        compared cmp.equalNumeric (if_pos imprecise)⟩
    · exact ⟨.equals c.name _, .equals _ null imprecise bound,
        compared cmp.equal (if_neg imprecise)⟩

/-- The conditions that look for a row are true of the rows that agree with it as it is stored. -/
theorem exists_conditions {identity : List Column} (sub : identity ⊆ s.columns) {image : Members}
    (shows : Shows identity image row) :
    ∃ conditions, List.Forall₂ (Locates parsers image) identity conditions ∧
      ∀ x : Row, cmp.whereTruth x conditions = .true ↔
        cmp.Agree identity x (stored parsers s row) := by
  induction identity with
  | nil => exact ⟨[], .nil, fun x => by simp [Comparison.whereTruth, Comparison.Agree]⟩
  | cons c cs ih =>
    obtain ⟨a, located, same⟩ :=
      exists_condition cmp proper h (sub List.mem_cons_self) (shows c List.mem_cons_self)
    obtain ⟨atoms, rest, agree⟩ := ih (fun d hd => sub (List.mem_cons_of_mem c hd))
      fun d hd => shows d (List.mem_cons_of_mem c hd)
    refine ⟨a :: atoms, .cons located rest, fun x => ?_⟩
    rw [Comparison.whereTruth_eq_true_iff, List.forall_mem_cons, same,
      ← Comparison.whereTruth_eq_true_iff, agree]
    simp only [Comparison.Agree, List.forall_mem_cons]

end Conditions

/-! ### One change -/

theorem get?_map_columns (f : Column → Value) (name : String) :
    Members.get? (s.columns.map fun c => (c.name, f c)) name =
      (s.columns.find? (·.name = name)).map f := by
  rw [Members.get?, Assoc.get?, List.find?_map, Option.map_map]
  rfl

/-- A row without values outside the columns becomes one that is stored when all columns are set
to the values of that. -/
theorem set_stored {x : Row} (outside : ∀ name, s.columns.find? (·.name = name) = none →
    x name = .null) (row : Row) :
    x.set (s.columns.map fun c => (c.name, stored parsers s row c.name)) =
      stored parsers s row := by
  funext name
  rw [Row.set, get?_map_columns]
  cases hf : s.columns.find? (·.name = name) with
  | none =>
    rw [Option.map_none, Option.getD_none, outside name hf, stored, hf]
  | some c =>
    have named : c.name = name := by simpa using List.find?_some hf
    rw [Option.map_some, Option.getD_some, named]

theorem stored_outside (row : Row) (name : String) (h : s.columns.find? (·.name = name) = none) :
    stored parsers s row name = .null := by
  rw [stored, h]

/-- A complete image gives the values of the row as it is stored. -/
theorem stores_of_shows (proper : s.Proper) {row : Row} (h : Storable parsers s row)
    {image : Members} (shows : Shows s.columns image row) : ∀ c ∈ s.columns,
      Stores parsers image c (stored parsers s row c.name) :=
  fun c hc => ⟨row c.name, shows c hc, (h.coerce_eq proper hc).1⟩

theorem TableSchema.Proper.identity_subset (proper : s.Proper) :
    s.identityColumns ⊆ s.columns := by
  unfold TableSchema.identityColumns
  split_ifs
  · exact proper.keys
  · exact List.Subset.refl s.columns

section Step

variable {table : String} {key : Option KeyEnvelope} {value : ValueEnvelope} {row : Row}

/-- An event with the schemas of a table identifies the row that it shows. -/
theorem exists_identifies (described : Describes s key value) {old : Members}
    (hb : value.payload.before = some old) (shows : Shows s.columns old row)
    (keyed : ∀ k, key = some k → Shows s.keyColumns k.payload row) :
    ∃ image, Identifies s value key s.identityColumns image ∧
      Shows s.identityColumns image row := by
  unfold TableSchema.identityColumns
  split_ifs with hasKey
  · cases hk : key with
    | none =>
      have none := described.key
      rw [hk] at none
      obtain none := Except.ok.inj none
      simp [TableSchema.hasKey, ← none] at hasKey
    | some k => exact ⟨k.payload, .key k hasKey, keyed k hk⟩
  · exact ⟨old, .row key old (fun h => absurd h hasKey) hb, shows⟩

/-- A row of the table does not agree with the others. -/
theorem Replicable.not_agree {rest : Multiset Row}
    (h : Replicable cmp parsers s (row ::ₘ rest)) : ∀ other ∈ rest,
      ¬ cmp.Agree s.identityColumns (stored parsers s other) (stored parsers s row) := by
  intro other hother
  obtain ⟨rest, rfl⟩ := Multiset.exists_cons_of_mem hother
  exact h.distinct other (row ::ₘ rest) (Multiset.cons_swap row other rest) row
    (Multiset.mem_cons_self row rest)

/-- An insert of all columns adds the row as it is stored. -/
theorem execute_insert (row : Row) (rows : Multiset Row) :
    (Reading.insert table s.columnNames
      (s.columns.map fun c => stored parsers s row c.name)).execute cmp rows =
        stored parsers s row ::ₘ rows := by
  rw [Reading.execute, TableSchema.columnNames, List.zip_map', set_stored fun _ _ => rfl]

section Conditions

variable {rest : Multiset Row} (replicable : Replicable cmp parsers s (row ::ₘ rest))
  {conditions : List (Atom Value)} (agree : ∀ x : Row, cmp.whereTruth x conditions = .true ↔
    cmp.Agree s.identityColumns x (stored parsers s row))
include replicable agree

/-- An update of all columns under conditions that look for a row changes that row only. -/
theorem execute_update (after : Row) :
    (Reading.update table (s.columns.map fun c => (c.name, stored parsers s after c.name))
      conditions).execute cmp ((row ::ₘ rest).map (stored parsers s)) =
        (after ::ₘ rest).map (stored parsers s) := by
  rw [Reading.execute, Multiset.map_map, Multiset.map_cons, Multiset.map_cons]
  congr 1
  · have found := (agree _).2 (cmp.agree_self s.identityColumns (stored parsers s row))
    rw [Function.comp_apply, if_pos found, set_stored (stored_outside row)]
  · refine Multiset.map_congr rfl fun other hother => ?_
    have passed := mt (agree _).1 (replicable.not_agree other hother)
    rw [Function.comp_apply, if_neg passed]

/-- A delete under such conditions removes that row only. -/
theorem execute_delete :
    (Reading.delete table conditions).execute cmp ((row ::ₘ rest).map (stored parsers s)) =
      rest.map (stored parsers s) := by
  rw [Reading.execute, Multiset.map_cons, Multiset.filter_cons_of_neg, Multiset.filter_eq_self]
  · intro x hx
    obtain ⟨other, hother, rfl⟩ := Multiset.mem_map.1 hx
    exact mt (agree _).1 (replicable.not_agree other hother)
  · rw [not_not]
    exact (agree _).2 (cmp.agree_self s.identityColumns (stored parsers s row))

end Conditions

/-- The statement for a change does to the rows that are stored what the change does to those of
the table. -/
theorem exists_reading (table : String) (proper : s.Proper) (described : Describes s key value)
    {change : Change} (reported : Reports s key value change) {source source' : Multiset Row}
    (applies : change.Applies source source') (before : Replicable cmp parsers s source)
    (after : Replicable cmp parsers s source') :
    ∃ r, Means parsers table s key value r ∧
      r.execute cmp (source.map (stored parsers s)) = source'.map (stored parsers s) := by
  cases applies with
  | insert row =>
    obtain ⟨_, image, hop, ha, shows⟩ | _ | _ := reported
    have storable := after.storable row (Multiset.mem_cons_self row source)
    refine ⟨_, .insert image (s.columns.map fun c => stored parsers s row c.name) hop ha ?_, ?_⟩
    · rw [List.forall₂_map_right_iff, List.forall₂_same]
      exact stores_of_shows proper storable shows
    · rw [execute_insert, Multiset.map_cons]
  | update old new rest =>
    obtain _ | ⟨_, _, oldImage, image, hop, hb, showsOld, ha, shows, keyed⟩ | _ := reported
    have storable := after.storable new (Multiset.mem_cons_self new rest)
    obtain ⟨identity, identified, showsIdentity⟩ := exists_identifies described hb showsOld keyed
    obtain ⟨conditions, located, agree⟩ := exists_conditions cmp proper
      (before.storable old (Multiset.mem_cons_self old rest)) proper.identity_subset showsIdentity
    refine ⟨_, .update image identity s.identityColumns
      (s.columns.map fun c => (c.name, stored parsers s new c.name)) conditions hop ha ?_
      identified located, execute_update before agree new⟩
    rw [List.forall₂_map_right_iff, List.forall₂_same]
    exact fun c hc => ⟨rfl, stores_of_shows proper storable shows c hc⟩
  | delete row =>
    obtain _ | _ | ⟨_, oldImage, hop, hb, shows, keyed⟩ := reported
    obtain ⟨identity, identified, showsIdentity⟩ := exists_identifies described hb shows keyed
    obtain ⟨conditions, located, agree⟩ := exists_conditions cmp proper
      (before.storable row (Multiset.mem_cons_self row source')) proper.identity_subset
      showsIdentity
    exact ⟨_, .delete identity s.identityColumns conditions hop identified located,
      execute_delete before agree⟩

end Step

/-! ### A whole history -/

/-- The outcomes of translating events in order, and the translator behind them. -/
def Translator.translateAll (t : Translator) (shared : ParserTable)
    (events : List (EventKey × EventValue)) :
    List (Except EventError (Option BoundStatement)) × Translator :=
  events.foldl
    (fun (outcomes, t) (key, value) =>
      (outcomes ++ [(t.translate shared key value).1], (t.translate shared key value).2))
    ([], t)

theorem Translator.translateAll_concat (t : Translator) (shared : ParserTable)
    (done : List (EventKey × EventValue)) (key : EventKey) (value : EventValue) :
    t.translateAll shared (done ++ [(key, value)]) =
      ((t.translateAll shared done).1 ++
          [((t.translateAll shared done).2.translate shared key value).1],
        ((t.translateAll shared done).2.translate shared key value).2) :=
  List.foldl_concat _ _ _ _

/-- The policies take the columns of a proper table from the events that describe it. -/
theorem Describes.discover (proper : s.Proper) {key : Option KeyEnvelope} {value : ValueEnvelope}
    (h : Describes s key value) (policy : IdentifierPolicy) :
    policy.discover key value = .ok s := by
  obtain ⟨schema, hs, rows⟩ := h.rows
  have found : TableSchema.ofEnvelopes key value = .ok s := by
    simp only [TableSchema.ofEnvelopes, hs]
    exact bind_eq_ok_iff.2 ⟨_, rows _, bind_eq_ok_iff.2 ⟨_, h.key, rfl⟩⟩
  have taken := policy.checkColumns_of_isColumnName proper.isColumnName
  exact bind_eq_ok_iff.2 ⟨s, found, bind_eq_ok_iff.2 ⟨(), taken, rfl⟩⟩

section Replay

variable {table : String} {policy : IdentifierPolicy} {source : ParserSource} {t : Translator}

/-- The statements for a history bring a relation that is empty at first to the rows of the table
as they are stored. -/
theorem History.replay (fresh : Translator.create (.text table) policy source = .ok t)
    (named : Identifier.isTableName table) (proper : s.Proper) {shared : ParserTable}
    {done : List (EventKey × EventValue)} {rows : Multiset Row}
    (h : History cmp (source.table shared) s done rows) :
    ∃ statements known, (t.translateAll shared done).1 = statements.map (fun st => .ok (some st)) ∧
      (t.translateAll shared done).2.Knows table policy source known ∧
      (∀ s', known = some s' → s' = s) ∧
      Executes cmp table statements 0 (rows.map (stored (source.table shared) s)) := by
  induction h with
  | nil =>
    refine ⟨[], none, rfl, Translator.knows_of_create fresh, by simp, ?_⟩
    rw [Multiset.map_zero]
    exact .nil 0
  | @snoc done rows rows' key value k v change earlier hk hv describes reports applies
      replicable ih =>
    obtain ⟨statements, known, outcomes, knows, same, executes⟩ := ih
    have discovered := describes.discover proper policy
    have event : described policy key value = some s :=
      described_eq_some.2 ⟨k, v, hk, hv, discovered⟩
    have found : known.or (described policy key value) = some s := by
      rw [event]
      cases known with
      | none => rfl
      | some s' => rw [Option.some_or, same s' rfl]
    -- what the translator makes of the event is the statement of the reading that means it
    obtain ⟨r, means, step⟩ :=
      exists_reading table proper describes reports applies earlier.replicable replicable
    have translated := (knows.translate_eq_some_iff (Translator.create_eq_ok fresh).1
      (fun s' hs => same s' hs ▸ ⟨k, v, discovered⟩) shared key value).2
      ⟨s, k, v, r, found, hk, hv, means, rfl⟩
    have wellFormed := means.wellFormed (IdentifierPolicy.discover_ok discovered).1 named
      proper.isColumnName
    refine ⟨statements ++ [r.statement], some s, ?_, ?_, ?_, ?_⟩
    · rw [Translator.translateAll_concat, translated, outcomes, List.map_append]
      rfl
    · rw [Translator.translateAll_concat, ← found]
      exact (knows.translate shared key value).2
    · exact fun s' hs => (Option.some.inj hs).symm
    · rw [← step]
      exact executes.concat ((Reading.reads_statement_iff wellFormed r).2 rfl) means.table_eq

end Replay

/-- After each part of a history the statements that a fresh translator makes of its events, when
they are executed in order on a relation that is empty at first, give exactly the rows of the
table as they are stored. -/
theorem replay_converges (cmp : Comparison) (table : String) (policy : IdentifierPolicy)
    (source : ParserSource) (t : Translator)
    (fresh : Translator.create (.text table) policy source = .ok t)
    (named : Identifier.isTableName table) (shared : ParserTable) (s : TableSchema)
    (proper : s.Proper) (done rest : List (EventKey × EventValue)) (last : Multiset Row)
    (history : History cmp (source.table shared) s (done ++ rest) last) :
    ∃ statements,
      (t.translateAll shared done).1 = statements.map (fun st => .ok (some st)) ∧
      (∃ rows, History cmp (source.table shared) s done rows) ∧
      ∀ rows, History cmp (source.table shared) s done rows →
        ∀ target, Executes cmp table statements 0 target ↔
          target = rows.map (stored (source.table shared) s) := by
  obtain ⟨rows, part⟩ := history.of_append
  obtain ⟨statements, -, outcomes, -⟩ := part.replay fresh named proper
  refine ⟨statements, outcomes, ⟨rows, part⟩, fun rows' part' target => ?_⟩
  obtain ⟨statements', -, outcomes', -, -, executes⟩ := part'.replay fresh named proper
  have same : statements' = statements := by
    have mapped := outcomes'.symm.trans outcomes
    exact (List.map_injective_iff.2 fun a b h => Option.some.inj (Except.ok.inj h)) mapped
  rw [same] at executes
  constructor
  · exact fun h => h.unique executes
  · rintro rfl
    exact executes

/-! ### A history of orders -/

theorem replicable_singleton {row : Row} (h : Storable parsers s row) :
    Replicable cmp parsers s (row ::ₘ 0) := by
  constructor
  · intro other hother
    rwa [Multiset.mem_singleton.1 hother]
  · intro first rest hrest other hother
    obtain ⟨-, rfl⟩ := (Multiset.singleton_eq_cons_iff rest).1 hrest
    exact absurd hother (Multiset.notMem_zero other)

theorem replicable_pair {a b : Row} (ha : Storable parsers s a) (hb : Storable parsers s b)
    (hab : ¬ cmp.Agree s.identityColumns (stored parsers s a) (stored parsers s b))
    (hba : ¬ cmp.Agree s.identityColumns (stored parsers s b) (stored parsers s a)) :
    Replicable cmp parsers s (a ::ₘ b ::ₘ 0) := by
  constructor
  · intro row hrow
    rcases Multiset.mem_cons.1 hrow with rfl | hrow
    · exact ha
    · rwa [Multiset.mem_singleton.1 hrow]
  · intro row rest hrest other hother
    rcases Multiset.cons_eq_cons.1 hrest with ⟨rfl, rfl⟩ | ⟨-, others, hb', rfl⟩
    · rwa [Multiset.mem_singleton.1 hother]
    · obtain ⟨rfl, rfl⟩ := (Multiset.singleton_eq_cons_iff _).1 hb'
      rwa [Multiset.mem_singleton.1 hother]

namespace Orders

/-- The columns of orders, which have no key here. -/
def schema : TableSchema where
  columns := fields.map fun (field, meaning) => ⟨field, "bytes", meaning, [("scale", .int 2)]⟩

/-- An order without a note. -/
def order (id : Int) (price : Value) : Members :=
  [("id", .int id), ("AND", price), ("NULL\n", .null)]

/-- Two orders come, of which one is without a price; it gets another number and the other one
goes. -/
def history : List (EventKey × EventValue) :=
  [(.raw .null, .parsed (event fields "c" none (some (order 1 .null)))),
    (.raw .null, .parsed (event fields "c" none (some (order 1 (.bytes [5]))))),
    (.raw .null, .parsed (event fields "u" (some (order 1 .null)) (some (order 2 .null)))),
    (.raw .null, .parsed (event fields "d" (some (order 1 (.bytes [5]))) none))]

theorem forall_columns {p : Column → Prop} : (∀ c ∈ schema.columns, p c) ↔
    p ⟨"id", "bytes", none, [("scale", .int 2)]⟩ ∧
      p ⟨"AND", "bytes", some fixedScaleDecimal, [("scale", .int 2)]⟩ ∧
      p ⟨"NULL\n", "bytes", none, [("scale", .int 2)]⟩ := by
  simp [schema, fields]

theorem proper : schema.Proper :=
  ⟨by decide, by decide, List.nil_subset _⟩

theorem describes (op : String) (before after : Option Members) :
    Describes schema none (event fields op before after) :=
  ⟨⟨_, rfl, fun which => by cases which <;> rfl⟩, rfl⟩

theorem shows (id : Int) (price : Value) :
    Shows schema.columns (order id price) (Members.get (order id price)) :=
  forall_columns.2 ⟨rfl, rfl, rfl⟩

theorem storable_null (id : Int) :
    Storable (.standard Iso.reader) schema (Members.get (order id .null)) :=
  forall_columns.2 ⟨⟨_, rfl, nofun⟩, ⟨_, rfl, fun _ => rfl⟩, ⟨_, rfl, fun _ => rfl⟩⟩

theorem storable_price (id : Int) :
    Storable (.standard Iso.reader) schema (Members.get (order id (.bytes [5]))) :=
  forall_columns.2 ⟨⟨_, rfl, nofun⟩, ⟨.decimal (.finite false 5 (-2)), rfl, nofun⟩,
    ⟨_, rfl, fun _ => rfl⟩⟩

/-- Orders with and without a price do not agree, however values are compared. -/
theorem not_agree (cmp : Comparison) (id id' : Int) :
    ¬ cmp.Agree schema.identityColumns
        (stored (.standard Iso.reader) schema (Members.get (order id .null)))
        (stored (.standard Iso.reader) schema (Members.get (order id' (.bytes [5])))) ∧
      ¬ cmp.Agree schema.identityColumns
        (stored (.standard Iso.reader) schema (Members.get (order id' (.bytes [5]))))
        (stored (.standard Iso.reader) schema (Members.get (order id .null))) := by
  constructor
  · intro agree
    rcases (forall_columns.1 agree).2.1 with ⟨-, null⟩ | ⟨filled, -, -⟩
    · cases null
    · exact filled rfl
  · intro agree
    rcases (forall_columns.1 agree).2.1 with ⟨null, -⟩ | ⟨-, filled, -⟩
    · cases null
    · exact filled rfl

theorem history_concat (cmp : Comparison) {done : List (EventKey × EventValue)}
    {rows rows' : Multiset Row} (h : History cmp (.standard Iso.reader) schema done rows)
    (op : String) (before after : Option Members) {change : Change}
    (reports : Reports schema none (event fields op before after) change)
    (applies : change.Applies rows rows')
    (replicable : Replicable cmp (.standard Iso.reader) schema rows') :
    History cmp (.standard Iso.reader) schema
      (done ++ [(.raw .null, .parsed (event fields op before after))]) rows' :=
  h.snoc rfl rfl (describes op before after) reports applies replicable

theorem history_rows (cmp : Comparison) :
    History cmp (.standard Iso.reader) schema history (Members.get (order 2 .null) ::ₘ 0) := by
  have priced (id : Int) : Replicable cmp (.standard Iso.reader) schema
      (Members.get (order 1 (.bytes [5])) ::ₘ Members.get (order id .null) ::ₘ 0) :=
    replicable_pair (storable_price 1) (storable_null id) (not_agree cmp id 1).2
      (not_agree cmp id 1).1
  have first := history_concat cmp .nil "c" none (some (order 1 .null))
    (.insert _ _ rfl rfl (shows 1 .null)) (.insert _ 0) (replicable_singleton (storable_null 1))
  have second := history_concat cmp first "c" none (some (order 1 (.bytes [5])))
    (.insert _ _ rfl rfl (shows 1 (.bytes [5]))) (.insert _ _) (priced 1)
  rw [Multiset.cons_swap] at second
  have third := history_concat cmp second "u" (some (order 1 .null)) (some (order 2 .null))
    (.update _ _ _ _ rfl rfl (shows 1 .null) rfl (shows 2 .null) nofun) (.update _ _ _)
    (by rw [Multiset.cons_swap]; exact priced 2)
  rw [Multiset.cons_swap] at third
  exact history_concat cmp third "d" (some (order 1 (.bytes [5]))) none
    (.delete _ _ rfl rfl (shows 1 (.bytes [5])) nofun) (.delete _ _)
    (replicable_singleton (storable_null 2))

end Orders

/-- Of the orders one is left, under its new number and still without a price. -/
theorem replay_converges_orders :
    Translator.create (.text "public.orders") .strict (.standard Iso.reader) =
      .ok Orders.translator ∧
    History Comparison.exact (.standard Iso.reader) Orders.schema Orders.history
      (Members.get (Orders.order 2 .null) ::ₘ 0) ∧
    ∃ statements,
      (Orders.translator.translateAll .empty Orders.history).1 =
        statements.map (fun st => .ok (some st)) ∧
      ∀ target, Executes Comparison.exact "public.orders" statements 0 target ↔
        target = stored (.standard Iso.reader) Orders.schema
          (Members.get (Orders.order 2 .null)) ::ₘ 0 := by
  have rows := Orders.history_rows Comparison.exact
  obtain ⟨statements, outcomes, -, executes⟩ := replay_converges Comparison.exact "public.orders"
    .strict (.standard Iso.reader) Orders.translator Orders.create_eq (by decide) .empty
    Orders.schema Orders.proper Orders.history [] _ rows
  exact ⟨Orders.create_eq, rows, statements, outcomes, executes _ rows⟩

end Changefeed
