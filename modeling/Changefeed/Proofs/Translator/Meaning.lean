import Mathlib.Data.List.Forall2
import Changefeed.Proofs.Statement.Reading
import Changefeed.Proofs.Translator.Session

/-!
# What statements mean

`Means` says from an event and the columns of its table alone what a statement for it has to read:
which columns with which values, and which conditions in order.  The statement that is built is the
text of such a reading with its values (`Translator.freshStatement_eq_ok_iff`), and under the strict
policy that text has no other parse.
-/

namespace Changefeed

/-! ### The meaning of an event -/

/-- The columns that locate the changed row, with the members that hold their values: those of the
key where the table and the event have one, else the row before the change. -/
inductive Identifies (s : TableSchema) (value : ValueEnvelope) :
    Option KeyEnvelope → List Column → Members → Prop where
  | key (k : KeyEnvelope) : s.hasKey → Identifies s value (some k) s.keyColumns k.payload
  | row (key : Option KeyEnvelope) (before : Members) : (s.hasKey → key = none) →
      value.payload.before = some before → Identifies s value key s.columns before

/-- The value that is bound for a column, which the image of the row has to hold. -/
def Stores (parsers : ParserTable) (image : Members) (c : Column) (w : Value) : Prop :=
  ∃ raw, image.get? c.name = some raw ∧ coerce parsers c raw = .ok w

/-- The condition on a column of the row that is looked for: a value that is null or absent is
tested for, any other is compared with what is bound for it. -/
inductive Locates (parsers : ParserTable) (row : Members) (c : Column) : Atom Value → Prop where
  | isNull : row.get c.name = .null → Locates parsers row c (.isNull c.name)
  | equals (w : Value) : row.get c.name ≠ .null → ¬ c.isImprecise →
      coerce parsers c (row.get c.name) = .ok w → Locates parsers row c (.equals c.name w)
  | equalsNumeric (w : Value) : row.get c.name ≠ .null → c.isImprecise →
      coerce parsers c (row.get c.name) = .ok w → Locates parsers row c (.equalsNumeric c.name w)

/-- The columns that are set, each to what is bound for it. -/
def Assigns (parsers : ParserTable) (image : Members) (c : Column) (a : String × Value) : Prop :=
  a.1 = c.name ∧ Stores parsers image c a.2

/-- The reading of a statement for an event of a table with columns `s`. -/
inductive Means (parsers : ParserTable) (table : String) (s : TableSchema)
    (key : Option KeyEnvelope) (value : ValueEnvelope) : Reading Value → Prop where
  | insert (after : Members) (values : List Value) :
      value.payload.operation = some .create → value.payload.after = some after →
      List.Forall₂ (Stores parsers after) s.columns values →
      Means parsers table s key value (.insert table s.columnNames values)
  | update (after row : Members) (identity : List Column) (assignments : List (String × Value))
      (conditions : List (Atom Value)) :
      value.payload.operation = some .update → value.payload.after = some after →
      List.Forall₂ (Assigns parsers after) s.columns assignments →
      Identifies s value key identity row →
      List.Forall₂ (Locates parsers row) identity conditions →
      Means parsers table s key value (.update table assignments conditions)
  | delete (row : Members) (identity : List Column) (conditions : List (Atom Value)) :
      value.payload.operation = some .delete → Identifies s value key identity row →
      List.Forall₂ (Locates parsers row) identity conditions →
      Means parsers table s key value (.delete table conditions)

/-! ### Values that are bound -/

variable {parsers : ParserTable} {table : String} {s : TableSchema} {key : Option KeyEnvelope}
  {value : ValueEnvelope} {ws : List Value}

theorem coerceAll_nil : coerceAll parsers [] [] = .ok ws ↔ ws = [] := by
  simp [coerceAll, eq_comm]

theorem coerceAll_cons {c : Column} {cs : List Column} {v : Value} {vs : List Value} :
    coerceAll parsers (c :: cs) (v :: vs) = .ok ws ↔
      ∃ a as, coerce parsers c v = .ok a ∧ coerceAll parsers cs vs = .ok as ∧ ws = a :: as := by
  rw [coerceAll, bind_eq_ok_iff]
  constructor
  · rintro ⟨a, ha, rest⟩
    obtain ⟨as, has, h⟩ := bind_eq_ok_iff.1 rest
    exact ⟨a, as, ha, has, (Except.ok.inj h).symm⟩
  · rintro ⟨a, as, ha, has, rfl⟩
    exact ⟨a, ha, bind_eq_ok_iff.2 ⟨as, has, rfl⟩⟩

theorem coerceAll_map (f : Column → Value) (cs : List Column) :
    coerceAll parsers cs (cs.map f) = .ok ws ↔
      List.Forall₂ (fun c w => coerce parsers c (f c) = .ok w) cs ws := by
  induction cs generalizing ws with
  | nil => rw [List.map_nil, coerceAll_nil, List.forall₂_nil_left_iff]
  | cons c cs ih => simp only [List.map_cons, coerceAll_cons, ih, List.forall₂_cons_left_iff]

theorem coerceAll_append (f : Column → Value) (cs ds : List Column) (us : List Value) :
    coerceAll parsers (cs ++ ds) (cs.map f ++ us) = .ok ws ↔
      ∃ as bs, coerceAll parsers cs (cs.map f) = .ok as ∧ coerceAll parsers ds us = .ok bs ∧
        ws = as ++ bs := by
  induction cs generalizing ws with
  | nil => simp [coerceAll_nil]
  | cons c cs ih =>
    simp only [List.map_cons, List.cons_append, coerceAll_cons, ih]
    constructor
    · rintro ⟨a, _, ha, ⟨as, bs, has, hbs, rfl⟩, rfl⟩
      exact ⟨a :: as, bs, ⟨a, as, ha, has, rfl⟩, hbs, rfl⟩
    · rintro ⟨_, bs, ⟨a, as, ha, has, rfl⟩, hbs, rfl⟩
      exact ⟨a, as ++ bs, ha, ⟨as, bs, has, hbs, rfl⟩, rfl⟩

/-- An image gives values for columns if it holds them all. -/
theorem rowValues_eq_ok {cs : List Column} {which : RowImage} {image : Option Members}
    {vs : List Value} : Plan.rowValues cs which image = .ok vs ↔
      ∃ ms, image = some ms ∧ (∀ c ∈ cs, (ms.get? c.name).isSome) ∧
        vs = cs.map fun c => ms.get c.name := by
  cases image with
  | none => simp [Plan.rowValues]
  | some ms =>
    have complete : (cs.filter fun c => (ms.get? c.name).isNone).isEmpty ↔
        ∀ c ∈ cs, (ms.get? c.name).isSome := by
      simp [List.isEmpty_iff, List.filter_eq_nil_iff, Option.isSome_iff_ne_none]
    simp only [Plan.rowValues]
    split_ifs with h
    · constructor
      · intro hvs
        exact ⟨ms, rfl, complete.1 h, (Except.ok.inj hvs).symm⟩
      · rintro ⟨_, ⟨⟩, -, rfl⟩
        rfl
    · constructor
      · intro hvs
        cases hvs
      · rintro ⟨_, ⟨⟩, all, -⟩
        exact absurd (complete.2 all) h

/-- The values bound for the columns of an image. -/
theorem coerceAll_rowValues {cs : List Column} {ms : Members} :
    ((∀ c ∈ cs, (ms.get? c.name).isSome) ∧
      coerceAll parsers cs (cs.map fun c => ms.get c.name) = .ok ws) ↔
        List.Forall₂ (Stores parsers ms) cs ws := by
  rw [coerceAll_map, ← List.forall₂_and_left]
  constructor
  · refine List.Forall₂.imp fun c w h => ?_
    obtain ⟨raw, hraw⟩ := Option.isSome_iff_exists.1 h.1
    exact ⟨raw, hraw, by simpa [Members.get, hraw] using h.2⟩
  · refine List.Forall₂.imp fun c w h => ?_
    obtain ⟨raw, hraw, h⟩ := h
    exact ⟨by simp [hraw], by simpa [Members.get, hraw] using h⟩

/-! ### Conditions -/

theorem Value.isNull_iff {v : Value} : v.isNull ↔ v = .null := by
  cases v <;> simp [Value.isNull]

theorem ofIdentity_cons_of_null {c : Column} {row : Members} (h : row.get c.name = .null)
    (cs : List Column) : WhereBody.ofIdentity (c :: cs) row =
      { WhereBody.ofIdentity cs row with
        conditions := .isNull c.name :: (WhereBody.ofIdentity cs row).conditions } := by
  simp [WhereBody.ofIdentity, Condition.on, h, Value.isNull]

theorem ofIdentity_cons {c : Column} {row : Members} (h : row.get c.name ≠ .null)
    (cs : List Column) : WhereBody.ofIdentity (c :: cs) row =
      { conditions := .on c (row.get c.name) :: (WhereBody.ofIdentity cs row).conditions
        columns := c :: (WhereBody.ofIdentity cs row).columns
        values := row.get c.name :: (WhereBody.ofIdentity cs row).values } := by
  have h : (row.get c.name).isNull = false :=
    Bool.eq_false_iff.2 (mt Value.isNull_iff.1 h)
  simp [WhereBody.ofIdentity, h]

theorem locates_of_null {c : Column} {row : Members} (h : row.get c.name = .null)
    {a : Atom Value} : Locates parsers row c a ↔ a = .isNull c.name := by
  constructor
  · rintro (- | ⟨_, h', -, -⟩ | ⟨_, h', -, -⟩)
    · rfl
    · exact absurd h h'
    · exact absurd h h'
  · rintro rfl
    exact .isNull h

/-- A value that is not null is compared. -/
theorem locates_iff {c : Column} {row : Members} (h : row.get c.name ≠ .null) {a : Atom Value} :
    Locates parsers row c a ↔ ∃ w, coerce parsers c (row.get c.name) = .ok w ∧
      a = if c.isImprecise then .equalsNumeric c.name w else .equals c.name w := by
  constructor
  · rintro (h' | ⟨w, -, plain, hw⟩ | ⟨w, -, imprecise, hw⟩)
    · exact absurd h' h
    · exact ⟨w, hw, (if_neg plain).symm⟩
    · exact ⟨w, hw, (if_pos imprecise).symm⟩
  · rintro ⟨w, hw, rfl⟩
    split_ifs with imprecise
    · exact .equalsNumeric w h imprecise hw
    · exact .equals w h imprecise hw

/-- The conditions on columns are those of atoms that locate them, and the values of these are what
is bound. -/
theorem coerceAll_ofIdentity {cs : List Column} {row : Members} :
    coerceAll parsers (WhereBody.ofIdentity cs row).columns (WhereBody.ofIdentity cs row).values =
        .ok ws ↔
      ∃ atoms, List.Forall₂ (Locates parsers row) cs atoms ∧
        ws = atoms.filterMap Atom.value? := by
  induction cs generalizing ws with
  | nil => simp [WhereBody.ofIdentity, coerceAll_nil, List.forall₂_nil_left_iff]
  | cons c cs ih =>
    simp only [List.forall₂_cons_left_iff]
    by_cases h : row.get c.name = .null
    · rw [ofIdentity_cons_of_null h, ih]
      simp only [locates_of_null h]
      constructor
      · rintro ⟨atoms, located, rfl⟩
        exact ⟨.isNull c.name :: atoms, ⟨_, atoms, rfl, located, rfl⟩, rfl⟩
      · rintro ⟨_, ⟨_, atoms, rfl, located, rfl⟩, rfl⟩
        exact ⟨atoms, located, rfl⟩
    · rw [ofIdentity_cons h, coerceAll_cons]
      simp only [ih, locates_iff h]
      have bound (w : Value) (atoms : List (Atom Value)) :
          ((if c.isImprecise then .equalsNumeric c.name w else .equals c.name w) ::
            atoms).filterMap Atom.value? = w :: atoms.filterMap Atom.value? := by
        split_ifs <;> rfl
      constructor
      · rintro ⟨w, _, hw, ⟨atoms, located, rfl⟩, rfl⟩
        exact ⟨_, ⟨_, atoms, ⟨w, hw, rfl⟩, located, rfl⟩, (bound w atoms).symm⟩
      · rintro ⟨_, ⟨_, atoms, ⟨w, hw, rfl⟩, located, rfl⟩, rfl⟩
        exact ⟨w, _, hw, ⟨atoms, located, rfl⟩, bound w atoms⟩

theorem text_ofIdentity {cs : List Column} {row : Members} {atoms : List (Atom Value)}
    (h : List.Forall₂ (Locates parsers row) cs atoms) :
    (WhereBody.ofIdentity cs row).text = Reading.whereText atoms := by
  have same : (WhereBody.ofIdentity cs row).conditions.map Condition.text =
      atoms.map Atom.text := by
    induction h with
    | nil => rfl
    | @cons c a cs as located _ ih =>
      have first : (Condition.on c (row.get c.name)).text = a.text := by
        rcases located with h | ⟨w, h, plain, -⟩ | ⟨w, h, imprecise, -⟩
        · rw [Condition.on, if_pos (Value.isNull_iff.2 h)]
          rfl
        · rw [Condition.on, if_neg (mt Value.isNull_iff.1 h), if_neg plain]
          rfl
        · rw [Condition.on, if_neg (mt Value.isNull_iff.1 h), if_pos imprecise]
          rfl
      show _ :: (WhereBody.ofIdentity cs row).conditions.map Condition.text = _ :: _
      rw [ih, first]
  rw [WhereBody.text, same, Reading.whereText]

/-- A table with columns has some that locate a row. -/
theorem Identifies.ne_nil (filled : s.columns ≠ []) {identity : List Column} {row : Members}
    (h : Identifies s value key identity row) : identity ≠ [] := by
  rcases h with ⟨k, hasKey⟩ | ⟨_, before, -, -⟩
  · simpa [TableSchema.hasKey] using hasKey
  · exact filled

theorem identity_eq_ok {identity : List Column} {row : Members} :
    Plan.identity s key value = .ok (identity, row) ↔ Identifies s value key identity row := by
  have byRow (hs : s.hasKey → key = none) :
      Plan.identity s key value = .ok (identity, row) ↔ Identifies s value key identity row := by
    unfold Plan.identity
    split
    next k hasKey => exact nomatch hs hasKey
    next =>
      cases hb : value.payload.before with
      | none =>
        constructor
        · rintro ⟨⟩
        · rintro (⟨k, hasKey⟩ | ⟨_, _, -, hb'⟩)
          · exact nomatch hs hasKey
          · exact nomatch hb.symm.trans hb'
      | some before =>
        simp only [Except.ok.injEq, Prod.mk.injEq]
        constructor
        · rintro ⟨rfl, rfl⟩
          exact .row _ before hs hb
        · rintro (⟨k, hasKey⟩ | ⟨_, _, -, hb'⟩)
          · exact nomatch hs hasKey
          · exact ⟨rfl, Option.some.inj (hb.symm.trans hb')⟩
  cases hs : s.hasKey with
  | false => exact byRow (by simp [hs])
  | true =>
    cases key with
    | none => exact byRow fun _ => rfl
    | some k =>
      simp only [Plan.identity, hs, Except.ok.injEq, Prod.mk.injEq]
      constructor
      · rintro ⟨rfl, rfl⟩
        exact .key k hs
      · rintro (⟨_, -⟩ | ⟨_, _, keyless, -⟩)
        · exact ⟨rfl, rfl⟩
        · exact nomatch keyless hs

theorem location_eq_ok (filled : s.columns ≠ []) {w : WhereBody} :
    Plan.location s key value = .ok w ↔
      ∃ identity row, Identifies s value key identity row ∧
        w = WhereBody.ofIdentity identity row := by
  have body (identity : List Column) (row : Members) (h : identity ≠ []) :
      (WhereBody.ofIdentity identity row).conditions.isEmpty = false := by
    simpa [WhereBody.ofIdentity] using h
  rw [Plan.location, bind_eq_ok_iff]
  constructor
  · rintro ⟨⟨identity, row⟩, chosen, h⟩
    have identified := identity_eq_ok.1 chosen
    refine ⟨identity, row, identified, ?_⟩
    simp only [body identity row (identified.ne_nil filled)] at h
    exact (Except.ok.inj h).symm
  · rintro ⟨identity, row, identified, rfl⟩
    refine ⟨(identity, row), identity_eq_ok.2 identified, ?_⟩
    simp only [body identity row (identified.ne_nil filled)]
    rfl

/-! ### Plans -/

/-- The conditions that a statement ends in. -/
def Reading.conditionText {α : Type} : Reading α → List Char
  | .insert .. => []
  | .update _ _ conditions | .delete _ conditions => whereText conditions

/-- Columns with the values bound for them, taken together. -/
theorem exists_assigns {after : Members} {cs : List Column} :
    (∃ as, List.Forall₂ (Assigns parsers after) cs as ∧ as.map (·.2) = ws) ↔
      List.Forall₂ (Stores parsers after) cs ws := by
  constructor
  · rintro ⟨as, assigned, rfl⟩
    rw [List.forall₂_map_right_iff]
    exact assigned.imp fun c a h => h.2
  · intro h
    induction h with
    | nil => exact ⟨[], .nil, rfl⟩
    | @cons c w _ _ stored _ ih =>
      obtain ⟨as, assigned, rfl⟩ := ih
      exact ⟨(c.name, w) :: as, .cons ⟨rfl, stored⟩ assigned, rfl⟩

theorem assigns_names {after : Members} {as : List (String × Value)}
    (h : List.Forall₂ (Assigns parsers after) s.columns as) : as.map (·.1) = s.columnNames := by
  rw [TableSchema.columnNames]
  generalize s.columns = cs at h
  induction h with
  | nil => rfl
  | cons assigned _ ih => rw [List.map_cons, List.map_cons, assigned.1, ih]

/-- What the plan for an event binds and the conditions it ends in are those of a reading that
means the event. -/
theorem plan_of_means (filled : s.columns ≠ []) {r : Reading Value}
    (means : Means parsers table s key value r) :
    ∃ p, Plan.ofEnvelopes s key value = .ok (some p) ∧
      coerceAll parsers p.columns p.values = .ok r.values ∧ p.kind = r.kind ∧
      p.conditions = r.conditionText := by
  cases means with
  | insert after values hop ha stored =>
    obtain ⟨complete, bound⟩ := coerceAll_rowValues.2 stored
    refine ⟨⟨.insert, s.columns, _, []⟩, ?_, bound, rfl, rfl⟩
    simp only [Plan.ofEnvelopes, hop]
    exact bind_eq_ok_iff.2 ⟨_, rowValues_eq_ok.2 ⟨after, ha, complete, rfl⟩, rfl⟩
  | update after row identity assignments conditions hop ha assigned identified located =>
    obtain ⟨complete, bound⟩ := coerceAll_rowValues.2 (exists_assigns.1 ⟨_, assigned, rfl⟩)
    have compared := coerceAll_ofIdentity.2 ⟨conditions, located, rfl⟩
    refine ⟨⟨.update, _, _, _⟩, ?_,
      (coerceAll_append _ _ _ _).2 ⟨_, _, bound, compared, rfl⟩, rfl, text_ofIdentity located⟩
    simp only [Plan.ofEnvelopes, hop]
    refine bind_eq_ok_iff.2 ⟨_, rowValues_eq_ok.2 ⟨after, ha, complete, rfl⟩, ?_⟩
    exact bind_eq_ok_iff.2 ⟨_, (location_eq_ok filled).2 ⟨identity, row, identified, rfl⟩, rfl⟩
  | delete row identity conditions hop identified located =>
    refine ⟨⟨.delete, _, _, _⟩, ?_, coerceAll_ofIdentity.2 ⟨conditions, located, rfl⟩, rfl,
      text_ofIdentity located⟩
    simp only [Plan.ofEnvelopes, hop]
    exact bind_eq_ok_iff.2 ⟨_, (location_eq_ok filled).2 ⟨identity, row, identified, rfl⟩, rfl⟩

theorem means_of_plan (filled : s.columns ≠ []) {p : Plan}
    (planned : Plan.ofEnvelopes s key value = .ok (some p))
    (bound : coerceAll parsers p.columns p.values = .ok ws) :
    ∃ r, Means parsers table s key value r ∧ r.values = ws ∧ r.kind = p.kind ∧
      r.conditionText = p.conditions := by
  unfold Plan.ofEnvelopes at planned
  split at planned
  next hop =>
    obtain ⟨vs, hvs, h⟩ := bind_eq_ok_iff.1 planned
    obtain ⟨after, ha, complete, rfl⟩ := rowValues_eq_ok.1 hvs
    obtain rfl := Option.some.inj (Except.ok.inj h)
    exact ⟨_, .insert after ws hop ha (coerceAll_rowValues.1 ⟨complete, bound⟩), rfl, rfl, rfl⟩
  next hop =>
    obtain ⟨vs, hvs, h⟩ := bind_eq_ok_iff.1 planned
    obtain ⟨after, ha, complete, rfl⟩ := rowValues_eq_ok.1 hvs
    obtain ⟨w, hw, h⟩ := bind_eq_ok_iff.1 h
    obtain ⟨identity, row, identified, rfl⟩ := (location_eq_ok filled).1 hw
    obtain rfl := Option.some.inj (Except.ok.inj h)
    obtain ⟨as, bs, set, compared, rfl⟩ := (coerceAll_append _ _ _ _).1 bound
    obtain ⟨assignments, assigned, rfl⟩ :=
      exists_assigns.2 (coerceAll_rowValues.1 ⟨complete, set⟩)
    obtain ⟨conditions, located, rfl⟩ := coerceAll_ofIdentity.1 compared
    exact ⟨_, .update after row identity assignments conditions hop ha assigned identified located,
      rfl, rfl, (text_ofIdentity located).symm⟩
  next hop =>
    obtain ⟨w, hw, h⟩ := bind_eq_ok_iff.1 planned
    obtain ⟨identity, row, identified, rfl⟩ := (location_eq_ok filled).1 hw
    obtain rfl := Option.some.inj (Except.ok.inj h)
    obtain ⟨conditions, located, rfl⟩ := coerceAll_ofIdentity.1 bound
    exact ⟨_, .delete row identity conditions hop identified located, rfl, rfl,
      (text_ofIdentity located).symm⟩
  next => cases planned

/-! ### Statements -/

theorem insertText_eq {names : List String} {values : List Value}
    (h : names.length = values.length) :
    insertText table names = (Reading.insert table names values).text := by
  have marks : (names.map fun _ => [placeholder]) = values.map fun _ => "?".toList := by
    rw [List.map_const', List.map_const', h]
    rfl
  dsimp only [insertText, Reading.text, commaSeparated]
  rw [marks]
  simp only [List.append_assoc]

theorem updateText_append {assignments : List (String × Value)} (conditions : List (Atom Value)) :
    updateText table (assignments.map (·.1)) ++ Reading.whereText conditions =
      (Reading.update table assignments conditions).text := by
  dsimp only [updateText, Reading.text, commaSeparated]
  rw [List.map_map]
  simp only [List.append_assoc]
  rfl

theorem deleteText_append (conditions : List (Atom Value)) :
    deleteText table ++ Reading.whereText conditions =
      (Reading.delete table conditions).text := by
  dsimp only [deleteText, Reading.text]
  simp only [List.append_assoc]

/-- What statements of a kind start with and the conditions make up the text of a reading. -/
theorem template_append {r : Reading Value} (means : Means parsers table s key value r) :
    template r.kind table s ++ String.ofList r.conditionText = String.ofList r.text := by
  cases means with
  | insert after values _ _ stored =>
    have same : s.columnNames.length = values.length := by
      rw [TableSchema.columnNames, List.length_map, stored.length_eq]
    show String.ofList (insertText table s.columnNames) ++ String.ofList [] = _
    rw [insertText_eq same, ← String.ofList_append, List.append_nil]
  | update after row identity assignments conditions _ _ assigned _ _ =>
    show String.ofList (updateText table s.columnNames) ++
      String.ofList (Reading.whereText conditions) = _
    rw [← assigns_names assigned, ← String.ofList_append, updateText_append]
  | delete row identity conditions _ _ _ =>
    show String.ofList (deleteText table) ++ String.ofList (Reading.whereText conditions) = _
    rw [← String.ofList_append, deleteText_append]

theorem Means.table_eq {r : Reading Value} (means : Means parsers table s key value r) :
    r.table = table := by
  cases means <;> rfl

theorem locates_names {row : Members} {cs : List Column} {atoms : List (Atom Value)}
    (h : List.Forall₂ (Locates parsers row) cs atoms) :
    atoms.map Atom.name = cs.map (·.name) := by
  induction h with
  | nil => rfl
  | @cons c a cs as located _ ih =>
    have first : a.name = c.name := by cases located <;> rfl
    rw [List.map_cons, List.map_cons, ih, first]

theorem Identifies.subset {identity : List Column} {row : Members}
    (h : Identifies s value key identity row) : identity ⊆ s.columns ++ s.keyColumns := by
  rcases h with ⟨k, -⟩ | ⟨_, before, -, -⟩
  · exact List.subset_append_right s.columns s.keyColumns
  · exact List.subset_append_left s.columns s.keyColumns

/-- The names in a reading are those of the table and of its columns. -/
theorem Means.names_subset {r : Reading Value} (means : Means parsers table s key value r) :
    r.names ⊆ table :: (s.columns ++ s.keyColumns).map (·.name) := by
  have columns : s.columnNames ⊆ (s.columns ++ s.keyColumns).map (·.name) :=
    List.map_subset _ (List.subset_append_left s.columns s.keyColumns)
  have conditions {identity : List Column} {row : Members} {atoms : List (Atom Value)}
      (identified : Identifies s value key identity row)
      (located : List.Forall₂ (Locates parsers row) identity atoms) :
      atoms.map Atom.name ⊆ (s.columns ++ s.keyColumns).map (·.name) := by
    rw [locates_names located]
    exact List.map_subset _ identified.subset
  cases means with
  | insert after values _ _ _ => exact List.cons_subset_cons table columns
  | update after row identity assignments atoms _ _ assigned identified located =>
    refine List.cons_subset_cons table (List.append_subset.2 ⟨?_, conditions identified located⟩)
    rwa [assigns_names assigned]
  | delete row identity atoms _ identified located =>
    exact List.cons_subset_cons table (conditions identified located)

theorem bindPlan_eq_ok {start : String} {p : Plan} {st : BoundStatement} :
    Translator.bindPlan table parsers start p = .ok st ↔
      ∃ ws, coerceAll parsers p.columns p.values = .ok ws ∧
        placeholderCount (start ++ String.ofList p.conditions) = ws.length ∧
        st = ⟨table, p.kind, start ++ String.ofList p.conditions, ws⟩ := by
  unfold Translator.bindPlan
  cases coerceAll parsers p.columns p.values with
  | error e => simp
  | ok ws =>
    simp only [BoundStatement.bind, Except.ok.injEq, exists_eq_left']
    split_ifs with h
    · simp [h, eq_comm]
    · simp [h]

theorem Translator.freshStatement_eq_ok {st : BoundStatement} :
    freshStatement table parsers s key value = .ok (some st) ↔
      ∃ p, Plan.ofEnvelopes s key value = .ok (some p) ∧
        bindPlan table parsers (Changefeed.template p.kind table s) p = .ok st := by
  unfold freshStatement
  rcases Plan.ofEnvelopes s key value with e | _ | p
  · simp
  · simp
  · cases hb : bindPlan table parsers (Changefeed.template p.kind table s) p <;>
      simp [Except.map, hb]

/-- A statement for an event is one whose text and values are those of a reading that means it. -/
theorem Translator.freshStatement_eq_ok_iff (filled : s.columns ≠ [])
    (free : ∀ n ∈ table :: (s.columns ++ s.keyColumns).map (·.name), placeholder ∉ n.toList)
    {st : BoundStatement} :
    freshStatement table parsers s key value = .ok (some st) ↔
      ∃ r, Means parsers table s key value r ∧ st = r.statement := by
  simp only [freshStatement_eq_ok, bindPlan_eq_ok]
  constructor
  · rintro ⟨p, planned, ws, bound, -, rfl⟩
    obtain ⟨r, means, rfl, kind, conditions⟩ := means_of_plan filled planned bound
    refine ⟨r, means, ?_⟩
    rw [← kind, ← conditions, template_append means, Reading.statement, means.table_eq]
  · rintro ⟨r, means, rfl⟩
    obtain ⟨p, planned, bound, kind, conditions⟩ := plan_of_means filled means
    refine ⟨p, planned, r.values, bound, ?_, ?_⟩
    · rw [kind, conditions, template_append means, placeholderCount, String.toList_ofList]
      exact r.count_text fun n hn => free n (means.names_subset hn)
    · rw [kind, conditions, template_append means, Reading.statement, means.table_eq]

theorem ne_nil_of_forall₂ {α β : Type} {R : α → β → Prop} {as : List α} {bs : List β}
    (h : List.Forall₂ R as bs) (filled : as ≠ []) : bs ≠ [] := by
  rintro rfl
  exact filled (List.forall₂_nil_right_iff.1 h)

/-- The reading of a statement is well-formed if the names are such as the strict policy takes. -/
theorem Means.wellFormed (filled : s.columns ≠ []) (named : Identifier.isTableName table)
    (valid : ∀ c ∈ s.columns ++ s.keyColumns, Identifier.isColumnName c.name) {r : Reading Value}
    (means : Means parsers table s key value r) : r.WellFormed := by
  have accepted : ∀ n ∈ (s.columns ++ s.keyColumns).map (·.name), Identifier.isColumnName n := by
    simpa only [List.forall_mem_map] using valid
  have columns : ∀ n ∈ s.columnNames, Identifier.isColumnName n := fun n hn =>
    accepted n (List.map_subset _ (List.subset_append_left s.columns s.keyColumns) hn)
  have conditions {identity : List Column} {row : Members} {atoms : List (Atom Value)}
      (identified : Identifies s value key identity row)
      (located : List.Forall₂ (Locates parsers row) identity atoms) :
      (∀ a ∈ atoms, Identifier.isColumnName a.name) ∧ atoms ≠ [] := by
    refine ⟨fun a ha => ?_, ne_nil_of_forall₂ located (identified.ne_nil filled)⟩
    have ha := List.mem_map_of_mem (f := Atom.name) ha
    rw [locates_names located] at ha
    exact accepted _ (List.map_subset _ identified.subset ha)
  cases means with
  | insert after values _ _ stored =>
    refine ⟨named, columns, ?_, ne_nil_of_forall₂ stored filled⟩
    simpa [TableSchema.columnNames] using filled
  | update after row identity assignments atoms _ _ assigned identified located =>
    refine ⟨named, fun a ha => columns _ ?_, ne_nil_of_forall₂ assigned filled,
      conditions identified located⟩
    rw [← assigns_names assigned]
    exact List.mem_map_of_mem ha
  | delete row identity atoms _ identified located =>
    exact ⟨named, conditions identified located⟩

/-! ### Sessions -/

/-- What handling an event gives back is what translating it gives. -/
theorem Workplace.translate_of_process {σ : Type} {ex : Executor σ} {w : Workplace σ}
    {shared : ParserTable} {key : EventKey} {value : EventValue} {st : BoundStatement}
    (h : (w.process ex shared key value).1 = .ok (some st)) :
    (w.translator.translate shared key value).1 = .ok (some st) := by
  unfold Workplace.process at h
  generalize w.translator.translate shared key value = translated at h ⊢
  obtain ⟨e | _ | st', t⟩ := translated
  · cases h
  · cases h
  · simp only [Workplace.apply] at h
    split at h
    · obtain rfl := Option.some.inj (Except.ok.inj h)
      rfl
    · cases h

/-- No name that stands in a statement holds a placeholder. -/
theorem IdentifierPolicy.placeholder_not_mem_of_discover {policy : IdentifierPolicy}
    (named : policy.checkTable (.text table) = .ok table)
    (h : policy.discover key value = .ok s) :
    ∀ n ∈ table :: (s.columns ++ s.keyColumns).map (·.name), placeholder ∉ n.toList := by
  intro n hn
  rcases List.mem_cons.1 hn with rfl | hn
  · exact (checkTable_eq_ok named).2
  · obtain ⟨c, hc, rfl⟩ := List.mem_map.1 hn
    exact placeholder_not_mem_of_checkColumns (discover_ok h).2 c hc

theorem Translator.columnsFor_eq_ok_iff_or_described {policy : IdentifierPolicy}
    {known : Option TableSchema} {eventKey : EventKey} {eventValue : EventValue}
    (hk : eventKey.envelope = .ok key) (hv : eventValue.envelope = .ok value) :
    columnsFor policy known key value = .ok s ↔
      known.or (described policy eventKey eventValue) = some s := by
  rw [columnsFor_eq_ok_iff, described, hk, hv]

/-- The columns that a translator works with were described by an event. -/
theorem Translator.exists_discover_of_or_described {policy : IdentifierPolicy}
    {known : Option TableSchema} {key : EventKey} {value : EventValue}
    (seen : ∀ s, known = some s → ∃ key value, policy.discover key value = .ok s)
    (h : known.or (described policy key value) = some s) :
    ∃ key value, policy.discover key value = .ok s := by
  rcases Option.or_eq_some_iff.1 h with h | ⟨-, h⟩
  · exact seen s h
  · obtain ⟨k, v, -, -, hd⟩ := described_eq_some.1 h
    exact ⟨k, v, hd⟩

/-- A translator makes a statement of an event when its envelopes can be read, the columns of the
table are known with it, and the statement's reading means the event. -/
theorem Translator.Knows.translate_eq_some_iff {t : Translator} {policy : IdentifierPolicy}
    {source : ParserSource} {known : Option TableSchema} (h : t.Knows table policy source known)
    (named : policy.checkTable (.text table) = .ok table)
    (seen : ∀ s, known = some s → ∃ key value, policy.discover key value = .ok s)
    (shared : ParserTable) (key : EventKey) (value : EventValue) {st : BoundStatement} :
    (t.translate shared key value).1 = .ok (some st) ↔
      ∃ s k v r, known.or (described policy key value) = some s ∧ key.envelope = .ok k ∧
        value.envelope = .ok v ∧ Means (source.table shared) table s k v r ∧ st = r.statement := by
  have spec (s : TableSchema) (hs : known.or (described policy key value) = some s)
      (k : Option KeyEnvelope) (v : ValueEnvelope) :
      freshStatement table (source.table shared) s k v = .ok (some st) ↔
        ∃ r, Means (source.table shared) table s k v r ∧ st = r.statement := by
    obtain ⟨k', v', hd⟩ := exists_discover_of_or_described seen hs
    exact freshStatement_eq_ok_iff (IdentifierPolicy.discover_ok hd).1
      (IdentifierPolicy.placeholder_not_mem_of_discover named hd)
  rw [(h.translate shared key value).1, outcomeFor_eq_ok_iff]
  constructor
  · rintro ⟨k, v, s, hk, hv, hs, hst⟩
    have found := (columnsFor_eq_ok_iff_or_described hk hv).1 hs
    obtain ⟨r, means, rfl⟩ := (spec s found k v).1 hst
    exact ⟨s, k, v, r, found, hk, hv, means, rfl⟩
  · rintro ⟨s, k, v, r, found, hk, hv, means, rfl⟩
    exact ⟨k, v, s, hk, hv, (columnsFor_eq_ok_iff_or_described hk hv).2 found,
      (spec s found k v).2 ⟨r, means, rfl⟩⟩

/-- Under the strict policy a statement has one parse; with the parameters at its placeholders it
means the event, for the columns that the translator then knows. -/
theorem translate_reads {σ : Type} (ex : Executor σ) (table : String) (source : ParserSource)
    (t : Translator) (fresh : Translator.create (.text table) .strict source = .ok t) (m : Metrics)
    (x : σ) (calls : List Call) (shared : ParserTable) (key : EventKey) (value : EventValue)
    (st : BoundStatement) :
    let w := (Workplace.mk t m x).after ex calls
    (w.translator.translate shared key value).1 = .ok (some st) ∨
        (w.process ex shared key value).1 = .ok (some st) →
      ∃ s k v r, (w.translator.translate shared key value).2.schema = some s ∧
        (w.process ex shared key value).2.translator.schema = some s ∧
        key.envelope = .ok k ∧ value.envelope = .ok v ∧
        Means (source.table shared) table s k v r ∧ st.table = table ∧ st.kind = r.kind ∧
        (∀ parse, Reading.Parses st.sql parse ↔ parse = r.shape) ∧
        ∀ bound, st.Reads bound ↔ bound = r := by
  intro w produced
  have produced : (w.translator.translate shared key value).1 = .ok (some st) :=
    produced.elim id Workplace.translate_of_process
  have knows := Workplace.knows_of_create ex fresh m x calls
  obtain ⟨s, k, v, r, found, hk, hv, means, rfl⟩ :=
    (knows.translate_eq_some_iff (Translator.create_eq_ok fresh).1
      (fun s hs => exists_discover hs) shared key value).1 produced
  have known (call : Call) (same : call.describes .strict = described .strict key value) :
      (w.step ex call).translator.schema = some s := by
    rw [(Workplace.knows_step ex knows call).schema_eq, same, found]
  have found : discovered .strict (calls ++ [.translate shared key value]) = some s := by
    rwa [discovered_concat]
  obtain ⟨_, _, discovered⟩ := exists_discover found
  obtain ⟨filled, valid⟩ := IdentifierPolicy.discover_ok discovered
  have named := (IdentifierPolicy.checkTable_strict_eq_ok (Translator.create_eq_ok fresh).1).2
  have wellFormed := means.wellFormed filled named fun c hc =>
    have accepted := (IdentifierPolicy.checkColumns_strict_eq_ok_iff s).1 valid
    (List.mem_append.1 hc).elim (accepted.1 c) (accepted.2 c)
  exact ⟨s, k, v, r, known (.translate shared key value) rfl, known (.process shared key value) rfl,
    hk, hv, means, means.table_eq, rfl, Reading.parses_statement_iff wellFormed,
    Reading.reads_statement_iff wellFormed⟩

/-- A delete that looks for a null and for a decimal, in a table of awkward names. -/
theorem translate_reads_orders :
    let w := (Workplace.mk Orders.translator {} Orders.failing).after DryRun.executor.faulty
      Orders.calls
    let st : BoundStatement := ⟨"public.orders", .delete,
      "DELETE FROM public.orders WHERE id IS NULL AND AND::numeric = ?",
      [.decimal (.finite false 5 (-2))]⟩
    Translator.create (.text "public.orders") .strict (.standard Iso.reader) =
      .ok Orders.translator ∧
    (w.translator.translate .empty (.parsed (Orders.key [("AND", .bytes [5])]))
      (.parsed (Orders.event [] "d" none none))).1 = .ok (some st) ∧
    ∀ parse, Reading.Parses st.sql parse ↔
      parse = .delete "public.orders" [.isNull "id", .equalsNumeric "AND" ()] := by
  intro w st
  have knows := Workplace.knows_of_create DryRun.executor.faulty Orders.create_eq {} Orders.failing
    Orders.calls
  have produced : (w.translator.translate .empty (.parsed (Orders.key [("AND", .bytes [5])]))
      (.parsed (Orders.event [] "d" none none))).1 = .ok (some st) :=
    (knows.translate .empty _ _).1.trans (by rfl)
  obtain ⟨s, k, v, r, -, -, -, -, -, -, -, parses, -⟩ := translate_reads DryRun.executor.faulty
    "public.orders" (.standard Iso.reader) Orders.translator Orders.create_eq {} Orders.failing
    Orders.calls .empty _ _ st (.inl produced)
  have parse : Reading.Parses st.sql
      (.delete "public.orders" [.isNull "id", .equalsNumeric "AND" ()]) := by
    refine ⟨⟨by decide, by decide, by decide⟩, ?_⟩
    show _ = "DELETE FROM public.orders WHERE id IS NULL AND AND::numeric = ?".toList
    decide
  refine ⟨Orders.create_eq, produced, ?_⟩
  rwa [← (parses _).1 parse] at parses

end Changefeed
