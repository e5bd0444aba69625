import Changefeed.Proofs.Translator.Frame

/-!
# Parsers at work

What a parser table gives for a column and a raw value is `ParserTable.Gives`; the columns and raw
values that the statement for an event binds are `Binds`.  Every parameter of a statement is what
one table of parsers gives for its column and raw value (`Translator.bound_of_translate`): the
shared one as it is at that time, or the standard one.
-/

namespace Changefeed

/-! ### What a table of parsers gives -/

/-- What a table of parsers gives for a raw value of a column: null stays null, any value stays as
it is without a parser for the meaning of the column, and else it is what that parser makes of
it. -/
inductive ParserTable.Gives (parsers : ParserTable) (c : Column) : Value → Value → Prop where
  | null : Gives parsers c .null .null
  | asIs (raw : Value) : raw ≠ .null → parsers.lookup c.semanticType = none →
      Gives parsers c raw raw
  | parsed (raw w : Value) (p : Parser) : raw ≠ .null →
      parsers.lookup c.semanticType = some p → p.run c.parameters raw = .ok w →
      Gives parsers c raw w

variable {parsers : ParserTable} {s : TableSchema} {key : Option KeyEnvelope}
  {value : ValueEnvelope}

theorem coerce_of_unparsed {c : Column} (unparsed : parsers.lookup c.semanticType = none)
    (raw : Value) : coerce parsers c raw = .ok raw := by
  unfold coerce
  split_ifs with null
  · rw [Value.isNull_iff.1 null]
  · cases meaning : c.semanticType with
    | none => rfl
    | some m =>
      rw [meaning] at unparsed
      have unparsed : parsers.find? m = none := unparsed
      simp only [unparsed]

theorem coerce_of_parsed {c : Column} {p : Parser} (found : parsers.lookup c.semanticType = some p)
    {raw w : Value} (given : raw ≠ .null) :
    coerce parsers c raw = .ok w ↔ p.run c.parameters raw = .ok w := by
  unfold coerce
  rw [if_neg (mt Value.isNull_iff.1 given)]
  cases meaning : c.semanticType with
  | none => simp [meaning, ParserTable.lookup] at found
  | some m =>
    rw [meaning] at found
    have found : parsers.find? m = some p := found
    simp only [found]
    cases p.run c.parameters raw <;> simp

theorem coerce_eq_ok_iff {c : Column} {raw w : Value} :
    coerce parsers c raw = .ok w ↔ parsers.Gives c raw w := by
  by_cases given : raw = .null
  · subst given
    constructor
    · intro h
      obtain rfl := Except.ok.inj h
      exact .null
    · rintro (_ | ⟨_, given, -⟩ | ⟨_, _, _, given, -⟩)
      · rfl
      · exact absurd rfl given
      · exact absurd rfl given
  cases found : parsers.lookup c.semanticType with
  | none =>
    rw [coerce_of_unparsed found]
    constructor
    · intro h
      obtain rfl := Except.ok.inj h
      exact .asIs raw given found
    · rintro (_ | _ | ⟨_, _, p, -, found', -⟩)
      · rfl
      · rfl
      · cases found.symm.trans found'
  | some p =>
    rw [coerce_of_parsed found given]
    constructor
    · exact .parsed raw w p given found
    · rintro (_ | ⟨_, -, found'⟩ | ⟨_, _, p', -, found', parsed⟩)
      · exact absurd rfl given
      · cases found.symm.trans found'
      · obtain rfl := Option.some.inj (found.symm.trans found')
        exact parsed

/-! ### What a statement binds -/

/-- The columns of a row that is looked for whose values are compared, with these values. -/
def compared (identity : List Column) (row : Members) : List (Column × Value) :=
  (identity.map fun c => (c, row.get c.name)).filter fun x => !x.2.isNull

/-- The columns and raw values that the statement for an event binds, in the order of its
placeholders. -/
inductive Binds (s : TableSchema) (key : Option KeyEnvelope) (value : ValueEnvelope) :
    List (Column × Value) → Prop where
  | insert (after : Members) : value.payload.operation = some .create →
      value.payload.after = some after → (∀ c ∈ s.columns, (after.get? c.name).isSome) →
      Binds s key value (s.columns.map fun c => (c, after.get c.name))
  | update (after row : Members) (identity : List Column) :
      value.payload.operation = some .update → value.payload.after = some after →
      (∀ c ∈ s.columns, (after.get? c.name).isSome) → Identifies s value key identity row →
      Binds s key value ((s.columns.map fun c => (c, after.get c.name)) ++ compared identity row)
  | delete (row : Members) (identity : List Column) : value.payload.operation = some .delete →
      Identifies s value key identity row → Binds s key value (compared identity row)

theorem Identifies.unique {identity identity' : List Column} {row row' : Members}
    (h : Identifies s value key identity row) (h' : Identifies s value key identity' row') :
    identity = identity' ∧ row = row' := by
  have same := (identity_eq_ok.2 h).symm.trans (identity_eq_ok.2 h')
  simpa using same

/-- What a statement binds the event decides. -/
theorem Binds.unique {xs ys : List (Column × Value)} (h : Binds s key value xs)
    (h' : Binds s key value ys) : xs = ys := by
  cases h with
  | insert after create present complete =>
    cases h' with
    | insert after' _ present' _ => rw [Option.some.inj (present.symm.trans present')]
    | update _ _ _ update | delete _ _ update => exact nomatch create.symm.trans update
  | update after row identity update present complete identified =>
    cases h' with
    | update after' row' identity' _ present' _ identified' =>
      obtain ⟨rfl, rfl⟩ := identified.unique identified'
      rw [Option.some.inj (present.symm.trans present')]
    | insert _ create | delete _ _ create => exact nomatch update.symm.trans create
  | delete row identity delete identified =>
    cases h' with
    | delete row' identity' _ identified' =>
      obtain ⟨rfl, rfl⟩ := identified.unique identified'
      rfl
    | insert _ create | update _ _ _ create => exact nomatch delete.symm.trans create

theorem columns_ofIdentity (identity : List Column) (row : Members) :
    (WhereBody.ofIdentity identity row).columns = (compared identity row).map (·.1) ∧
      (WhereBody.ofIdentity identity row).values = (compared identity row).map (·.2) := by
  simp only [WhereBody.ofIdentity, compared, List.filter_map, List.map_map]
  exact ⟨(List.map_id _).symm, rfl⟩

theorem identifies_of_location {w : WhereBody} (h : Plan.location s key value = .ok w) :
    ∃ identity row, Identifies s value key identity row ∧
      w = WhereBody.ofIdentity identity row := by
  obtain ⟨⟨identity, row⟩, chosen, h⟩ := bind_eq_ok_iff.1 h
  refine ⟨identity, row, identity_eq_ok.1 chosen, ?_⟩
  dsimp only at h
  split at h
  · cases h
  · exact (Except.ok.inj h).symm

theorem binds_of_plan {p : Plan} (h : Plan.ofEnvelopes s key value = .ok (some p)) :
    ∃ xs, Binds s key value xs ∧ p.columns = xs.map (·.1) ∧ p.values = xs.map (·.2) := by
  have image (after : Members) :
      s.columns = (s.columns.map fun c => (c, after.get c.name)).map (·.1) := by
    rw [List.map_map]
    exact (List.map_id _).symm
  unfold Plan.ofEnvelopes at h
  cases hop : value.payload.operation with
  | none =>
    rw [hop] at h
    cases h
  | some op =>
    rw [hop] at h
    cases op with
    | create =>
      obtain ⟨values, taken, hplan⟩ := bind_eq_ok_iff.1 h
      cases hplan
      obtain ⟨after, present, complete, rfl⟩ := rowValues_eq_ok.1 taken
      exact ⟨_, .insert after hop present complete, image after, by simp⟩
    | update =>
      obtain ⟨values, taken, h⟩ := bind_eq_ok_iff.1 h
      obtain ⟨w, located, hplan⟩ := bind_eq_ok_iff.1 h
      cases hplan
      obtain ⟨after, present, complete, rfl⟩ := rowValues_eq_ok.1 taken
      obtain ⟨identity, row, identified, rfl⟩ := identifies_of_location located
      obtain ⟨columns, values⟩ := columns_ofIdentity identity row
      exact ⟨_, .update after row identity hop present complete identified,
        by rw [columns, List.map_append, ← image], by simp [values]⟩
    | delete =>
      obtain ⟨w, located, hplan⟩ := bind_eq_ok_iff.1 h
      cases hplan
      obtain ⟨identity, row, identified, rfl⟩ := identifies_of_location located
      exact ⟨_, .delete row identity hop identified, columns_ofIdentity identity row⟩
    | read | truncate | message => cases h

theorem coerceAll_pairs {xs : List (Column × Value)} {ws : List Value} :
    coerceAll parsers (xs.map (·.1)) (xs.map (·.2)) = .ok ws ↔
      List.Forall₂ (fun x w => parsers.Gives x.1 x.2 w) xs ws := by
  induction xs generalizing ws with
  | nil => rw [List.map_nil, List.map_nil, coerceAll_nil, List.forall₂_nil_left_iff]
  | cons x xs ih =>
    simp only [List.map_cons, coerceAll_cons, coerce_eq_ok_iff, ih, List.forall₂_cons_left_iff]

/-- Each of the parameters is what a table of parsers gives for its column and raw value in an event
of a table with columns `s`. -/
def ParserTable.Bound (parsers : ParserTable) (s : TableSchema) (key : EventKey)
    (value : EventValue) (parameters : List Value) : Prop :=
  ∃ k v xs, key.envelope = .ok k ∧ value.envelope = .ok v ∧ Binds s k v xs ∧
    List.Forall₂ (fun x w => parsers.Gives x.1 x.2 w) xs parameters

/-- The parameters that are bound the event and the table of parsers decide. -/
theorem ParserTable.Bound.unique {key : EventKey} {value : EventValue} {ps qs : List Value}
    (h : parsers.Bound s key value ps) (h' : parsers.Bound s key value qs) : ps = qs := by
  obtain ⟨k, v, xs, hk, hv, binds, given⟩ := h
  obtain ⟨k', v', ys, hk', hv', binds', given'⟩ := h'
  obtain rfl := Except.ok.inj (hk.symm.trans hk')
  obtain rfl := Except.ok.inj (hv.symm.trans hv')
  obtain rfl := binds.unique binds'
  exact Except.ok.inj ((coerceAll_pairs.2 given).symm.trans (coerceAll_pairs.2 given'))

namespace Translator

variable {t : Translator} {shared : ParserTable}

theorem schema_templateFor (t : Translator) (kind : StatementKind) (s : TableSchema) :
    (t.templateFor kind s).2.schema = t.schema := by
  unfold templateFor
  cases t.templates kind <;> rfl

theorem schema_of_bootstrap {t' : Translator} (h : t.bootstrap key value = (.ok s, t')) :
    t'.schema = some s := by
  unfold bootstrap at h
  split at h
  next known =>
    cases h
    exact known
  next =>
    split at h <;> cases h
    rfl

theorem bound_of_translateEnvelopes {st : BoundStatement}
    (h : (t.translateEnvelopes shared s key value).1 = .ok (some st)) :
    (t.translateEnvelopes shared s key value).2.schema = t.schema ∧
      ∃ xs, Binds s key value xs ∧
        List.Forall₂ (fun x w => (t.parsers.table shared).Gives x.1 x.2 w) xs st.parameters := by
  unfold translateEnvelopes at h ⊢
  cases hp : Plan.ofEnvelopes s key value with
  | error e => simp [hp] at h
  | ok plan =>
    rw [hp] at h
    cases plan with
    | none => cases h
    | some p =>
      refine ⟨t.schema_templateFor p.kind s, ?_⟩
      dsimp only at h
      obtain ⟨b, bound, same⟩ : ∃ b, bindPlan (t.templateFor p.kind s).2.table
          ((t.templateFor p.kind s).2.parsers.table shared) (t.templateFor p.kind s).1 p = .ok b ∧
          b = st := by
        revert h
        generalize bindPlan _ _ _ p = bound
        cases bound <;> simp [Except.map]
      subst same
      rw [(t.templateFor_learns p.kind s).parsers_eq] at bound
      obtain ⟨ws, parsed, -, rfl⟩ := bindPlan_eq_ok.1 bound
      obtain ⟨xs, binds, columns, values⟩ := binds_of_plan hp
      rw [columns, values] at parsed
      exact ⟨xs, binds, coerceAll_pairs.1 parsed⟩

/-- The statement for an event binds what the translator's table of parsers gives, as it is when the
event is translated, and the columns are those that the translator knows by then. -/
theorem bound_of_translate {key : EventKey} {value : EventValue} {st : BoundStatement}
    (h : (t.translate shared key value).1 = .ok (some st)) :
    ∃ s, (t.translate shared key value).2.schema = some s ∧
      (t.parsers.table shared).Bound s key value st.parameters := by
  obtain ⟨k, v, s, t', hk, hv, booted, translated⟩ := exists_translateEnvelopes h
  have learns := t.bootstrap_learns k v
  rw [booted] at learns
  rw [translated] at h ⊢
  obtain ⟨schema, xs, binds, bound⟩ := bound_of_translateEnvelopes h
  rw [learns.parsers_eq] at bound
  exact ⟨s, schema.trans (schema_of_bootstrap booted), k, v, xs, hk, hv, binds, bound⟩

end Translator

end Changefeed
