import Changefeed.Proofs.Translator.Meaning

/-!
# What a translation depends on and changes

A translation only adds to what a translator knows of its table (`Translator.translate_learns`), and
neither uses nor changes its figures (`Translator.translate_withStats`).  Whether there is a
statement for an event, and of which kind, follows from the operation that the event names
(`Translator.translate_eq_ok`), which is the same for the raw event and for its envelope.
-/

namespace Changefeed

/-! ### Operations and kinds of statement -/

namespace Operation

theorem ofCode?_eq_some_iff {s : String} {op : Operation} : ofCode? s = some op ↔ s = op.code := by
  constructor
  · intro h
    have code := List.find?_some h
    exact (of_decide_eq_true code).symm
  · rintro rfl
    exact ofCode?_code op

theorem label_injective {op op' : Operation} (h : op.label = op'.label) : op = op' := by
  cases op <;> cases op' <;> first
    | rfl
    | exact absurd h (by decide)

theorem label_ne_unknown (op : Operation) : op.label ≠ "unknown" := by
  cases op <;> decide

/-- The kind of statement that changes a row as an operation did. -/
def kind? : Operation → Option StatementKind
  | .create => some .insert
  | .update => some .update
  | .delete => some .delete
  | .read | .truncate | .message => none

end Operation

theorem StatementKind.name_injective {k k' : StatementKind} (h : k.name = k'.name) : k = k' := by
  cases k <;> cases k' <;> first
    | rfl
    | exact absurd h (by decide)

/-- The operation on the rows that statements of a kind change. -/
def StatementKind.operation : StatementKind → Operation
  | .insert => .create
  | .update => .update
  | .delete => .delete

theorem Operation.kind?_eq_some_iff {op : Operation} {kind : StatementKind} :
    op.kind? = some kind ↔ op = kind.operation := by
  cases op <;> cases kind <;> simp [kind?, StatementKind.operation]

/-- The operation that an event names, if it is a known one. -/
def EventValue.operation (value : EventValue) : Option Operation :=
  Operation.ofValue? value.op

theorem EventValue.label_eq (value : EventValue) :
    value.label = (value.operation.map Operation.label).getD "unknown" := rfl

theorem EventValue.label_eq_iff {value : EventValue} {op : Operation} :
    value.label = op.label ↔ value.operation = some op := by
  rw [label_eq]
  cases value.operation with
  | none => simpa using op.label_ne_unknown.symm
  | some op' => simpa using ⟨Operation.label_injective, congrArg Operation.label⟩

theorem Workplace.skipReason_eq (value : EventValue) : skipReason value =
    if value.operation = some .read then "snapshot" else "unsupported" := by
  unfold skipReason EventValue.operation
  cases value.op with
  | text s => simp only [Value.isText, Operation.ofValue?, Operation.ofCode?_eq_some_iff,
      decide_eq_true_eq]
  | _ => rfl

/-! ### The operation of an envelope -/

theorem Checked.seq_eq_valid {α β : Type} {f : Checked (α → β)} {x : Checked α} {b : β}
    (h : f <*> x = .valid b) : ∃ g a, f = .valid g ∧ x = .valid a ∧ g a = b := by
  cases f <;> cases x <;> cases h
  exact ⟨_, _, rfl, rfl, rfl⟩

theorem Checked.map_eq_valid {α β : Type} {f : α → β} {x : Checked α} {b : β}
    (h : f <$> x = .valid b) : ∃ a, x = .valid a ∧ f a = b := by
  cases x <;> cases h
  exact ⟨_, rfl, rfl⟩

theorem Members.required_eq_valid {α : Type} {ms : Members} {name : String}
    {check : Value → Checked α} {a : α} (h : ms.required name check = .valid a) :
    ∃ v, ms.get name = v ∧ check v = .valid a := by
  unfold Members.required at h
  unfold Members.get
  cases hv : ms.get? name with
  | none => simp [hv, Checked.problem, Checked.within] at h
  | some v =>
    refine ⟨v, rfl, ?_⟩
    rw [hv] at h
    dsimp only at h
    cases hc : check v <;> rw [hc] at h <;> cases h
    rfl

theorem Members.optional_eq_valid {α : Type} {ms : Members} {name : String} {default a : α}
    {check : Value → Checked α} (h : ms.optional name default check = .valid a) :
    ms.get? name = none ∧ a = default ∨ ∃ v, ms.get? name = some v ∧ check v = .valid a := by
  unfold Members.optional at h
  cases hv : ms.get? name with
  | none =>
    rw [hv] at h
    cases h
    exact .inl ⟨rfl, rfl⟩
  | some v =>
    rw [hv] at h
    dsimp only at h
    cases hc : check v <;> rw [hc] at h <;> cases h
    exact .inr ⟨v, rfl, hc⟩

theorem Payload.checkMembers_eq_valid {ms : Members} {p : Payload}
    (h : checkMembers ms = .valid p) : ms.get "op" = .text p.op := by
  obtain ⟨_, timestamp, untimed, -, rfl⟩ := Checked.seq_eq_valid h
  obtain ⟨_, source, unsourced, -, rfl⟩ := Checked.seq_eq_valid untimed
  obtain ⟨_, op, images, hop, rfl⟩ := Checked.seq_eq_valid unsourced
  obtain ⟨_, after, image, -, rfl⟩ := Checked.seq_eq_valid images
  obtain ⟨before, -, rfl⟩ := Checked.map_eq_valid image
  obtain ⟨v, hv, checked⟩ := Members.required_eq_valid hop
  cases v <;> cases checked
  exact hv

theorem ValueEnvelope.checkMembers_eq_valid {ms : Members} {e : ValueEnvelope}
    (h : checkMembers ms = .valid e) :
    ∃ payload, ms.get "payload" = .object payload ∧
      Members.get payload "op" = .text e.payload.op := by
  obtain ⟨f, p, hf, hp, rfl⟩ := Checked.seq_eq_valid h
  obtain ⟨schema, -, rfl⟩ := Checked.map_eq_valid hf
  obtain ⟨v, hv, checked⟩ := Members.required_eq_valid hp
  cases v with
  | object payload => exact ⟨payload, hv, Payload.checkMembers_eq_valid checked⟩
  | _ => cases checked

/-- The operation code of an event is the one that its envelope has. -/
theorem EventValue.op_of_envelope {value : EventValue} {e : ValueEnvelope}
    (h : value.envelope = .ok e) : value.op = .text e.payload.op := by
  cases value with
  | parsed e' =>
    obtain rfl := Except.ok.inj h
    rfl
  | raw v =>
    cases v with
    | object ms =>
      have checked : ValueEnvelope.checkMembers ms = .valid e := by
        simp only [EventValue.envelope, ValueEnvelope.read, ValueEnvelope.check,
          Value.checkRecord] at h
        cases hc : ValueEnvelope.checkMembers ms with
        | valid e' => rw [hc] at h; rw [Except.ok.inj h]
        | invalid es => rw [hc] at h; cases h
      obtain ⟨payload, hp, hop⟩ := ValueEnvelope.checkMembers_eq_valid checked
      simp only [EventValue.op, hp, hop]
    | _ => cases h

/-- What counters call the operation of an event is what its envelope says. -/
theorem EventValue.operation_of_envelope {value : EventValue} {e : ValueEnvelope}
    (h : value.envelope = .ok e) : value.operation = e.payload.operation := by
  rw [EventValue.operation, op_of_envelope h]
  rfl

namespace Translator

/-! ### What a translation leaves alone -/

/-- One translator is another one that may have learnt more of its table. -/
structure Learns (t t' : Translator) : Prop where
  table_eq : t'.table = t.table
  policy_eq : t'.policy = t.policy
  parsers_eq : t'.parsers = t.parsers
  stats_eq : t'.stats = t.stats

theorem Learns.refl (t : Translator) : t.Learns t :=
  ⟨rfl, rfl, rfl, rfl⟩

theorem Learns.trans {t t' t'' : Translator} (h : t.Learns t') (h' : t'.Learns t'') :
    t.Learns t'' :=
  ⟨h'.table_eq.trans h.table_eq, h'.policy_eq.trans h.policy_eq,
    h'.parsers_eq.trans h.parsers_eq, h'.stats_eq.trans h.stats_eq⟩

theorem bootstrap_learns (t : Translator) (key : Option KeyEnvelope) (value : ValueEnvelope) :
    t.Learns (t.bootstrap key value).2 := by
  unfold bootstrap
  split
  · exact .refl t
  · cases t.policy.discover key value with
    | ok s => exact ⟨rfl, rfl, rfl, rfl⟩
    | error e => exact .refl t

theorem templateFor_learns (t : Translator) (kind : StatementKind) (s : TableSchema) :
    t.Learns (t.templateFor kind s).2 := by
  unfold templateFor
  cases t.templates kind with
  | some text => exact .refl t
  | none => exact ⟨rfl, rfl, rfl, rfl⟩

theorem translateEnvelopes_learns (t : Translator) (shared : ParserTable) (s : TableSchema)
    (key : Option KeyEnvelope) (value : ValueEnvelope) :
    t.Learns (t.translateEnvelopes shared s key value).2 := by
  unfold translateEnvelopes
  rcases Plan.ofEnvelopes s key value with e | _ | p
  · exact .refl t
  · exact .refl t
  · exact t.templateFor_learns p.kind s

theorem translateEvent_learns (t : Translator) (shared : ParserTable) (key : EventKey)
    (value : EventValue) : t.Learns (t.translateEvent shared key value).2 := by
  unfold translateEvent
  rcases key.envelope with e | k
  · exact .refl t
  rcases value.envelope with e | v
  · exact .refl t
  have booted := t.bootstrap_learns k v
  dsimp only
  generalize t.bootstrap k v = b at booted ⊢
  obtain ⟨e | s, t'⟩ := b
  · exact booted
  · exact booted.trans (t'.translateEnvelopes_learns shared s k v)

/-- A translation changes nothing but what is known of the table. -/
theorem translate_learns (t : Translator) (shared : ParserTable) (key : EventKey)
    (value : EventValue) : t.Learns (t.translate shared key value).2 := by
  have learns := t.translateEvent_learns shared key value
  unfold translate
  generalize t.translateEvent shared key value = translated at learns ⊢
  obtain ⟨e | s, t'⟩ := translated
  · exact learns
  · exact learns

/-! ### Figures decide nothing -/

/-- A translator with other figures. -/
def withStats (t : Translator) (stats : Stats) : Translator :=
  { t with stats }

theorem bootstrap_withStats (t : Translator) (stats : Stats) (key : Option KeyEnvelope)
    (value : ValueEnvelope) : (t.withStats stats).bootstrap key value =
      ((t.bootstrap key value).1, (t.bootstrap key value).2.withStats stats) := by
  obtain ⟨table, policy, parsers, state, schema, templates, figures⟩ := t
  simp only [bootstrap, withStats]
  split
  · rfl
  · cases policy.discover key value <;> rfl

theorem templateFor_withStats (t : Translator) (stats : Stats) (kind : StatementKind)
    (s : TableSchema) : (t.withStats stats).templateFor kind s =
      ((t.templateFor kind s).1, (t.templateFor kind s).2.withStats stats) := by
  simp only [templateFor, withStats]
  cases t.templates kind <;> rfl

theorem translateEnvelopes_withStats (t : Translator) (stats : Stats) (shared : ParserTable)
    (s : TableSchema) (key : Option KeyEnvelope) (value : ValueEnvelope) :
    (t.withStats stats).translateEnvelopes shared s key value =
      ((t.translateEnvelopes shared s key value).1,
        (t.translateEnvelopes shared s key value).2.withStats stats) := by
  unfold translateEnvelopes
  rcases Plan.ofEnvelopes s key value with e | _ | p
  · rfl
  · rfl
  · simp only [templateFor_withStats]
    rfl

theorem translateEvent_withStats (t : Translator) (stats : Stats) (shared : ParserTable)
    (key : EventKey) (value : EventValue) : (t.withStats stats).translateEvent shared key value =
      ((t.translateEvent shared key value).1,
        (t.translateEvent shared key value).2.withStats stats) := by
  unfold translateEvent
  rcases key.envelope with e | k
  · rfl
  rcases value.envelope with e | v
  · rfl
  simp only [bootstrap_withStats]
  rcases t.bootstrap k v with ⟨e | s, t'⟩
  · rfl
  · exact t'.translateEnvelopes_withStats stats shared s k v

/-- What a translation gives and learns does not depend on figures, and it leaves them alone. -/
theorem translate_withStats (t : Translator) (stats : Stats) (shared : ParserTable)
    (key : EventKey) (value : EventValue) : (t.withStats stats).translate shared key value =
      ((t.translate shared key value).1, (t.translate shared key value).2.withStats stats) := by
  simp only [translate, translateEvent_withStats]
  rcases t.translateEvent shared key value with ⟨e | s, t'⟩
  · rfl
  · rfl

end Translator

/-! ### The statement of an event -/

theorem Plan.ofEnvelopes_kind {s : TableSchema} {key : Option KeyEnvelope} {value : ValueEnvelope}
    {plan : Option Plan} (h : ofEnvelopes s key value = .ok plan) :
    plan.map (·.kind) = value.payload.operation.bind Operation.kind? := by
  unfold ofEnvelopes at h
  cases hop : value.payload.operation with
  | none =>
    rw [hop] at h
    obtain rfl := Except.ok.inj h
    rfl
  | some op =>
    rw [hop] at h
    cases op with
    | create =>
      obtain ⟨values, -, hplan⟩ := bind_eq_ok_iff.1 h
      obtain rfl := Except.ok.inj hplan
      rfl
    | update =>
      obtain ⟨values, -, h⟩ := bind_eq_ok_iff.1 h
      obtain ⟨w, -, hplan⟩ := bind_eq_ok_iff.1 h
      obtain rfl := Except.ok.inj hplan
      rfl
    | delete =>
      obtain ⟨w, -, hplan⟩ := bind_eq_ok_iff.1 h
      obtain rfl := Except.ok.inj hplan
      rfl
    | read | truncate | message =>
      obtain rfl := Except.ok.inj h
      rfl

namespace Translator

theorem translateEnvelopes_eq_ok {t : Translator} {shared : ParserTable} {s : TableSchema}
    {key : Option KeyEnvelope} {value : ValueEnvelope} {o : Option BoundStatement}
    (h : (t.translateEnvelopes shared s key value).1 = .ok o) :
    o.map (·.kind) = value.payload.operation.bind Operation.kind? ∧
      ∀ b ∈ o, b.table = t.table ∧ placeholderCount b.sql = b.parameters.length := by
  unfold translateEnvelopes at h
  cases hp : Plan.ofEnvelopes s key value with
  | error e => simp [hp] at h
  | ok plan =>
    rw [← Plan.ofEnvelopes_kind hp]
    rw [hp] at h
    cases plan with
    | none =>
      obtain rfl := Except.ok.inj h
      exact ⟨rfl, by simp⟩
    | some p =>
      dsimp only at h
      cases hb : bindPlan (t.templateFor p.kind s).2.table
          ((t.templateFor p.kind s).2.parsers.table shared) (t.templateFor p.kind s).1 p with
      | error e => rw [hb] at h; cases h
      | ok b =>
        rw [hb] at h
        obtain rfl := Except.ok.inj h
        obtain ⟨ws, -, count, rfl⟩ := bindPlan_eq_ok.1 hb
        exact ⟨rfl, by simp [(t.templateFor_learns p.kind s).table_eq, count]⟩

/-- A translation that succeeds is one of envelopes, by the translator that knows the columns. -/
theorem exists_translateEnvelopes {t : Translator} {shared : ParserTable} {key : EventKey}
    {value : EventValue} {o : Option BoundStatement}
    (h : (t.translate shared key value).1 = .ok o) :
    ∃ k v s t', key.envelope = .ok k ∧ value.envelope = .ok v ∧ t.bootstrap k v = (.ok s, t') ∧
      t.translate shared key value = t'.translateEnvelopes shared s k v := by
  have event : t.translate shared key value = t.translateEvent shared key value := by
    unfold translate at h ⊢
    generalize t.translateEvent shared key value = translated at h ⊢
    obtain ⟨e | o', t'⟩ := translated
    · cases h
    · rfl
  rw [event] at h ⊢
  unfold translateEvent at h ⊢
  cases hk : key.envelope with
  | error e => simp [hk] at h
  | ok k =>
    cases hv : value.envelope with
    | error e => simp [hk, hv] at h
    | ok v =>
      simp only [hk, hv] at h ⊢
      rcases hb : t.bootstrap k v with ⟨e | s, t'⟩
      · simp [hb] at h
      · exact ⟨k, v, s, t', rfl, rfl, hb, rfl⟩

/-- A translation that succeeds gives a statement exactly for an operation that changes rows, of
the kind for that operation and for the table of the translator, with a value for each
placeholder. -/
theorem translate_eq_ok {t : Translator} {shared : ParserTable} {key : EventKey}
    {value : EventValue} {o : Option BoundStatement}
    (h : (t.translate shared key value).1 = .ok o) :
    o.map (·.kind) = value.operation.bind Operation.kind? ∧
      ∀ b ∈ o, b.table = t.table ∧ placeholderCount b.sql = b.parameters.length := by
  obtain ⟨k, v, s, t', -, hv, booted, translated⟩ := exists_translateEnvelopes h
  have learns := t.bootstrap_learns k v
  rw [booted] at learns
  rw [translated] at h
  rw [EventValue.operation_of_envelope hv, ← learns.table_eq]
  exact translateEnvelopes_eq_ok h

end Translator

end Changefeed
