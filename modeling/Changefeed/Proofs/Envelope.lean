import Mathlib.Logic.Relation
import Mathlib.Tactic.SplitIfs
import Changefeed.Envelope

/-!
# Envelopes as documents

Reading an envelope is a projection: the document that an envelope is written as is read back as the
same envelope (`ValueEnvelope.check_toValue`, `KeyEnvelope.check_toValue`, and
`FieldSchema.check_toValue` for schemas of any depth), and what records do not name does not matter.
For the latter `Envelope.Model.members` says what each record reads and under which names, and
`Envelope.Inserted` puts a member where none is read.  Such a member changes neither the envelope
that is read nor the issues of a document of which none can be read (`KeyEnvelope.read_of_inserted`,
`ValueEnvelope.read_of_inserted`).
-/

namespace Changefeed

/-! ### What is written is read back -/

/-- If what is written is read back, so is null for what is not there. -/
theorem Value.checkOptional_getD {α : Type} {check : Value → Checked α} (write : α → Value)
    (back : ∀ a, checkOptional check (write a) = .valid (some a)) (o : Option α) :
    checkOptional check ((o.map write).getD .null) = .valid o := by
  cases o with
  | none => rfl
  | some a => exact back a

theorem Value.checkOptional_textOrNull (s : Option String) :
    checkOptional checkText (textOrNull s) = .valid s :=
  checkOptional_getD text (fun _ => rfl) s

theorem checkOptional_mappingOrNull (ms : Option Members) :
    Value.checkOptional Value.checkMapping (mappingOrNull ms) = .valid ms :=
  Value.checkOptional_getD Value.object (fun _ => rfl) ms

namespace FieldSchema

mutual

/-- A schema is read back from its document, whatever the depth of its fields. -/
theorem check_toValue : (s : FieldSchema) → check s.toValue = .valid s
  | .mk type field name isOptional parameters fields => by
    show FieldSchema.mk <$> (Checked.valid type).within "type"
      <*> (Value.checkOptional Value.checkText (.textOrNull field)).within "field"
      <*> (Value.checkOptional Value.checkText (.textOrNull name)).within "name"
      <*> (Checked.valid isOptional).within "optional"
      <*> (Checked.valid parameters).within "parameters"
      <*> (checkItems 0 (toValues fields)).within "fields" = _
    rw [Value.checkOptional_textOrNull, Value.checkOptional_textOrNull,
      checkItems_toValues 0 fields]
    rfl

theorem checkItems_toValues : (n : Nat) → (ss : List FieldSchema) →
    checkItems n (toValues ss) = .valid ss
  | n, [] => by rw [toValues, checkItems]
  | n, s :: ss => by
    rw [toValues, checkItems, check_toValue s, checkItems_toValues (n + 1) ss]
    rfl

end

theorem checkOptional_schemaValue (s : Option FieldSchema) :
    Value.checkOptional check (schemaValue s) = .valid s := by
  refine Value.checkOptional_getD toValue (fun s => ?_) s
  have back := s.check_toValue
  obtain ⟨type, field, name, isOptional, parameters, fields⟩ := s
  rw [toValue] at back ⊢
  exact congrArg (Checked.map some) back

end FieldSchema

theorem KeyEnvelope.check_toValue (k : KeyEnvelope) : check k.toValue = .valid k := by
  obtain ⟨schema, payload⟩ := k
  show KeyEnvelope.mk <$> (Value.checkOptional FieldSchema.check (schemaValue schema)).within
    "schema" <*> (Checked.valid payload).within "payload" = _
  rw [FieldSchema.checkOptional_schemaValue]
  rfl

theorem Payload.check_toValue (p : Payload) :
    Value.checkRecord checkMembers p.toValue = .valid p := by
  obtain ⟨before, after, op, source, timestamp⟩ := p
  have time : Value.checkOptional Value.checkInteger ((timestamp.map Value.int).getD .null) =
      .valid timestamp :=
    Value.checkOptional_getD Value.int (fun _ => rfl) timestamp
  show Payload.mk
    <$> (Value.checkOptional Value.checkMapping (mappingOrNull before)).within "before"
    <*> (Value.checkOptional Value.checkMapping (mappingOrNull after)).within "after"
    <*> (Checked.valid op).within "op"
    <*> (Value.checkOptional Value.checkMapping (mappingOrNull source)).within "source"
    <*> (Value.checkOptional Value.checkInteger ((timestamp.map Value.int).getD .null)).within
      "ts_ms" = _
  rw [checkOptional_mappingOrNull, checkOptional_mappingOrNull, checkOptional_mappingOrNull, time]
  rfl

theorem ValueEnvelope.check_toValue (e : ValueEnvelope) : check e.toValue = .valid e := by
  obtain ⟨schema, payload⟩ := e
  show ValueEnvelope.mk <$> (Value.checkOptional FieldSchema.check (schemaValue schema)).within
    "schema" <*> (Value.checkRecord Payload.checkMembers payload.toValue).within "payload" = _
  rw [FieldSchema.checkOptional_schemaValue, Payload.check_toValue]
  rfl

/-! ### Members that records read -/

namespace Envelope

/-- The records that envelopes are made of. -/
inductive Model where
  | field
  | key
  | payload
  | value
deriving DecidableEq, Repr

/-- What a record takes a member for. -/
inductive Part where
  /-- A value of its own, or a mapping whose members have any names. -/
  | free
  | record (m : Model)
  /-- The schemas of fields. -/
  | fields
deriving DecidableEq, Repr

/-- The names under which a record looks for its members, and what it takes each for. -/
def Model.members : Model → List (String × Part)
  | .field => [("type", .free), ("field", .free), ("name", .free), ("optional", .free),
      ("parameters", .free), ("fields", .fields)]
  | .key => [("schema", .record .field), ("schema_", .record .field), ("payload", .free)]
  | .payload => [("before", .free), ("after", .free), ("op", .free), ("source", .free),
      ("ts_ms", .free)]
  | .value => [("schema", .record .field), ("schema_", .record .field),
      ("payload", .record .payload)]

/-- What a record takes a member of some name for, if it looks for one. -/
def Model.part? (m : Model) (name : String) : Option Part :=
  m.members.lookup name

/-- One document is another one with a member more, at any depth but in a part where the members
have any names.  What stands under a name that the record does not look for is never read, and may
be changed in any way. -/
inductive Inserted : Part → Value → Value → Prop where
  | here (before after : Members) {m : Model} {name : String} (unread : m.part? name = none)
      (v : Value) : Inserted (.record m) (.object (before ++ after))
        (.object (before ++ (name, v) :: after))
  | inside (before after : Members) {m : Model} {name : String} {p : Part}
      (read : m.part? name = some p) {v v' : Value} (h : Inserted p v v') :
      Inserted (.record m) (.object (before ++ (name, v) :: after))
        (.object (before ++ (name, v') :: after))
  | ignored (before after : Members) {m : Model} {name : String} (unread : m.part? name = none)
      (v v' : Value) : Inserted (.record m) (.object (before ++ (name, v) :: after))
        (.object (before ++ (name, v') :: after))
  | item (before after : List Value) {v v' : Value} (h : Inserted (.record .field) v v') :
      Inserted .fields (.list (before ++ v :: after)) (.list (before ++ v' :: after))

/-! ### What the checks look at -/

/-- The check of a record gives the same for two mappings. -/
def Model.SameCheck : Model → Members → Members → Prop
  | .field, ms, ms' => FieldSchema.check (.object ms) = FieldSchema.check (.object ms')
  | .key, ms, ms' => KeyEnvelope.checkMembers ms = KeyEnvelope.checkMembers ms'
  | .payload, ms, ms' => Payload.checkMembers ms = Payload.checkMembers ms'
  | .value, ms, ms' => ValueEnvelope.checkMembers ms = ValueEnvelope.checkMembers ms'

/-- Two values are the same to the record that takes them for a part. -/
def Part.Same : Part → Value → Value → Prop
  | .free, v, v' => v = v'
  | .record m, v, v' =>
    v = v' ∨ ∃ ms ms', v = .object ms ∧ v' = .object ms' ∧ m.SameCheck ms ms'
  | .fields, v, v' => FieldSchema.checkList v = FieldSchema.checkList v'

theorem Part.Same.refl (p : Part) (v : Value) : p.Same v v := by
  cases p with
  | record m => exact .inl rfl
  | _ => rfl

/-- What sees no more of a mapping than the check of a record does cannot tell values apart that are
the same to the record. -/
theorem Part.Same.congr {α : Type} {m : Model} {v v' : Value} (h : (Part.record m).Same v v')
    (f : Value → α)
    (seen : ∀ ms ms', m.SameCheck ms ms' → f (.object ms) = f (.object ms')) : f v = f v' := by
  obtain rfl | ⟨ms, ms', rfl, rfl, same⟩ := h
  · rfl
  · exact seen ms ms' same

/-- Members that are the same to a record: under each name that it looks for there are none, or ones
that are the same. -/
def Model.Agree (m : Model) (ms ms' : Members) : Prop :=
  ∀ name p, m.part? name = some p → Option.Rel p.Same (ms.get? name) (ms'.get? name)

theorem get?_append_cons (before after : Members) (name : String) (v : Value) (n : String) :
    Members.get? (before ++ (name, v) :: after) n =
      (Members.get? before n).or (if name = n then some v else Members.get? after n) := by
  unfold Members.get?
  rw [Assoc.get?_append, Assoc.get?_cons]

theorem rel_refl (p : Part) (o : Option Value) : Option.Rel p.Same o o := by
  cases o with
  | none => exact .none
  | some v => exact .some (.refl p v)

theorem Model.agree_here {m : Model} {name : String} (unread : m.part? name = none)
    (before after : Members) (v : Value) :
    m.Agree (before ++ after) (before ++ (name, v) :: after) := by
  intro n p hp
  have other : name ≠ n := by
    rintro rfl
    cases unread.symm.trans hp
  rw [get?_append_cons, if_neg other, Members.get?, Assoc.get?_append]
  exact rel_refl p _

theorem Model.agree_inside {m : Model} {name : String} {v v' : Value}
    (same : ∀ p, m.part? name = some p → p.Same v v') (before after : Members) :
    m.Agree (before ++ (name, v) :: after) (before ++ (name, v') :: after) := by
  intro n p hp
  rw [get?_append_cons, get?_append_cons]
  cases Members.get? before n with
  | some u => exact rel_refl p _
  | none =>
    split_ifs with hn
    · subst hn
      exact .some (same p hp)
    · exact rel_refl p _

end Envelope

/-! ### Checks of members that agree -/

section Checks

variable {α : Type} {ms ms' : Members} {name : String} {check : Value → Checked α}
  {r : Value → Value → Prop}

theorem Members.required_of_rel (h : Option.Rel r (ms.get? name) (ms'.get? name))
    (same : ∀ v v', r v v' → check v = check v') :
    ms.required name check = ms'.required name check := by
  unfold required
  generalize ms.get? name = o at h ⊢
  generalize ms'.get? name = o' at h ⊢
  cases h with
  | none => rfl
  | some h => exact congrArg (Checked.within name) (same _ _ h)

theorem Members.optional_of_rel (h : Option.Rel r (ms.get? name) (ms'.get? name)) {default : α}
    (same : ∀ v v', r v v' → check v = check v') :
    ms.optional name default check = ms'.optional name default check := by
  unfold optional
  generalize ms.get? name = o at h ⊢
  generalize ms'.get? name = o' at h ⊢
  cases h with
  | none => rfl
  | some h => exact congrArg (Checked.within name) (same _ _ h)

end Checks

theorem FieldSchema.checkFields_eq (ms : Members) :
    checkFields ms = ms.optional "fields" [] checkList := by
  unfold Members.optional Members.get?
  induction ms with
  | nil => rfl
  | cons x ms ih =>
    obtain ⟨name, v⟩ := x
    rw [checkFields, Assoc.get?_cons]
    split_ifs
    · rfl
    · exact ih

theorem FieldSchema.checkItems_congr {v v' : Value} (same : check v = check v')
    (before after : List Value) (n : Nat) :
    checkItems n (before ++ v :: after) = checkItems n (before ++ v' :: after) := by
  induction before generalizing n with
  | nil => simp only [List.nil_append, checkItems, same]
  | cons u before ih => simp only [List.cons_append, checkItems, ih]

namespace Envelope

variable {ms ms' : Members}

theorem free_same {α : Type} (check : Value → Checked α) :
    ∀ v v', Part.free.Same v v' → check v = check v' :=
  fun _ _ h => congrArg check h

theorem checkOptional_of_same {v v' : Value} (h : (Part.record .field).Same v v') :
    Value.checkOptional FieldSchema.check v = Value.checkOptional FieldSchema.check v' :=
  h.congr _ fun _ _ same => congrArg (Checked.map some) same

theorem checkSchema_of_agree {m : Model} (first : m.part? "schema" = some (.record .field))
    (second : m.part? "schema_" = some (.record .field)) (h : m.Agree ms ms') :
    checkSchema ms = checkSchema ms' := by
  -- the second name counts only if the first is not there
  have given : (ms.get? "schema").isSome = (ms'.get? "schema").isSome := by
    have rel := h _ _ first
    generalize ms.get? "schema" = o at rel ⊢
    generalize ms'.get? "schema" = o' at rel ⊢
    cases rel <;> rfl
  unfold checkSchema
  rw [given, Members.optional_of_rel (h _ _ first) fun _ _ => checkOptional_of_same,
    Members.optional_of_rel (h _ _ second) fun _ _ => checkOptional_of_same]

/-- A record finds nothing different in members that agree. -/
theorem Model.Agree.sameCheck {m : Model} (h : m.Agree ms ms') : m.SameCheck ms ms' := by
  cases m with
  | field =>
    show FieldSchema.check _ = FieldSchema.check _
    simp only [FieldSchema.check, FieldSchema.checkFields_eq]
    rw [Members.required_of_rel (h "type" .free rfl) (free_same _),
      Members.optional_of_rel (h "field" .free rfl) (free_same _),
      Members.optional_of_rel (h "name" .free rfl) (free_same _),
      Members.optional_of_rel (h "optional" .free rfl) (free_same _),
      Members.optional_of_rel (h "parameters" .free rfl) (free_same _),
      Members.optional_of_rel (h "fields" .fields rfl) fun _ _ same => same]
  | key =>
    show KeyEnvelope.checkMembers _ = KeyEnvelope.checkMembers _
    unfold KeyEnvelope.checkMembers
    rw [checkSchema_of_agree rfl rfl h,
      Members.optional_of_rel (h "payload" .free rfl) (free_same _)]
  | payload =>
    show Payload.checkMembers _ = Payload.checkMembers _
    unfold Payload.checkMembers
    rw [Members.optional_of_rel (h "before" .free rfl) (free_same _),
      Members.optional_of_rel (h "after" .free rfl) (free_same _),
      Members.required_of_rel (h "op" .free rfl) (free_same _),
      Members.optional_of_rel (h "source" .free rfl) (free_same _),
      Members.optional_of_rel (h "ts_ms" .free rfl) (free_same _)]
  | value =>
    have payload (v v' : Value) (same : (Part.record .payload).Same v v') :
        Value.checkRecord Payload.checkMembers v = Value.checkRecord Payload.checkMembers v' :=
      same.congr _ fun _ _ same => same
    show ValueEnvelope.checkMembers _ = ValueEnvelope.checkMembers _
    unfold ValueEnvelope.checkMembers
    rw [checkSchema_of_agree rfl rfl h,
      Members.required_of_rel (h "payload" (.record .payload) rfl) payload]

theorem Model.Agree.same {m : Model} (h : m.Agree ms ms') :
    (Part.record m).Same (.object ms) (.object ms') :=
  .inr ⟨ms, ms', rfl, rfl, h.sameCheck⟩

/-- To the record in which it is inserted, and so to all records around it, a member makes no
difference. -/
theorem Inserted.same {p : Part} {v v' : Value} (h : Inserted p v v') : p.Same v v' := by
  induction h with
  | here before after unread v => exact (Model.agree_here unread before after v).same
  | inside before after read h ih =>
    refine (Model.agree_inside (fun q hq => ?_) before after).same
    obtain rfl := Option.some.inj (read.symm.trans hq)
    exact ih
  | ignored before after unread v v' =>
    refine (Model.agree_inside (fun q hq => ?_) before after).same
    cases unread.symm.trans hq
  | @item before after v v' h ih =>
    have same : FieldSchema.check v = FieldSchema.check v' := ih.congr _ fun _ _ same => same
    exact FieldSchema.checkItems_congr same before after 0

end Envelope

/-! ### Reading -/

/-- Every key, or the lack of one, is read back from its document. -/
theorem KeyEnvelope.read_toValue (k : Option KeyEnvelope) :
    read ((k.map toValue).getD .null) = .ok k := by
  cases k with
  | none => rfl
  | some k =>
    have back := k.check_toValue
    unfold toValue at back
    simp only [Option.map_some, Option.getD_some, toValue, read, back]

/-- Every value is read back from its document. -/
theorem ValueEnvelope.read_toValue (e : ValueEnvelope) : read e.toValue = .ok e := by
  have back := e.check_toValue
  unfold toValue at back ⊢
  simp only [read, back]

/-- Of a document with further members the same key is read, or the same issues are found. -/
theorem KeyEnvelope.read_of_inserted {v v' : Value}
    (h : Envelope.Inserted (.record .key) v v') : read v = read v' := by
  refine h.same.congr read fun ms ms' same => ?_
  have same : check (.object ms) = check (.object ms') := same
  simp only [read, same]

/-- Of a document with further members the same value is read, or the same issues are found. -/
theorem ValueEnvelope.read_of_inserted {v v' : Value}
    (h : Envelope.Inserted (.record .value) v v') : read v = read v' := by
  refine h.same.congr read fun ms ms' same => ?_
  have same : check (.object ms) = check (.object ms') := same
  simp only [read, same]

/-- A function that does not see single insertions does not see any number of them. -/
theorem Envelope.eq_of_inserted {α : Type} {p : Part} {f : Value → α}
    (one : ∀ {v v'}, Inserted p v v' → f v = f v') {v v' : Value}
    (h : Relation.ReflTransGen (Inserted p) v v') : f v = f v' := by
  induction h with
  | refl => rfl
  | tail _ last ih => exact ih.trans (one last)

/-- Every envelope, and so the one that was read of a document, is read back from the document that
it is written as; and with further members, at any depth, where nothing reads them, a document is
read as the same envelope, or refused for the same issues. -/
theorem read_projects :
    (∀ e : ValueEnvelope, ValueEnvelope.read e.toValue = .ok e) ∧
    (∀ k : Option KeyEnvelope,
      KeyEnvelope.read ((k.map KeyEnvelope.toValue).getD .null) = .ok k) ∧
    (∀ x y, Relation.ReflTransGen (Envelope.Inserted (.record .value)) x y →
      ValueEnvelope.read y = ValueEnvelope.read x) ∧
    ∀ x y, Relation.ReflTransGen (Envelope.Inserted (.record .key)) x y →
      KeyEnvelope.read y = KeyEnvelope.read x := by
  refine ⟨ValueEnvelope.read_toValue, KeyEnvelope.read_toValue, fun x y more => ?_,
    fun x y more => ?_⟩
  · exact (Envelope.eq_of_inserted ValueEnvelope.read_of_inserted more).symm
  · exact (Envelope.eq_of_inserted KeyEnvelope.read_of_inserted more).symm

/-- The creation of an order: its schema goes by the other name, defaults are left out, and its time
is a text.  Nothing reads the members that are given besides. -/
def Orders.creation (inField inPayload inEnvelope : Members) : Value :=
  .object ([("schema_", .object [("type", .text "struct"),
      ("fields", .list [.object (("type", .text "int32") :: inField)])]),
    ("payload", .object ([("op", .text "c"), ("ts_ms", .text "5")] ++ inPayload))] ++ inEnvelope)

/-- Members at three depths of a value are ignored, and a mapping under a name that keys do not have
is as good as a number. -/
theorem read_projects_orders :
    let e : ValueEnvelope :=
      ⟨some (.mk "struct" none none true [] [.mk "int32" none none true [] []]),
        none, none, "c", none, some 5⟩
    let k : KeyEnvelope := ⟨none, []⟩
    let key (version : Value) : Value := .object [("schema", .null), ("version", version)]
    ValueEnvelope.read (Orders.creation [] [] []) = .ok e ∧ ValueEnvelope.read e.toValue = .ok e ∧
      ValueEnvelope.read (Orders.creation [("version", .int 1)] [("transaction", .null)]
        [("headers", .object [("payload", .null)])]) = .ok e ∧
      KeyEnvelope.read (key (.int 1)) = .ok (some k) ∧ KeyEnvelope.read k.toValue = .ok (some k) ∧
      KeyEnvelope.read (key (.object [])) = .ok (some k) := by
  intro e k key
  have value : ValueEnvelope.read (Orders.creation [] [] []) = .ok e := rfl
  have inField : Envelope.Inserted (.record .value) (Orders.creation [] [] [])
      (Orders.creation [("version", .int 1)] [] []) :=
    .inside [] _ rfl (.inside [_] [] rfl (.item [] [] (.here [_] [] rfl _)))
  have inPayload : Envelope.Inserted (.record .value) (Orders.creation [("version", .int 1)] [] [])
      (Orders.creation [("version", .int 1)] [("transaction", .null)] []) :=
    .inside [_] [] rfl (.here [_, _] [] rfl _)
  have inEnvelope : Envelope.Inserted (.record .value)
      (Orders.creation [("version", .int 1)] [("transaction", .null)] [])
      (Orders.creation [("version", .int 1)] [("transaction", .null)]
        [("headers", .object [("payload", .null)])]) :=
    .here [_, _] [] rfl _
  have read : KeyEnvelope.read (key (.int 1)) = .ok (some k) := rfl
  have changed : Envelope.Inserted (.record .key) (key (.int 1)) (key (.object [])) :=
    .ignored [_] [] rfl _ _
  obtain ⟨values, keys, moreInValue, moreInKey⟩ := read_projects
  have more := moreInValue _ _ (.tail (.tail (.single inField) inPayload) inEnvelope)
  exact ⟨value, values e, more.trans value, read, keys (some k),
    (moreInKey _ _ (.single changed)).trans read⟩

end Changefeed
