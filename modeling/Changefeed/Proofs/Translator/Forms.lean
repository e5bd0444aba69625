import Changefeed.Proofs.Translator.Fate
import Changefeed.Proofs.Translator.Identity
import Changefeed.Proofs.Translator.Session

/-!
# Forms of an event

An event may come as raw documents or as the envelopes that were read of them.  Two forms are
`Same` if the same envelope is read of both.  A translator does the same with either form
(`Translator.translate_of_same`, `Workplace.process_of_same`), and so does a session in which any
events come in another form (`Workplace.after_of_same`).  Only the key that an error shows may
tell the forms apart (`withoutKey` leaves it out): a raw key that carries no payload has none to
show, but its envelope has an empty one.
-/

namespace Changefeed

/-! ### The key that an error shows -/

/-- An error as it is apart from the key of its event. -/
def EventError.withoutKey (e : EventError) : EventError :=
  { e with context := { e.context with key := .null } }

theorem EventError.reason_withoutKey (e : EventError) : e.withoutKey.reason = e.reason := rfl

/-- A failure as it is apart from the key of its event. -/
def Failure.withoutKey : Failure → Failure
  | .event e => .event e.withoutKey
  | f => f

theorem EventError.located_withoutKey (e : EventError) {c c' : Context} (table : c.table = c'.table)
    (operation : c.operation = c'.operation) :
    (e.located c).withoutKey = (e.located c').withoutKey := by
  simp only [located, withoutKey, Context.fill, table, operation]

/-! ### Forms that are the same -/

namespace EventKey

variable {key key' : EventKey}

/-- The form of a key that was read before; null stands for the key of an event without one. -/
def ofEnvelope : Option KeyEnvelope → EventKey
  | none => .raw .null
  | some k => .parsed k

theorem envelope_ofEnvelope (k : Option KeyEnvelope) : (ofEnvelope k).envelope = .ok k := by
  cases k <;> rfl

/-- Both forms can be read and are the same key. -/
def Same (key key' : EventKey) : Prop :=
  ∃ k, key.envelope = .ok k ∧ key'.envelope = .ok k

theorem same_ofEnvelope {k : Option KeyEnvelope} (h : key.envelope = .ok k) :
    key.Same (ofEnvelope k) :=
  ⟨k, h, envelope_ofEnvelope k⟩

/-- A key that shows a payload shows the one of its envelope, and so does the key of an event
without one. -/
theorem payload_ofEnvelope {k : Option KeyEnvelope} (h : key.envelope = .ok k)
    (shown : k = none ∨ key.payload ≠ .null) : key.payload = (ofEnvelope k).payload := by
  cases k with
  | none => exact payload_of_none h
  | some k =>
    rcases payload_of_some h with carried | ⟨absent, -⟩
    · exact carried
    · rcases shown with none | shown
      · cases none
      · exact absurd absent shown

end EventKey

namespace EventValue

variable {value value' : EventValue}

/-- Both forms can be read and are the same value. -/
def Same (value value' : EventValue) : Prop :=
  ∃ v, value.envelope = .ok v ∧ value'.envelope = .ok v

/-- What an event says of its operation does not depend on its form. -/
theorem Same.op_eq (h : value.Same value') : value.op = value'.op := by
  obtain ⟨v, hv, hv'⟩ := h
  rw [op_of_envelope hv, op_of_envelope hv']

theorem Same.label_eq (h : value.Same value') : value.label = value'.label := by
  simp only [label, h.op_eq]

end EventValue

/-! ### Translation -/

section Forms

variable {key key' : EventKey} {value value' : EventValue} (shared : ParserTable)

namespace Translator

variable (t : Translator) (hk : key.Same key') (hv : value.Same value')

include hk hv

theorem translateEvent_of_same :
    t.translateEvent shared key value = t.translateEvent shared key' value' := by
  obtain ⟨k, hk, hk'⟩ := hk
  obtain ⟨v, hv, hv'⟩ := hv
  simp only [translateEvent, hk, hk', hv, hv']

/-- Both forms are translated to the same, or both fail, with errors that may differ in the key. -/
theorem translate_same_or_fail :
    t.translate shared key value = t.translate shared key' value' ∨
      ∃ e e' t', t.translate shared key value = (.error e, t') ∧
        t.translate shared key' value' = (.error e', t') ∧ e.withoutKey = e'.withoutKey := by
  simp only [translate, ← t.translateEvent_of_same shared hk hv]
  rcases t.translateEvent shared key value with ⟨e | s, t'⟩
  · exact .inr ⟨_, _, t', rfl, rfl, e.located_withoutKey rfl hv.op_eq⟩
  · exact .inl rfl

/-- A translation gives the same for both forms, and the translator learns the same. -/
theorem translate_of_same :
    (t.translate shared key value).1.mapError EventError.withoutKey =
        (t.translate shared key' value').1.mapError EventError.withoutKey ∧
      (t.translate shared key value).2 = (t.translate shared key' value').2 := by
  rcases t.translate_same_or_fail shared hk hv with same | ⟨e, e', t', first, second, alike⟩
  · rw [same]
    exact ⟨rfl, rfl⟩
  · rw [first, second]
    exact ⟨congrArg Except.error alike, rfl⟩

theorem translate_of_same_payload (shown : key.payload = key'.payload) :
    t.translate shared key value = t.translate shared key' value' := by
  simp only [translate, contextOf, ← t.translateEvent_of_same shared hk hv, shown, hv.op_eq]

end Translator

/-! ### Handling -/

namespace Workplace

variable {σ : Type} (ex : Executor σ) (w : Workplace σ)

/-- What follows a translation looks at no more of the event than its operation. -/
theorem process_of_translate (hv : value.Same value')
    (same : w.translator.translate shared key value = w.translator.translate shared key' value') :
    w.process ex shared key value = w.process ex shared key' value' := by
  have reason : skipReason value = skipReason value' := by
    simp only [skipReason, hv.op_eq]
  simp only [process, same, apply, noteFailure, noteSkipped, hv.label_eq, reason]

variable (hk : key.Same key') (hv : value.Same value')

include hk hv

/-- The handling of an event gives the same for both forms and leaves the same behind. -/
theorem process_of_same :
    (w.process ex shared key value).1.mapError Failure.withoutKey =
        (w.process ex shared key' value').1.mapError Failure.withoutKey ∧
      (w.process ex shared key value).2 = (w.process ex shared key' value').2 := by
  rcases w.translator.translate_same_or_fail shared hk hv with
    same | ⟨e, e', t, first, second, alike⟩
  · rw [w.process_of_translate shared ex hv same]
    exact ⟨rfl, rfl⟩
  · have reason : e.reason = e'.reason := by
      rw [← e.reason_withoutKey, alike, e'.reason_withoutKey]
    constructor
    · simp only [process, first, second]
      exact congrArg (fun e => Except.error (Failure.event e)) alike
    · simp only [process, first, second, reason, noteFailure, hv.label_eq]

end Workplace

end Forms

/-! ### Sessions -/

/-- Two calls are the same, up to the form of the event that they are for. -/
inductive Call.Same : Call → Call → Prop where
  | translate (shared : ParserTable) {key key' : EventKey} {value value' : EventValue}
      (hk : key.Same key') (hv : value.Same value') :
      Same (.translate shared key value) (.translate shared key' value')
  | process (shared : ParserTable) {key key' : EventKey} {value value' : EventValue}
      (hk : key.Same key') (hv : value.Same value') :
      Same (.process shared key value) (.process shared key' value')
  | itself (call : Call) : Same call call

namespace Workplace

variable {σ : Type} (ex : Executor σ)

theorem step_of_same (w : Workplace σ) {call call' : Call} (h : call.Same call') :
    w.step ex call = w.step ex call' := by
  cases h with
  | translate shared hk hv => simp only [step, (w.translator.translate_of_same shared hk hv).2]
  | process shared hk hv => exact (w.process_of_same shared ex hk hv).2
  | itself => rfl

/-- The forms in which events come leave no trace in a session. -/
theorem after_of_same (w : Workplace σ) {calls calls' : List Call}
    (h : List.Forall₂ Call.Same calls calls') : w.after ex calls = w.after ex calls' := by
  induction h generalizing w with
  | nil => rfl
  | cons same _ ih =>
    simp only [after, List.foldl_cons, step_of_same ex w same]
    exact ih _

end Workplace

/-! ### Raw events and their envelopes -/

/-- On any translator, with any counters and any executor, a raw event that can be read and the
envelopes that are read of it are translated and handled to the same statement, or the lack of one,
or to errors that differ at most in the key they show, and leave everything the same behind them.
The errors are the same if there is no key, or if the raw key carries a payload. -/
theorem forms_agree {σ : Type} (ex : Executor σ) (w : Workplace σ) (shared : ParserTable)
    {key value : Value} {k : Option KeyEnvelope} {v : ValueEnvelope}
    (hk : KeyEnvelope.read key = .ok k) (hv : ValueEnvelope.read value = .ok v) :
    let translated := w.translator.translate shared (.raw key) (.raw value)
    let translated' := w.translator.translate shared (.ofEnvelope k) (.parsed v)
    let processed := w.process ex shared (.raw key) (.raw value)
    let processed' := w.process ex shared (.ofEnvelope k) (.parsed v)
    (translated.1.mapError EventError.withoutKey = translated'.1.mapError EventError.withoutKey ∧
      translated.2 = translated'.2) ∧
    (processed.1.mapError Failure.withoutKey = processed'.1.mapError Failure.withoutKey ∧
      processed.2 = processed'.2) ∧
    (k = none ∨ (EventKey.raw key).payload ≠ .null →
      translated = translated' ∧ processed = processed') := by
  intro translated translated' processed processed'
  have keys : (EventKey.raw key).Same (.ofEnvelope k) := EventKey.same_ofEnvelope hk
  have values : (EventValue.raw value).Same (.parsed v) := ⟨v, hv, rfl⟩
  refine ⟨w.translator.translate_of_same shared keys values,
    w.process_of_same shared ex keys values, fun shown => ?_⟩
  have payload : (EventKey.raw key).payload = (EventKey.ofEnvelope k).payload :=
    EventKey.payload_ofEnvelope hk shown
  have same : translated = translated' :=
    w.translator.translate_of_same_payload shared keys values payload
  exact ⟨same, w.process_of_translate shared ex values same⟩

/-- An update of an order that lacks the new row, with a key that lacks its payload, fails alike in
both forms, but only the envelope has a key to show. -/
theorem forms_agree_orders :
    let w := (Workplace.mk Orders.translator {} {}).after DryRun.executor Orders.calls
    let key : Value := .object [("schema", .null)]
    let value : Value := .object [("payload", .object [("op", .text "u"), ("ts_ms", .text "5")])]
    let k : KeyEnvelope := ⟨none, []⟩
    let v : ValueEnvelope := ⟨none, none, none, "u", none, some 5⟩
    let raw := w.process DryRun.executor .empty (.raw key) (.raw value)
    let parsed := w.process DryRun.executor .empty (.parsed k) (.parsed v)
    KeyEnvelope.read key = .ok (some k) ∧ ValueEnvelope.read value = .ok v ∧
      raw.1.mapError Failure.withoutKey = parsed.1.mapError Failure.withoutKey ∧
      raw.2 = parsed.2 ∧
      raw.1 = .error (.event ⟨.noImage .after, ⟨.text "public.orders", .text "u", .null⟩⟩) ∧
      parsed.1 =
        .error (.event ⟨.noImage .after, ⟨.text "public.orders", .text "u", .object []⟩⟩) := by
  intro w key value k v raw parsed
  have hk : KeyEnvelope.read key = .ok (some k) := rfl
  have hv : ValueEnvelope.read value = .ok v := rfl
  obtain ⟨-, ⟨outcome, behind⟩, -⟩ := forms_agree DryRun.executor w .empty hk hv
  exact ⟨hk, hv, outcome, behind, rfl, rfl⟩

end Changefeed
