import Changefeed.Parser.Iso
import Changefeed.Proofs.Bytes
import Changefeed.Proofs.Numeral.Decimal
import Changefeed.Proofs.Translator.Parsing
import Changefeed.Proofs.Translator.Rejection

/-!
# Decimals as parameters

An unscaled integer with a scale becomes a decimal that a statement binds.  The integer is read
exactly, but the shift by the scale rounds: the result is a nearest number of the working
precision, and it is the number that the event carries only if that is one of them
(`decimals_nearest`).
-/

open Changefeed.Parser (integer unscaled scaledDecimal)

namespace Changefeed

/-- The values that an unscaled integer arrives as: bytes that hold it, or their base64 text. -/
inductive Encodes (n : Int) : Value → Prop where
  | bytes (k : Nat) : TwosComplement.Fits k n →
      Encodes n (.bytes (TwosComplement.encode k n))
  | text (k : Nat) : TwosComplement.Fits k n →
      Encodes n (.text (String.ofList (Base64.encode (TwosComplement.encode k n))))

/-- The columns and raw values in which the number n·10^(-scale) arrives: with the scale in the
value, or with the scale as a parameter of the column. -/
inductive CarriesDecimal (n scale : Int) : Column → Value → Prop where
  | variableScale (c : Column) (ms : Members) (v s : Value) :
      c.semanticType = some variableScaleDecimal →
      ms.get? "value" = some v → Encodes n v →
      ms.get? "scale" = some s → integer s = .ok scale →
      CarriesDecimal n scale c (.object ms)
  | fixedScale (c : Column) (v : Value) :
      c.semanticType = some fixedScaleDecimal → Encodes n v →
      integer ((c.parameters.get? "scale").getD (.int 0)) = .ok scale →
      CarriesDecimal n scale c v

/-- A value is refused, as one that the parser of its column cannot take. -/
def Refused (iso : IsoReader) (c : Column) (raw : Value) : Prop :=
  ∃ meaning cause, c.semanticType = some meaning ∧
    coerce (.standard iso) c raw = .error (.uncoercible raw c.name meaning cause)

/-- A value is bound as a decimal for a rational number. -/
def BoundAs (iso : IsoReader) (c : Column) (raw : Value) (y : ℚ) : Prop :=
  ∃ d, coerce (.standard iso) c raw = .ok (.decimal d) ∧ d.value? = some y

variable {iso : IsoReader} {n scale : Int} {c : Column} {raw v : Value}

theorem Refused.not_ok (h : Refused iso c raw) (w : Value) :
    coerce (.standard iso) c raw ≠ .ok w := by
  obtain ⟨meaning, cause, -, failed⟩ := h
  rw [failed]
  nofun

theorem BoundAs.unique {y z : ℚ} (hy : BoundAs iso c raw y) (hz : BoundAs iso c raw z) : y = z := by
  obtain ⟨d, bound, hy⟩ := hy
  obtain ⟨d', bound', hz⟩ := hz
  obtain rfl : d = d' := by simpa using bound.symm.trans bound'
  exact Option.some.inj (hy.symm.trans hz)

/-! ### From an event to a number -/

/-- Unscaled integers are read exactly. -/
theorem Encodes.unscaled_eq (h : Encodes n v) : unscaled v = .ok n := by
  rcases h with ⟨k, hk⟩ | ⟨k, hk⟩
  · rw [unscaled, TwosComplement.decode_encode hk]
  · have ascii : ((Base64.encode (TwosComplement.encode k n)).any fun c => 128 ≤ c.toNat) =
        false := by
      rw [List.any_eq_false]
      intro c hc
      have := Base64.encode_ascii hc
      simpa using this
    simp only [unscaled, String.toList_ofList, ascii, Base64.decode?_encode, Parser.orFault]
    rw [if_neg (by simp), Except.map, TwosComplement.decode_encode hk]

/-- What becomes of an unscaled integer is decided by the shift. -/
theorem Encodes.scaledDecimal_eq (h : Encodes n v) (scale : Int) :
    scaledDecimal v scale =
      match Decimal.scaled n scale with
      | .ok d => .ok (.decimal d)
      | .error .invalidOperation => Parser.fault .invalidDecimal
      | .error .overflow => Parser.fault .decimalOverflow := by
  rw [scaledDecimal, h.unscaled_eq]
  rfl

/-- Either way the parser of the column shifts the unscaled integer. -/
theorem CarriesDecimal.parsed (iso : IsoReader) (h : CarriesDecimal n scale c raw) :
    ∃ meaning p v, raw ≠ .null ∧ c.semanticType = some meaning ∧
      (ParserTable.standard iso).find? meaning = some p ∧ Encodes n v ∧
      p.run c.parameters raw = scaledDecimal v scale := by
  cases h with
  | variableScale ms v s hc hv encoded hs reads =>
    refine ⟨_, ⟨"parse_variable_scale_decimal", Parser.runVariableScaleDecimal⟩, v, nofun, hc, rfl,
      encoded, ?_⟩
    simp only [Parser.runVariableScaleDecimal, hv, hs, Parser.orFault]
    show (integer s >>= fun scale => scaledDecimal v scale) = _
    rw [reads]
    rfl
  | fixedScale _ hc encoded reads =>
    refine ⟨_, ⟨"parse_decimal", Parser.runFixedScaleDecimal⟩, raw, ?_, hc, rfl, encoded, ?_⟩
    · rintro rfl
      cases encoded
    · cases encoded <;> simp only [Parser.runFixedScaleDecimal, reads] <;> rfl

theorem CarriesDecimal.bound (h : CarriesDecimal n scale c raw) {d : Decimal}
    (shifted : Decimal.scaled n scale = .ok d) :
    coerce (.standard iso) c raw = .ok (.decimal d) := by
  obtain ⟨meaning, p, v, given, hc, hp, encoded, run⟩ := h.parsed iso
  have found : (ParserTable.standard iso).lookup c.semanticType = some p := by rw [hc]; exact hp
  rw [coerce_of_parsed found given, run, encoded.scaledDecimal_eq, shifted]

theorem CarriesDecimal.refused (h : CarriesDecimal n scale c raw) {trap : Decimal.Trap}
    (shifted : Decimal.scaled n scale = .error trap) : Refused iso c raw := by
  obtain ⟨meaning, p, v, given, hc, hp, encoded, run⟩ := h.parsed iso
  rw [encoded.scaledDecimal_eq, shifted] at run
  cases trap with
  | invalidOperation =>
    exact ⟨meaning, _, hc, coerce_eq_error.2 ⟨_, p, _, given, hc, hp, run, rfl⟩⟩
  | overflow => exact ⟨meaning, _, hc, coerce_eq_error.2 ⟨_, p, _, given, hc, hp, run, rfl⟩⟩

/-- A decimal is refused with a shift out of reach or from the limit on; else a nearest number of
the working precision is bound. -/
theorem CarriesDecimal.outcome (iso : IsoReader) (h : CarriesDecimal n scale c raw) :
    (Refused iso c raw ∧ (Decimal.maxShift < |scale| ∨
      Decimal.limit ≤ |(n * 10 ^ (-scale) : ℚ)|)) ∨
    ∃ y, BoundAs iso c raw y ∧ Decimal.Nearest (n * 10 ^ (-scale)) y ∧
      |scale| ≤ Decimal.maxShift ∧ |(n * 10 ^ (-scale) : ℚ)| < Decimal.limit := by
  rcases lt_or_ge Decimal.maxShift |scale| with far | near
  · exact .inl ⟨h.refused (Decimal.scaled_of_far far), .inl far⟩
  have rounds := Decimal.rounds_scaled (n := n) near
  generalize shifted : Decimal.scaled n scale = result at rounds
  cases rounds with
  | number d y small value nearest =>
    exact .inr ⟨y, ⟨d, h.bound shifted, value⟩, nearest, near, small⟩
  | overflow large => exact .inl ⟨h.refused shifted, .inr large⟩

/-- A number of the working precision is bound as it is, if it is not refused. -/
theorem CarriesDecimal.exact (h : CarriesDecimal n scale c raw)
    (working : Decimal.Working (n * 10 ^ (-scale))) {w : Value}
    (bound : coerce (.standard iso) c raw = .ok w) :
    ∃ d, w = .decimal d ∧ d.value? = some (n * 10 ^ (-scale) : ℚ) := by
  rcases h.outcome iso with ⟨refused, -⟩ | ⟨y, ⟨d, bound', value⟩, nearest, -⟩
  · exact absurd bound (refused.not_ok w)
  · refine ⟨d, by simpa using bound.symm.trans bound', ?_⟩
    rw [value, nearest.eq_iff.2 working]

/-- Of the number that an event carries, a nearest number of the working precision is bound, unless
it is refused for a shift out of reach or for its size.  So the number itself is bound, or refused,
just if it is one of the working precision or to be refused, and two different numbers of the
working precision are never bound as the same value. -/
theorem decimals_nearest (iso : IsoReader) (n scale : Int) (c : Column) (raw : Value)
    (h : CarriesDecimal n scale c raw) :
    let x : ℚ := n * 10 ^ (-scale)
    (Refused iso c raw ↔ Decimal.maxShift < |scale| ∨ Decimal.limit ≤ |x|) ∧
    (Refused iso c raw ∨ ∃ y, BoundAs iso c raw y ∧ Decimal.Nearest x y) ∧
    (Refused iso c raw ∨ BoundAs iso c raw x ↔
      Decimal.maxShift < |scale| ∨ Decimal.limit ≤ |x| ∨ Decimal.Working x) ∧
    ∀ n' scale' c' raw' w, CarriesDecimal n' scale' c' raw' →
      coerce (.standard iso) c raw = .ok w → coerce (.standard iso) c' raw' = .ok w →
      Decimal.Working x → Decimal.Working (n' * 10 ^ (-scale') : ℚ) →
      x = n' * 10 ^ (-scale') := by
  intro x
  have refusal : Refused iso c raw ↔ Decimal.maxShift < |scale| ∨ Decimal.limit ≤ |x| := by
    rcases h.outcome iso with ⟨refused, cause⟩ | ⟨y, ⟨d, bound, -⟩, -, near, small⟩
    · exact iff_of_true refused cause
    · exact iff_of_false (fun refused => refused.not_ok _ bound)
        (not_or.2 ⟨not_lt.2 near, not_le.2 small⟩)
  have result : Refused iso c raw ∨ ∃ y, BoundAs iso c raw y ∧ Decimal.Nearest x y := by
    rcases h.outcome iso with ⟨refused, -⟩ | ⟨y, bound, nearest, -⟩
    · exact .inl refused
    · exact .inr ⟨y, bound, nearest⟩
  refine ⟨refusal, result, ?_, ?_⟩
  · rw [← or_assoc, ← refusal]
    rcases result with refused | ⟨y, bound, nearest⟩
    · exact iff_of_true (.inl refused) (.inl refused)
    · refine or_congr_right ⟨fun exact => ?_, fun working => ?_⟩
      · exact nearest.eq_iff.1 (bound.unique exact)
      · rwa [← nearest.eq_iff.2 working]
  · intro n' scale' c' raw' w h' bound bound' working working'
    obtain ⟨d, hd, value⟩ := h.exact working bound
    obtain ⟨d', hd', value'⟩ := h'.exact working' bound'
    cases hd.symm.trans hd'
    exact Option.some.inj (value.symm.trans value')

namespace Orders

/-- The price of an order, in hundredths. -/
def price : Column where
  name := "price"
  type := "bytes"
  semanticType := some fixedScaleDecimal
  parameters := [("scale", .text "2")]

/-- The amount of an order, with as many digits as it is given. -/
def amount : Column where
  name := "amount"
  type := "struct"
  semanticType := some variableScaleDecimal

end Orders

/-- Twenty-eight nines are bound as they are. -/
theorem decimals_nearest_price :
    let n : Int := -9999999999999999999999999999
    let raw := Value.text "37AxocHa/Z7wAAAB"
    CarriesDecimal n 2 Orders.price raw ∧ ¬ Refused Iso.reader Orders.price raw ∧
      BoundAs Iso.reader Orders.price raw (n * 10 ^ (-2 : ℤ)) := by
  intro n raw
  have characters : String.ofList (Base64.encode (TwosComplement.encode 12 n)) =
      "37AxocHa/Z7wAAAB" := by decide +kernel
  have encoded : Encodes n raw := by
    rw [show raw = .text _ from congrArg Value.text characters.symm]
    exact .text 12 (by decide)
  have carried : CarriesDecimal n 2 Orders.price raw := .fixedScale _ _ rfl encoded rfl
  obtain ⟨refusal, -, kept, -⟩ := decimals_nearest Iso.reader n 2 Orders.price raw carried
  have working : Decimal.Working (n * 10 ^ (-2 : ℤ)) :=
    ⟨9999999999999999999999999999, -2, by decide, by decide, by decide, by norm_num [n, abs_mul]⟩
  have accepted : ¬ Refused Iso.reader Orders.price raw := by
    rw [refusal, not_or, not_lt, not_le]
    exact ⟨by decide, working.lt_limit⟩
  exact ⟨carried, accepted, (kept.2 (.inr (.inr working))).resolve_left accepted⟩

/-- A twenty-ninth digit is lost without a scale, and with it the difference between two numbers. -/
theorem decimals_nearest_lost :
    let n : Int := 10000000000000000000000000000
    let encoding (m : Int) : Value :=
      .object [("scale", .int 0), ("value", .bytes (TwosComplement.encode 12 m))]
    let d := Decimal.finite false 1000000000000000000000000000 1
    CarriesDecimal n 0 Orders.amount (encoding n) ∧
      CarriesDecimal (n + 1) 0 Orders.amount (encoding (n + 1)) ∧
      coerce (.standard Iso.reader) Orders.amount (encoding n) = .ok (.decimal d) ∧
      coerce (.standard Iso.reader) Orders.amount (encoding (n + 1)) = .ok (.decimal d) ∧
      d.value? ≠ some (n + 1 : ℚ) := by
  intro n encoding d
  have carried (m : Int) (fits : TwosComplement.Fits 12 m) :
      CarriesDecimal m 0 Orders.amount (encoding m) :=
    .variableScale _ _ _ _ rfl rfl (.bytes 12 fits) rfl rfl
  have exactly := carried n (by decide)
  have closely := carried (n + 1) (by decide)
  refine ⟨exactly, closely, exactly.bound (by decide +kernel),
    closely.bound (by decide +kernel), ?_⟩
  norm_num [d, n, Decimal.value?]

end Changefeed
