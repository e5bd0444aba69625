import Changefeed.Proofs.Parser.Decimal

/-!
# Unscaled integers

The integers that decimals are made of, as bytes or as base64 text.  Reading them inverts writing
them in any number of bytes that is enough, a longer writing adds nothing but the sign, and a text
with a character that base64 does not have is refused (`unscaled_inverts`).
-/

open Changefeed.Parser (unscaled)

namespace Changefeed

/-- Of the byte strings of one length, just one is read as an integer. -/
theorem unscaled_bytes_eq_ok_iff {bs : List UInt8} {n : Int} (h : TwosComplement.Fits bs.length n) :
    unscaled (.bytes bs) = .ok n ↔ bs = TwosComplement.encode bs.length n := by
  rw [unscaled, Except.ok.injEq]
  constructor
  · rintro rfl
    exact (TwosComplement.encode_decode bs).symm
  · intro same
    rw [same]
    exact TwosComplement.decode_encode h

/-- A text with a character that base64 does not have is refused, in one way if it is not ASCII. -/
theorem unscaled_text_eq_fault {s : String} {c : Char} (hc : c ∈ s.toList)
    (foreign : c ∉ Base64.alphabet) (unpadded : c ≠ '=') :
    unscaled (.text s) =
      Parser.fault
        (if s.toList.any fun d => 128 ≤ d.toNat then .invalidValue else .invalidBase64) := by
  rw [unscaled, Base64.decode?_eq_none hc foreign unpadded]
  split_ifs <;> rfl

/-- An integer is read from as many bytes as hold it, and from no other bytes of that number; from
more bytes, which are those with the byte of its sign in front; and from the base64 text of either.
A text with a character outside base64 is refused. -/
theorem unscaled_inverts (n : Int) (k : Nat) (hk : 1 ≤ k) (low : -2 ^ (8 * k - 1) ≤ n)
    (high : n < 2 ^ (8 * k - 1)) :
    (TwosComplement.encode k n).length = k ∧
    (∀ bs, bs.length = k → (unscaled (.bytes bs) = .ok n ↔ bs = TwosComplement.encode k n)) ∧
    unscaled (.text (String.ofList (Base64.encode (TwosComplement.encode k n)))) = .ok n ∧
    (∀ j, TwosComplement.encode (j + k) n =
        List.replicate j (TwosComplement.signByte n) ++ TwosComplement.encode k n ∧
      unscaled (.bytes (TwosComplement.encode (j + k) n)) = .ok n ∧
      unscaled (.text (String.ofList (Base64.encode (TwosComplement.encode (j + k) n)))) =
        .ok n) ∧
    ∀ (s : String) (c : Char), c ∈ s.toList → c ∉ Base64.alphabet → c ≠ '=' →
      unscaled (.text s) =
        Parser.fault
          (if s.toList.any fun d => 128 ≤ d.toNat then .invalidValue else .invalidBase64) := by
  have fits : TwosComplement.Fits k n := (TwosComplement.fits_iff hk).2 ⟨low, high⟩
  refine ⟨TwosComplement.length_bytesOf k _, ?_, (Encodes.text k fits).unscaled_eq, fun j => ?_,
    fun s c => unscaled_text_eq_fault⟩
  · rintro bs rfl
    exact unscaled_bytes_eq_ok_iff fits
  · have more : TwosComplement.Fits (j + k) n := fits.add j
    exact ⟨TwosComplement.encode_add fits j, (Encodes.bytes _ more).unscaled_eq,
      (Encodes.text _ more).unscaled_eq⟩

/-- A negative integer in the two bytes that it needs and in four, and a text that ends in a line
feed. -/
theorem unscaled_inverts_negative :
    (1 : Nat) ≤ 2 ∧ -2 ^ (8 * 2 - 1) ≤ (-130 : Int) ∧ (-130 : Int) < 2 ^ (8 * 2 - 1) ∧
      unscaled (.text "/34=") = .ok (-130) ∧
      unscaled (.bytes [255, 255, 255, 126]) = .ok (-130) ∧
      unscaled (.text "/34=\n") = Parser.fault .invalidBase64 := by
  obtain ⟨-, -, text, longer, foreign⟩ :=
    unscaled_inverts (-130) 2 (by decide) (by decide) (by decide)
  have extended : TwosComplement.encode (2 + 2) (-130) = [255, 255, 255, 126] := by
    decide +kernel
  have characters : String.ofList (Base64.encode (TwosComplement.encode 2 (-130))) = "/34=" := by
    decide +kernel
  have text : unscaled (.text "/34=") = .ok (-130) := characters ▸ text
  refine ⟨by decide, by decide, by decide, text, extended ▸ (longer 2).2.1, ?_⟩
  rw [foreign "/34=\n" '\n' (by decide) (by decide) (by decide), if_neg (by decide)]

end Changefeed
