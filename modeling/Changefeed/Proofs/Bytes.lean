import Mathlib.Algebra.Order.Ring.Int
import Mathlib.Tactic.Positivity
import Mathlib.Tactic.Ring
import Changefeed.Bytes.Base64
import Changefeed.Bytes.TwosComplement

/-!
# Bytes and integers, read back

What `Base64.encode` and `TwosComplement.encode` write is read back by their decoders: all bytes
through the text, and every integer through as many bytes as hold it
(`TwosComplement.decode_encode`).  No other bytes of that number give the integer
(`TwosComplement.encode_decode`), and longer ones only repeat its sign in front
(`TwosComplement.encode_add`).
-/

namespace Changefeed

namespace Base64

/-! ### Characters -/

/-- The values of the characters that `encode` writes, without the padding. -/
def sextets : List UInt8 → List Nat
  | a :: b :: c :: rest =>
    let n := (a.toNat * 256 + b.toNat) * 256 + c.toNat
    n / 262144 :: n / 4096 % 64 :: n / 64 % 64 :: n % 64 :: sextets rest
  | [a, b] =>
    let n := (a.toNat * 256 + b.toNat) * 4
    [n / 4096, n / 64 % 64, n % 64]
  | [a] =>
    let n := a.toNat * 16
    [n / 64, n % 64]
  | [] => []

/-- The padding behind the characters of a number of bytes. -/
def padCount (n : Nat) : Nat :=
  (3 - n % 3) % 3

@[simp] theorem padCount_add_three (n : Nat) : padCount (n + 3) = padCount n := by
  simp only [padCount, Nat.add_mod_right]

theorem encode_eq (bs : List UInt8) :
    encode bs = (sextets bs).map ofSextet ++ List.replicate (padCount bs.length) '=' := by
  fun_induction encode bs with
  | case1 a b c rest n ih =>
    have hpads : padCount (a :: b :: c :: rest).length = padCount rest.length :=
      padCount_add_three rest.length
    simp only [sextets, List.map_cons, List.cons_append, hpads, ih]
    rfl
  | case2 a b => rfl
  | case3 a => rfl
  | case4 => rfl

theorem lt_of_mem_sextets {bs : List UInt8} {n : Nat} (h : n ∈ sextets bs) : n < 64 := by
  fun_induction sextets bs with
  | case1 a b c rest m ih =>
    have ha := a.toNat_lt
    have hb := b.toNat_lt
    have hc := c.toNat_lt
    simp only [List.mem_cons] at h
    rcases h with h | h | h | h | h
    · omega
    · omega
    · omega
    · omega
    · exact ih h
  | case2 a b m =>
    have ha := a.toNat_lt
    have hb := b.toNat_lt
    simp only [List.mem_cons, List.not_mem_nil, or_false] at h
    omega
  | case3 a m =>
    have ha := a.toNat_lt
    simp only [List.mem_cons, List.not_mem_nil, or_false] at h
    omega
  | case4 => simp at h

theorem isComplete_add_four {n pads : Nat} (h : isComplete n pads = true) :
    isComplete (n + 4) pads = true := by
  simp only [isComplete, Nat.add_mod_right] at h ⊢
  split at h <;> simp_all

theorem isComplete_sextets (bs : List UInt8) :
    isComplete (sextets bs).length (padCount bs.length) = true := by
  fun_induction sextets bs with
  | case1 a b c rest n ih =>
    have hpads : padCount (a :: b :: c :: rest).length = padCount rest.length :=
      padCount_add_three rest.length
    rw [hpads]
    exact isComplete_add_four ih
  | case2 a b => rfl
  | case3 a => rfl
  | case4 => rfl

theorem sextet?_ofSextet {n : Nat} (h : n < 64) : sextet? (ofSextet n) = some n := by
  have hall : ∀ n < 64, sextet? (ofSextet n) = some n := by decide
  exact hall n h

theorem ofSextet_ascii {n : Nat} (h : n < 64) : (ofSextet n).toNat < 128 := by
  have hall : ∀ n < 64, (ofSextet n).toNat < 128 := by decide
  exact hall n h

/-- Only ASCII characters are written. -/
theorem encode_ascii {bs : List UInt8} {c : Char} (h : c ∈ encode bs) : c.toNat < 128 := by
  rw [encode_eq, List.mem_append, List.mem_map] at h
  rcases h with ⟨n, hn, rfl⟩ | h
  · exact ofSextet_ascii (lt_of_mem_sextets hn)
  · rw [List.eq_of_mem_replicate h]
    decide

/-! ### Reading back -/

theorem decodeGroups_sextets (bs : List UInt8) : decodeGroups (sextets bs) = bs := by
  have hbyte : ∀ (a : UInt8) (n : Nat), n = a.toNat → UInt8.ofNat n = a := by
    rintro a _ rfl
    exact UInt8.ofNat_toNat
  fun_induction sextets bs with
  | case1 a b c rest n ih =>
    have ha := a.toNat_lt
    have hb := b.toNat_lt
    have hc := c.toNat_lt
    simp only [decodeGroups, ih]
    rw [hbyte a _ (by omega), hbyte b _ (by omega), hbyte c _ (by omega)]
  | case2 a b n =>
    have ha := a.toNat_lt
    have hb := b.toNat_lt
    simp only [decodeGroups]
    rw [hbyte a _ (by omega), hbyte b _ (by omega)]
  | case3 a n =>
    have ha := a.toNat_lt
    simp only [decodeGroups]
    rw [hbyte a _ (by omega)]
  | case4 => rfl

/-- The characters of the alphabet end where the padding starts. -/
theorem takeWhile_append_pads {ns : List Nat} (h : ∀ n ∈ ns, n < 64) (pads : Nat) :
    ((ns.map ofSextet ++ List.replicate pads '=').takeWhile fun c => (sextet? c).isSome) =
      ns.map ofSextet := by
  have hdata : ∀ c ∈ ns.map ofSextet, (sextet? c).isSome = true := by
    intro c hc
    obtain ⟨n, hn, rfl⟩ := List.mem_map.mp hc
    rw [sextet?_ofSextet (h n hn)]
    rfl
  have hpads : ((List.replicate pads '=').takeWhile fun c => (sextet? c).isSome) = [] := by
    cases pads with
    | zero => rfl
    | succ n => rfl
  rw [List.takeWhile_append_of_pos hdata, hpads, List.append_nil]

theorem filterMap_sextet? {ns : List Nat} (h : ∀ n ∈ ns, n < 64) :
    (ns.map ofSextet).filterMap sextet? = ns := by
  rw [List.filterMap_map]
  refine (List.filterMap_congr fun n hn => ?_).trans (List.filterMap_some)
  exact sextet?_ofSextet (h n hn)

/-- All bytes are read back from their text. -/
theorem decode?_encode (bs : List UInt8) : decode? (encode bs) = some bs := by
  have hsmall : ∀ n ∈ sextets bs, n < 64 := fun n hn => lt_of_mem_sextets hn
  have hdata : ((encode bs).takeWhile fun c => (sextet? c).isSome) =
      (sextets bs).map ofSextet := by
    rw [encode_eq, takeWhile_append_pads hsmall]
  have hpads : (encode bs).drop ((sextets bs).map ofSextet).length =
      List.replicate (padCount bs.length) '=' := by
    rw [encode_eq, List.drop_left]
  have hcomplete : isComplete ((sextets bs).map ofSextet).length
      (List.replicate (padCount bs.length) '=').length = true := by
    rw [List.length_map, List.length_replicate, isComplete_sextets]
  have hall : (List.replicate (padCount bs.length) '=').all (· == '=') = true := by simp
  rw [decode?, hdata, hpads, hall, hcomplete, filterMap_sextet? hsmall, decodeGroups_sextets]
  rfl

/-! ### Other characters -/

/-- The characters of the alphabet in the order of their values. -/
def alphabet : List Char :=
  "ABCDEFGHIJKLMNOPQRSTUVWXYZabcdefghijklmnopqrstuvwxyz0123456789+/".toList

theorem sextet?_eq_none_of_not_ascii {c : Char} (h : 128 ≤ c.toNat) : sextet? c = none := by
  have above {d : Char} (small : d.toNat < 128) : ¬ c ≤ d := by
    intro le
    have : c.toNat ≤ d.toNat := UInt32.le_iff_toNat_le.1 le
    omega
  have other {d : Char} (small : d.toNat < 128) : c ≠ d := by
    rintro rfl
    omega
  simp [sextet?, above (d := 'Z') (by decide), above (d := 'z') (by decide),
    above (d := '9') (by decide), other (d := '+') (by decide), other (d := '/') (by decide)]

/-- The value of a character is its place in the alphabet. -/
theorem sextet?_eq_some_iff {c : Char} {n : Nat} : sextet? c = some n ↔ alphabet[n]? = some c := by
  constructor
  · intro h
    have each : ∀ m < 128, ∀ n ∈ sextet? (Char.ofNat m), alphabet[n]? = some (Char.ofNat m) := by
      decide +kernel
    rcases Nat.lt_or_ge c.toNat 128 with ascii | other
    · have here := each c.toNat ascii n
      rw [Char.ofNat_toNat] at here
      exact here h
    · rw [sextet?_eq_none_of_not_ascii other] at h
      cases h
  · intro h
    have each : ∀ n < 64, alphabet[n]?.bind sextet? = some n := by decide +kernel
    have here := each n (List.getElem?_eq_some_iff.1 h).1
    rwa [h] at here

/-- A character that is neither of the alphabet nor padding makes a text unreadable. -/
theorem decode?_eq_none {s : List Char} {c : Char} (hc : c ∈ s) (foreign : c ∉ alphabet)
    (unpadded : c ≠ '=') : decode? s = none := by
  have parts := List.takeWhile_append_dropWhile (p := fun c => (sextet? c).isSome) (l := s)
  have rest : s.drop (s.takeWhile fun c => (sextet? c).isSome).length =
      s.dropWhile fun c => (sextet? c).isSome :=
    (congrArg (List.drop _) parts).symm.trans List.drop_left
  have outside : c ∉ s.takeWhile fun c => (sextet? c).isSome := by
    intro data
    obtain ⟨n, value⟩ := Option.isSome_iff_exists.1 (List.all_eq_true.1 List.all_takeWhile c data)
    exact foreign (List.mem_of_getElem? (sextet?_eq_some_iff.1 value))
  have behind : c ∈ s.dropWhile fun c => (sextet? c).isSome := by
    rw [← parts, List.mem_append] at hc
    exact hc.resolve_left outside
  have mixed : ((s.dropWhile fun c => (sextet? c).isSome).all (· == '=')) = false := by
    rw [List.all_eq_false]
    exact ⟨c, behind, by simpa using unpadded⟩
  rw [decode?, rest, mixed]
  rfl

end Base64

namespace TwosComplement

/-- Whether `k` bytes hold an integer. -/
def Fits (k : Nat) (n : Int) : Prop :=
  -(256 ^ k : Int) ≤ 2 * n ∧ 2 * n < 256 ^ k

instance (k : Nat) (n : Int) : Decidable (Fits k n) :=
  inferInstanceAs (Decidable (_ ∧ _))

/-- As many bytes as hold an integer, by the bits that stand behind the first one. -/
theorem fits_iff {k : Nat} {n : Int} (hk : 1 ≤ k) :
    Fits k n ↔ -2 ^ (8 * k - 1) ≤ n ∧ n < 2 ^ (8 * k - 1) := by
  have halves : (256 ^ k : Int) = 2 * 2 ^ (8 * k - 1) := by
    rw [← pow_succ', show (256 : Int) = 2 ^ 8 from rfl, ← pow_mul]
    congr 1
    omega
  rw [Fits, halves]
  omega

/-- More bytes hold it too. -/
theorem Fits.add {k : Nat} {n : Int} (h : Fits k n) (j : Nat) : Fits (j + k) n := by
  obtain ⟨low, high⟩ := h
  have more : (256 ^ k : Int) ≤ 256 ^ (j + k) :=
    pow_le_pow_right₀ (by decide) (Nat.le_add_left k j)
  exact ⟨by omega, by omega⟩

theorem unsigned_append_singleton (bs : List UInt8) (b : UInt8) :
    unsigned (bs ++ [b]) = unsigned bs * 256 + b.toNat := by
  simp [unsigned]

@[simp] theorem length_bytesOf (k n : Nat) : (bytesOf k n).length = k := by
  induction k generalizing n with
  | zero => rfl
  | succ k ih => simp [bytesOf, ih]

theorem unsigned_bytesOf (k n : Nat) : unsigned (bytesOf k n) = n % 256 ^ k := by
  induction k generalizing n with
  | zero => simp [bytesOf, unsigned, Nat.mod_one]
  | succ k ih =>
    have hbyte : (UInt8.ofNat (n % 256)).toNat = n % 256 := by simp
    rw [bytesOf, unsigned_append_singleton, ih, hbyte, pow_succ', Nat.mod_mul]
    ring

/-- Every integer is read back from as many bytes as hold it. -/
theorem decode_encode {k : Nat} {n : Int} (h : Fits k n) : decode (encode k n) = n := by
  obtain ⟨hlo, hhi⟩ := h
  have hrange : ((256 ^ k : Nat) : Int) = 256 ^ k := by norm_cast
  have hpos : (0 : Int) < 256 ^ k := by positivity
  have hnonneg : 0 ≤ n % 256 ^ k := Int.emod_nonneg n hpos.ne'
  have hlt : n % 256 ^ k < 256 ^ k := Int.emod_lt_of_pos n hpos
  have hvalue : (unsigned (encode k n) : Int) = n % 256 ^ k := by
    rw [encode, unsigned_bytesOf, Nat.mod_eq_of_lt]
    · rw [Nat.pow_eq, hrange, Int.toNat_of_nonneg hnonneg]
    · rw [Nat.pow_eq, hrange]
      omega
  have hlen : (encode k n).length = k := length_bytesOf k _
  rcases lt_or_ge n 0 with hn | hn
  · -- a negative integer is stored as the range above it
    have hmod : n % 256 ^ k = n + 256 ^ k := by
      rw [← Int.add_emod_right, Int.emod_eq_of_lt (by omega) (by omega)]
    have hhigh : Nat.pow 256 (encode k n).length ≤ 2 * unsigned (encode k n) := by
      rw [hlen, Nat.pow_eq]
      omega
    rw [decode, if_pos hhigh, hvalue, hmod, hlen, Nat.pow_eq, hrange]
    ring
  · have hmod : n % 256 ^ k = n := Int.emod_eq_of_lt hn (by omega)
    have hlow : ¬ Nat.pow 256 (encode k n).length ≤ 2 * unsigned (encode k n) := by
      rw [hlen, Nat.pow_eq]
      omega
    rw [decode, if_neg hlow, hvalue, hmod]

/-! ### Bytes, read back -/

theorem unsigned_lt (bs : List UInt8) : unsigned bs < 256 ^ bs.length := by
  induction bs using List.reverseRecOn with
  | nil => exact Nat.one_pos
  | append_singleton bs b ih =>
    have hb := b.toNat_lt
    rw [unsigned_append_singleton, List.length_append, List.length_singleton, pow_succ]
    omega

theorem bytesOf_unsigned (bs : List UInt8) : bytesOf bs.length (unsigned bs) = bs := by
  induction bs using List.reverseRecOn with
  | nil => rfl
  | append_singleton bs b ih =>
    have hb := b.toNat_lt
    have front : (unsigned bs * 256 + b.toNat) / 256 = unsigned bs := by omega
    have last : (unsigned bs * 256 + b.toNat) % 256 = b.toNat := by omega
    rw [unsigned_append_singleton, List.length_append, List.length_singleton, bytesOf, front, last,
      ih, UInt8.ofNat_toNat]

/-- The integer of bytes by their natural number, which is taken as it is in the lower half of its
range, and less the range in the upper half. -/
theorem decode_cases (bs : List UInt8) :
    (2 * unsigned bs < 256 ^ bs.length ∧ decode bs = unsigned bs) ∨
      (256 ^ bs.length ≤ 2 * unsigned bs ∧
        decode bs = (unsigned bs : Int) - (256 ^ bs.length : Nat)) := by
  rcases Nat.lt_or_ge (2 * unsigned bs) (256 ^ bs.length) with low | high
  · exact .inl ⟨low, if_neg (Nat.not_le.2 low)⟩
  · exact .inr ⟨high, if_pos high⟩

/-- All bytes are read back from the integer that they hold. -/
theorem encode_decode (bs : List UInt8) : encode bs.length (decode bs) = bs := by
  have below := unsigned_lt bs
  have residue : (decode bs % Nat.pow 256 bs.length).toNat = unsigned bs := by
    rw [Nat.pow_eq]
    rcases decode_cases bs with ⟨-, value⟩ | ⟨-, value⟩
    · rw [value, ← Int.natCast_mod, Int.toNat_natCast, Nat.mod_eq_of_lt below]
    · rw [value, Int.sub_emod_right, ← Int.natCast_mod, Int.toNat_natCast, Nat.mod_eq_of_lt below]
  rw [encode, residue, bytesOf_unsigned]

/-! ### Longer encodings -/

/-- The byte that goes in front of the encodings of an integer to make them longer. -/
def signByte (n : Int) : UInt8 :=
  if n < 0 then 255 else 0

theorem unsigned_cons (b : UInt8) (bs : List UInt8) :
    unsigned (b :: bs) = b.toNat * 256 ^ bs.length + unsigned bs := by
  induction bs using List.reverseRecOn with
  | nil => simp [unsigned]
  | append_singleton bs c ih =>
    rw [← List.cons_append, unsigned_append_singleton, ih, unsigned_append_singleton,
      List.length_append, List.length_singleton, pow_succ]
    ring

theorem decode_signByte_cons (bs : List UInt8) :
    decode (signByte (decode bs) :: bs) = decode bs := by
  have below := unsigned_lt bs
  have longer := decode_cases (signByte (decode bs) :: bs)
  rw [unsigned_cons, List.length_cons, pow_succ] at longer
  rcases decode_cases bs with ⟨low, same⟩ | ⟨high, less⟩
  · have plus : (signByte (decode bs)).toNat = 0 := by
      rw [same, signByte, if_neg (by omega)]
      rfl
    rw [plus] at longer
    omega
  · have minus : (signByte (decode bs)).toNat = 255 := by
      rw [less, signByte, if_pos (by omega)]
      rfl
    rw [minus] at longer
    omega

/-- The byte of the sign in front, any number of times, leaves the integer as it is. -/
theorem decode_extended (j : Nat) (bs : List UInt8) :
    decode (List.replicate j (signByte (decode bs)) ++ bs) = decode bs := by
  induction j with
  | zero => rfl
  | succ j ih =>
    have next := decode_signByte_cons (List.replicate j (signByte (decode bs)) ++ bs)
    rw [ih] at next
    rwa [List.replicate_succ, List.cons_append]

/-- An integer in more bytes than needed is its sign and the fewer bytes. -/
theorem encode_add {k : Nat} {n : Int} (h : Fits k n) (j : Nat) :
    encode (j + k) n = List.replicate j (signByte n) ++ encode k n := by
  have longer := encode_decode (List.replicate j (signByte (decode (encode k n))) ++ encode k n)
  rw [decode_extended, decode_encode h, List.length_append, List.length_replicate] at longer
  rwa [show (encode k n).length = k from length_bytesOf k _] at longer

end TwosComplement
end Changefeed
