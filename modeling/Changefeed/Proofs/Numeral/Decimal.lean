import Mathlib.Algebra.Order.Field.Power
import Mathlib.Tactic.Linarith
import Mathlib.Tactic.Positivity
import Mathlib.Tactic.Ring
import Changefeed.Numeral.Decimal

/-!
# Rounding of decimals

Arithmetic on decimals rounds.  The rationals that it can give are `Decimal.Working`; a result is
`Decimal.Nearest` to the exact one, and from `Decimal.limit` on there is none (`Decimal.Rounds`).
Shifts of the exponent round so (`Decimal.rounds_scaled`), and a result is exact just where the
exact one is `Working` (`Decimal.Nearest.eq_iff`).
-/

namespace Changefeed.Decimal

/-! ### Numbers of the working precision -/

/-- The rational number of a decimal, if it has one. -/
def value? : Decimal → Option ℚ
  | .finite negative c e => some (if negative then -(c * 10 ^ e) else c * 10 ^ e)
  | _ => none

/-- The rationals with a coefficient and an exponent in the working precision. -/
def Working (x : ℚ) : Prop :=
  ∃ (c : ℕ) (e : ℤ), c < 10 ^ precision ∧ leastExponent ≤ e ∧ e + precision - 1 ≤ maxExponent ∧
    |x| = c * 10 ^ e

/-- The rationals of the working precision that no other one is closer to `x` than. -/
def Nearest (x y : ℚ) : Prop :=
  Working y ∧ ∀ z, Working z → |x - y| ≤ |x - z|

/-- Where the rationals start that are rounded up beyond all of the working precision: half a unit
of the last digit above the greatest one. -/
def limit : ℚ :=
  (10 ^ precision - 1 / 2) * 10 ^ (maxExponent - precision + 1)

/-- What arithmetic may give where the exact result is `x`. -/
inductive Rounds (x : ℚ) : Except Trap Decimal → Prop where
  | number (d : Decimal) (y : ℚ) : |x| < limit → d.value? = some y → Nearest x y →
      Rounds x (.ok d)
  | overflow : limit ≤ |x| → Rounds x (.error .overflow)

theorem Working.neg {x : ℚ} (h : Working x) : Working (-x) := by
  rwa [Working, abs_neg]

theorem Nearest.neg {x y : ℚ} (h : Nearest x y) : Nearest (-x) (-y) := by
  refine ⟨h.1.neg, fun z hz => ?_⟩
  calc |-x - -y| = |x - y| := by rw [← abs_neg]; ring_nf
    _ ≤ |x - -z| := h.2 _ hz.neg
    _ = |-x - z| := by rw [← abs_neg]; ring_nf

theorem nearest_self {x : ℚ} (h : Working x) : Nearest x x :=
  ⟨h, fun z _ => by rw [sub_self, abs_zero]; exact abs_nonneg _⟩

/-- A number is nearest to itself exactly if it is of the working precision, and then no other one
is. -/
theorem Nearest.eq_iff {x y : ℚ} (h : Nearest x y) : y = x ↔ Working x := by
  constructor
  · rintro rfl
    exact h.1
  · intro hx
    have hzero : |x - y| ≤ 0 := by simpa using h.2 x hx
    exact (sub_eq_zero.mp (abs_nonpos_iff.mp hzero)).symm

/-! ### Powers of ten -/

theorem ten_zpow_pos (e : ℤ) : (0 : ℚ) < 10 ^ e := by positivity

theorem value_nonneg (c : ℕ) (e : ℤ) : (0 : ℚ) ≤ c * 10 ^ e := by positivity

theorem ten_zpow_le {e e' : ℤ} (h : e ≤ e') : (10 : ℚ) ^ e ≤ 10 ^ e' :=
  zpow_le_zpow_right₀ (by norm_num) h

theorem ten_zpow_mul (k : ℕ) (e : ℤ) : (10 : ℚ) ^ k * 10 ^ e = 10 ^ (e + k) := by
  rw [zpow_add₀ (by norm_num), zpow_natCast, mul_comm]

/-- A greater power is a multiple of a smaller one. -/
theorem ten_zpow_shift {e e' : ℤ} (h : e ≤ e') :
    (10 : ℚ) ^ e' = 10 ^ (e' - e).toNat * 10 ^ e := by
  rw [ten_zpow_mul]
  congr 1
  omega

/-! ### Digits -/

theorem digitCount_pos (n : ℕ) : 0 < digitCount n := Nat.length_toDigits_pos

theorem digitCount_le_iff {n k : ℕ} (hk : 0 < k) : digitCount n ≤ k ↔ n < 10 ^ k :=
  Nat.length_toDigits_le_iff (by norm_num) hk

theorem lt_pow_digitCount (n : ℕ) : n < 10 ^ digitCount n :=
  (digitCount_le_iff (digitCount_pos n)).1 le_rfl

theorem pow_digitCount_le {n : ℕ} (hn : 0 < n) : 10 ^ (digitCount n - 1) ≤ n := by
  rcases Nat.eq_zero_or_pos (digitCount n - 1) with hone | hmore
  · rw [hone]
    exact hn
  · by_contra hlt
    have hle := (digitCount_le_iff hmore).2 (not_le.mp hlt)
    omega

/-- A number lies below the power of ten above its first digit. -/
theorem lt_of_digitCount (c : ℕ) (e : ℤ) : (c : ℚ) * 10 ^ e < 10 ^ (e + digitCount c) := by
  rw [← ten_zpow_mul]
  have hlt : (c : ℚ) < 10 ^ digitCount c := by exact_mod_cast lt_pow_digitCount c
  exact mul_lt_mul_of_pos_right hlt (ten_zpow_pos e)

/-- A number does not lie below the power of ten of its first digit. -/
theorem le_of_digitCount {c : ℕ} (hc : 0 < c) (e : ℤ) :
    (10 : ℚ) ^ (e + digitCount c - 1) ≤ c * 10 ^ e := by
  have hexp : e + digitCount c - 1 = e + (digitCount c - 1 : ℕ) := by
    have := digitCount_pos c
    omega
  rw [hexp, ← ten_zpow_mul]
  have hle : (10 : ℚ) ^ (digitCount c - 1) ≤ c := by exact_mod_cast pow_digitCount_le hc
  exact mul_le_mul_of_nonneg_right hle (ten_zpow_pos e).le

/-! ### Dropping digits -/

/-- Digits are dropped with a fraction up to a half, and another one is added with a fraction from
a half on. -/
theorem dropDigits_cases (c k : ℕ) :
    (dropDigits c k = c / 10 ^ k ∧ 2 * (c % 10 ^ k) ≤ 10 ^ k ∧
        (2 * (c % 10 ^ k) = 10 ^ k → c / 10 ^ k % 2 = 0)) ∨
      (dropDigits c k = c / 10 ^ k + 1 ∧ 10 ^ k ≤ 2 * (c % 10 ^ k)) := by
  simp only [dropDigits, Numeral.roundHalfEven, Nat.pow_eq]
  split_ifs <;> omega

theorem dropDigits_bounds (c k : ℕ) :
    2 * c ≤ 2 * (dropDigits c k * 10 ^ k) + 10 ^ k ∧
      2 * (dropDigits c k * 10 ^ k) ≤ 2 * c + 10 ^ k := by
  have hsplit := Nat.div_add_mod' c (10 ^ k)
  have hlt := Nat.mod_lt c (show 0 < 10 ^ k by positivity)
  rcases dropDigits_cases c k with ⟨h, hfraction, -⟩ | ⟨h, hfraction⟩
  · rw [h]
    omega
  · rw [h, Nat.add_one_mul (c / 10 ^ k)]
    omega

/-- Where `k` digits of `k + w` are dropped, at most `w` nines are left, or the power of ten above
them. -/
theorem dropDigits_le_pow {c k w : ℕ} (hc : c < 10 ^ (k + w)) : dropDigits c k ≤ 10 ^ w := by
  have hquot : c / 10 ^ k < 10 ^ w := Nat.div_lt_of_lt_mul (by rwa [← pow_add])
  rcases dropDigits_cases c k with ⟨h, -⟩ | ⟨h, -⟩ <;> omega

/-- What is left is as close to the number as half a unit. -/
theorem dropDigits_close (c k : ℕ) (e : ℤ) :
    2 * |(c : ℚ) * 10 ^ e - dropDigits c k * 10 ^ (e + k)| ≤ 10 ^ (e + k) := by
  obtain ⟨hlo, hhi⟩ := dropDigits_bounds c k
  have hlo' : (2 * c : ℚ) ≤ 2 * (dropDigits c k * 10 ^ k) + 10 ^ k := by exact_mod_cast hlo
  have hhi' : (2 * (dropDigits c k * 10 ^ k) : ℚ) ≤ 2 * c + 10 ^ k := by exact_mod_cast hhi
  have hclose : 2 * |(c : ℚ) - dropDigits c k * 10 ^ k| ≤ 10 ^ k := by
    rcases abs_cases ((c : ℚ) - dropDigits c k * 10 ^ k) with ⟨h, -⟩ | ⟨h, -⟩ <;> rw [h] <;>
      linarith
  rw [← ten_zpow_mul, ← mul_assoc, ← sub_mul, abs_mul, abs_of_pos (ten_zpow_pos e), ← mul_assoc]
  exact mul_le_mul_of_nonneg_right hclose (ten_zpow_pos e).le

/-- Below a power of ten all nines are rounded up to it from half a unit on, since the last nine is
odd. -/
theorem dropDigits_eq_pow_iff {c k w : ℕ} (hw : 0 < w) (hc : c < 10 ^ (k + w)) :
    dropDigits c k = 10 ^ w ↔ 2 * (10 ^ w * 10 ^ k) ≤ 2 * c + 10 ^ k := by
  constructor
  · intro h
    have := (dropDigits_bounds c k).2
    rwa [h] at this
  · intro h
    have hsplit := Nat.div_add_mod' c (10 ^ k)
    have hlt := Nat.mod_lt c (show 0 < 10 ^ k by positivity)
    have hquot : c / 10 ^ k < 10 ^ w := Nat.div_lt_of_lt_mul (by rwa [← pow_add])
    have hnines : 10 ^ w ≤ c / 10 ^ k + 1 := by
      by_contra hfew
      have hmul : (c / 10 ^ k + 2) * 10 ^ k ≤ 10 ^ w * 10 ^ k :=
        Nat.mul_le_mul_right _ (by omega)
      rw [Nat.add_mul] at hmul
      omega
    have hodd : 10 ^ w % 2 = 0 := by
      rw [Nat.pow_mod, show 10 % 2 = 0 from rfl, Nat.zero_pow hw]
    have hall : (c / 10 ^ k + 1) * 10 ^ k = 10 ^ w * 10 ^ k := by
      rw [show c / 10 ^ k + 1 = 10 ^ w by omega]
    rw [Nat.add_one_mul] at hall
    rcases dropDigits_cases c k with ⟨-, hfraction, heven⟩ | ⟨h, -⟩
    · have := heven (by omega)
      omega
    · omega

/-! ### Nearest numbers -/

/-- A multiple of a unit within half of it is as close as any multiple. -/
theorem closest_multiple {x u : ℚ} {m : ℤ} (hu : 0 < u) (h : 2 * |x - m * u| ≤ u) (j : ℤ) :
    |x - m * u| ≤ |x - j * u| := by
  rcases eq_or_ne j m with rfl | hne
  · exact le_rfl
  have hone : (1 : ℚ) ≤ |(j : ℚ) - m| := by
    exact_mod_cast Int.one_le_abs (sub_ne_zero.mpr hne)
  have hapart : u ≤ |x - m * u| + |x - j * u| :=
    calc u ≤ |(j : ℚ) - m| * u := le_mul_of_one_le_left hu.le hone
      _ = |(x - m * u) - (x - j * u)| := by
        rw [← abs_of_pos hu, ← abs_mul, abs_of_pos hu]
        ring_nf
      _ ≤ |x - m * u| + |x - j * u| := abs_sub _ _
  linarith

/-- A number of the working precision is a multiple of a unit, or below the least number of which
that unit is the last digit. -/
theorem Working.multiple_or_lt {z : ℚ} (h : Working z) (q : ℤ) :
    (∃ j : ℤ, z = j * 10 ^ q) ∨ (leastExponent < q ∧ |z| < 10 ^ (q + precision - 1)) := by
  obtain ⟨c, e, hc, hleast, -, hz⟩ := h
  rcases le_or_gt q e with hq | hq
  · left
    rw [ten_zpow_shift hq, ← mul_assoc] at hz
    rcases abs_choice z with hsign | hsign
    · exact ⟨c * 10 ^ (e - q).toNat, by rw [← hsign, hz]; push_cast; ring⟩
    · exact ⟨-(c * 10 ^ (e - q).toNat), by rw [← neg_neg z, ← hsign, hz]; push_cast; ring⟩
  · refine .inr ⟨by omega, ?_⟩
    have hc' : (c : ℚ) < 10 ^ precision := by exact_mod_cast hc
    calc |z| = c * 10 ^ e := hz
      _ < 10 ^ precision * 10 ^ e := mul_lt_mul_of_pos_right hc' (ten_zpow_pos e)
      _ = 10 ^ (e + precision) := ten_zpow_mul _ _
      _ ≤ 10 ^ (q + precision - 1) := ten_zpow_le (by omega)

/-- The multiple of a unit within half of it is nearest, where no finer digit is kept. -/
theorem nearest_of_close {x : ℚ} {m : ℕ} {q : ℤ} (hm : Working (m * 10 ^ q))
    (close : 2 * |x - m * 10 ^ q| ≤ 10 ^ q)
    (coarse : q = leastExponent ∨ 10 ^ (q + precision - 1) ≤ x) : Nearest x (m * 10 ^ q) := by
  have closest := closest_multiple (m := m) (ten_zpow_pos q) (by exact_mod_cast close)
  push_cast at closest
  refine ⟨hm, fun z hz => ?_⟩
  rcases hz.multiple_or_lt q with ⟨j, rfl⟩ | ⟨hfine, hsmall⟩
  · exact closest j
  · have hx : 10 ^ (q + precision - 1) ≤ x := coarse.resolve_left (by omega)
    have hunits : (10 : ℚ) ^ (q + precision - 1) = 10 ^ (precision - 1) * 10 ^ q := by
      rw [ten_zpow_mul, add_sub_assoc]
      rfl
    calc |x - m * 10 ^ q| ≤ |x - 10 ^ (precision - 1) * 10 ^ q| := by
          simpa using closest (10 ^ (precision - 1))
      _ = x - 10 ^ (q + precision - 1) := by
          rw [← hunits, abs_of_nonneg (sub_nonneg.mpr hx)]
      _ ≤ x - z := by linarith [le_abs_self z]
      _ ≤ |x - z| := le_abs_self _

/-! ### Rounding -/

/-- Numbers up to the greatest coefficient and exponent are below the limit. -/
theorem Working.lt_limit {x : ℚ} (h : Working x) : |x| < limit := by
  obtain ⟨c, e, hc, -, hgreatest, hx⟩ := h
  have hc' : (c : ℚ) ≤ 10 ^ precision - 1 := by
    have hc' : (c : ℚ) + 1 ≤ 10 ^ precision := by exact_mod_cast hc
    linarith
  have hunit := ten_zpow_pos (maxExponent - precision + 1)
  calc |x| = c * 10 ^ e := hx
    _ ≤ c * 10 ^ (maxExponent - precision + 1) :=
      mul_le_mul_of_nonneg_left (ten_zpow_le (by omega)) c.cast_nonneg
    _ < limit := mul_lt_mul_of_pos_right (by linarith) hunit

theorem limit_lt : limit < 10 ^ (maxExponent + 1) := by
  have hunit := ten_zpow_pos (maxExponent - precision + 1)
  have htop : (10 : ℚ) ^ (maxExponent + 1) =
      10 ^ precision * 10 ^ (maxExponent - precision + 1) := by
    rw [ten_zpow_mul, sub_add_eq_add_sub, sub_add_cancel]
  rw [limit, htop]
  linarith

theorem working_of_lt {c : ℕ} {e : ℤ} (hc : c < 10 ^ precision) (least : leastExponent ≤ e)
    (greatest : e + precision - 1 ≤ maxExponent) : Working (c * 10 ^ e) :=
  ⟨c, e, hc, least, greatest, abs_of_nonneg (value_nonneg c e)⟩

/-- A number with few digits between the least and the greatest exponent is of the working
precision: zeros behind it lower an exponent that is too great. -/
theorem working_of_digits {c : ℕ} {e : ℤ} (hc : c < 10 ^ precision) (least : leastExponent ≤ e)
    (greatest : e + digitCount c - 1 ≤ maxExponent) : Working (c * 10 ^ e) := by
  have hrange : leastExponent ≤ maxExponent - precision + 1 := by decide
  rcases le_or_gt (e + precision - 1) maxExponent with hin | hout
  · exact working_of_lt hc least hin
  · have hshift : maxExponent - precision + 1 ≤ e := by omega
    have hvalue : (c : ℚ) * 10 ^ e =
        (c * 10 ^ (e - (maxExponent - precision + 1)).toNat : ℕ) *
          10 ^ (maxExponent - precision + 1) := by
      rw [ten_zpow_shift hshift]
      push_cast
      ring
    rw [hvalue]
    refine working_of_lt ?_ hrange (by omega)
    calc c * 10 ^ (e - (maxExponent - precision + 1)).toNat
        < 10 ^ digitCount c * 10 ^ (e - (maxExponent - precision + 1)).toNat :=
          Nat.mul_lt_mul_of_pos_right (lt_pow_digitCount c) (by positivity)
      _ = 10 ^ (digitCount c + (e - (maxExponent - precision + 1)).toNat) := (pow_add _ _ _).symm
      _ ≤ 10 ^ precision := Nat.pow_le_pow_right (by norm_num) (by omega)

theorem working_zero : Working 0 :=
  ⟨0, leastExponent, by positivity, le_rfl, by decide, by simp⟩

theorem working_maxExponent : Working (10 ^ maxExponent) := by
  have hone : digitCount 1 = 1 := rfl
  have h : Working ((1 : ℕ) * 10 ^ maxExponent) :=
    working_of_digits (by decide) (by decide) (by rw [hone]; omega)
  rwa [Nat.cast_one, one_mul] at h

section Round

variable {c : ℕ} {e : ℤ}

theorem rounds_number {x : ℚ} (negative : Bool) (hx : 0 ≤ x) (near : Nearest x (c * 10 ^ e))
    (small : x < limit) :
    Rounds (if negative then -x else x) (.ok (.finite negative c e)) := by
  cases negative with
  | false => exact .number _ _ (by rwa [if_neg (by simp), abs_of_nonneg hx]) rfl near
  | true => exact .number _ _ (by rwa [if_pos rfl, abs_neg, abs_of_nonneg hx]) rfl near.neg

theorem rounds_overflow {x : ℚ} (negative : Bool) (hx : 0 ≤ x) (large : limit ≤ x) :
    Rounds (if negative then -x else x) (.error .overflow) := by
  cases negative with
  | false => exact .overflow (by rwa [if_neg (by simp), abs_of_nonneg hx])
  | true => exact .overflow (by rwa [if_pos rfl, abs_neg, abs_of_nonneg hx])

/-- Below the least first digit, the digits below the least last one are lost. -/
theorem nearest_at_least (hsmall : e + digitCount c - 1 < minExponent) (hlow : e < leastExponent) :
    Nearest (c * 10 ^ e) (dropDigits c (leastExponent - e).toNat * 10 ^ leastExponent) := by
  have hexp : e + (leastExponent - e).toNat = leastExponent := by omega
  have hleast : leastExponent + precision - 1 = minExponent := rfl
  have hwidth : (precision : ℤ) = 28 := rfl
  have hrange : leastExponent + precision - 1 ≤ maxExponent := by decide
  have hc : c < 10 ^ ((leastExponent - e).toNat + (precision - 1)) := by
    refine (lt_pow_digitCount c).trans_le (Nat.pow_le_pow_right (by norm_num) ?_)
    have : precision = 28 := rfl
    omega
  have hdrop : dropDigits c (leastExponent - e).toNat < 10 ^ precision :=
    (dropDigits_le_pow hc).trans_lt (Nat.pow_lt_pow_right (by norm_num) (by decide))
  have close := dropDigits_close c (leastExponent - e).toNat e
  rw [hexp] at close
  exact nearest_of_close (working_of_lt hdrop le_rfl hrange) close (.inl rfl)

theorem lt_pow_of_long (hlong : precision < digitCount c) :
    c < 10 ^ (digitCount c - precision + precision) := by
  rw [Nat.sub_add_cancel hlong.le]
  exact lt_pow_digitCount c

/-- Digits beyond the precision are lost. -/
theorem nearest_cut (hlong : precision < digitCount c)
    (hm : Working (dropDigits c (digitCount c - precision) *
      10 ^ (e + (digitCount c - precision : ℕ)))) :
    Nearest (c * 10 ^ e) (dropDigits c (digitCount c - precision) *
      10 ^ (e + (digitCount c - precision : ℕ))) := by
  have hc : 0 < c := by
    by_contra hzero
    rw [Nat.eq_zero_of_not_pos hzero] at hlong
    exact absurd hlong (by decide)
  have hfirst : e + (digitCount c - precision : ℕ) + precision - 1 = e + digitCount c - 1 := by
    omega
  exact nearest_of_close hm (dropDigits_close c _ e) (.inr (hfirst ▸ le_of_digitCount hc e))

/-- A number with a first digit below the greatest exponent is below the limit. -/
theorem lt_limit_of_first (h : e + digitCount c - 1 < maxExponent) : (c : ℚ) * 10 ^ e < limit := by
  calc (c : ℚ) * 10 ^ e < 10 ^ (e + digitCount c) := lt_of_digitCount c e
    _ ≤ 10 ^ maxExponent := ten_zpow_le (by omega)
    _ ≤ |10 ^ maxExponent| := le_abs_self _
    _ < limit := working_maxExponent.lt_limit

/-- A number with a first digit beyond the greatest exponent is not below the limit. -/
theorem limit_le_of_first (hc : 0 < c) (h : maxExponent < e + digitCount c - 1) :
    limit ≤ c * 10 ^ e :=
  calc limit ≤ 10 ^ (maxExponent + 1) := limit_lt.le
    _ ≤ 10 ^ (e + digitCount c - 1) := ten_zpow_le (by omega)
    _ ≤ c * 10 ^ e := le_of_digitCount hc e

/-- Of the numbers with a first digit of the greatest exponent, those from the limit on are rounded
up to a digit more. -/
theorem dropDigits_eq_pow_iff_limit (hlong : precision < digitCount c)
    (hfirst : e + digitCount c - 1 = maxExponent) :
    dropDigits c (digitCount c - precision) = 10 ^ precision ↔ limit ≤ c * 10 ^ e := by
  have hunit : (10 : ℚ) ^ (maxExponent - precision + 1) =
      10 ^ (digitCount c - precision) * 10 ^ e := by
    rw [ten_zpow_mul]
    congr 1
    omega
  rw [dropDigits_eq_pow_iff (by decide) (lt_pow_of_long hlong), limit, hunit,
    ← mul_assoc (_ - _), mul_le_mul_iff_left₀ (ten_zpow_pos e)]
  constructor
  · intro h
    have h' : (2 * (10 ^ precision * 10 ^ (digitCount c - precision)) : ℚ) ≤
        2 * c + 10 ^ (digitCount c - precision) := by exact_mod_cast h
    linarith
  · intro h
    have h' : (2 * (10 ^ precision * 10 ^ (digitCount c - precision)) : ℚ) ≤
        2 * c + 10 ^ (digitCount c - precision) := by linarith
    exact_mod_cast h'

theorem round_of_long (negative : Bool) (hlong : precision < digitCount c)
    (least : minExponent ≤ e + digitCount c - 1) (greatest : e + digitCount c - 1 ≤ maxExponent) :
    round negative c e =
      if dropDigits c (digitCount c - precision) = 10 ^ precision then
        if e + digitCount c - 1 = maxExponent then .error .overflow
        else .ok (.finite negative (10 ^ (precision - 1)) (e + (digitCount c - precision : ℕ) + 1))
      else .ok (.finite negative (dropDigits c (digitCount c - precision))
        (e + (digitCount c - precision : ℕ))) := by
  have hc : c ≠ 0 := by
    rintro rfl
    exact absurd hlong (by decide)
  simp only [round, if_neg hc, if_neg (not_lt.mpr greatest),
    if_neg (fun h : _ ∧ _ => not_lt.mpr least h.1), if_neg (not_le.mpr hlong), Nat.pow_eq]
  by_cases hnines : dropDigits c (digitCount c - precision) = 10 ^ precision
  · have hten : dropDigits c (digitCount c - precision) / 10 = 10 ^ (precision - 1) := by
      rw [hnines]
      rfl
    simp only [if_pos hnines, hten]
    split_ifs <;> first | rfl | omega
  · simp only [if_neg hnines]
    rw [if_neg (by omega)]

/-- A power of ten that takes a digit more has a zero to lose. -/
theorem pow_precision_mul (q : ℤ) :
    (10 ^ precision : ℕ) * (10 : ℚ) ^ q = (10 ^ (precision - 1) : ℕ) * 10 ^ (q + 1) := by
  have hwidth : (precision - 1 : ℕ) = (precision : ℤ) - 1 := rfl
  push_cast
  rw [ten_zpow_mul, ten_zpow_mul, hwidth, add_add_sub_cancel]

/-- A number with too many digits is cut to the precision, unless it is from the limit on. -/
theorem rounds_of_long (negative : Bool) (hlong : precision < digitCount c)
    (least : minExponent ≤ e + digitCount c - 1) (greatest : e + digitCount c - 1 ≤ maxExponent) :
    Rounds (if negative then -(c * 10 ^ e) else c * 10 ^ e) (round negative c e) := by
  have hx := value_nonneg c e
  have hleast : leastExponent = minExponent - precision + 1 := rfl
  have near := nearest_cut (e := e) hlong
  rw [round_of_long negative hlong least greatest]
  by_cases hnines : dropDigits c (digitCount c - precision) = 10 ^ precision
  · rw [if_pos hnines]
    by_cases hfirst : e + digitCount c - 1 = maxExponent
    · rw [if_pos hfirst]
      exact rounds_overflow negative hx ((dropDigits_eq_pow_iff_limit hlong hfirst).mp hnines)
    · rw [if_neg hfirst]
      have hpower : (10 ^ (precision - 1) : ℕ) < 10 ^ precision :=
        Nat.pow_lt_pow_right (by norm_num) (by decide)
      rw [hnines, pow_precision_mul] at near
      exact rounds_number negative hx (near (working_of_lt hpower (by omega) (by omega)))
        (lt_limit_of_first (by omega))
  · rw [if_neg hnines]
    have hdrop : dropDigits c (digitCount c - precision) < 10 ^ precision :=
      (dropDigits_le_pow (lt_pow_of_long hlong)).lt_of_ne hnines
    have hm := working_of_lt (e := e + (digitCount c - precision : ℕ)) hdrop (by omega) (by omega)
    refine rounds_number negative hx (near hm) ?_
    rcases greatest.lt_or_eq with hfirst | hfirst
    · exact lt_limit_of_first hfirst
    · exact not_le.mp (mt (dropDigits_eq_pow_iff_limit hlong hfirst).mpr hnines)

/-- A number ±c·10^e is rounded to one that is nearest to it in the working precision, unless it is
from the limit on. -/
theorem rounds_round (negative : Bool) (c : ℕ) (e : ℤ) :
    Rounds (if negative then -(c * 10 ^ e) else c * 10 ^ e) (round negative c e) := by
  have hx := value_nonneg c e
  have hleast : leastExponent = minExponent - precision + 1 := rfl
  have hrange : minExponent ≤ maxExponent := by decide
  rcases Nat.eq_zero_or_pos c with rfl | hc
  · rw [round, if_pos rfl]
    refine rounds_number negative hx ?_ ?_
    · simpa using nearest_self working_zero
    · simpa using working_zero.lt_limit
  rcases lt_or_ge maxExponent (e + digitCount c - 1) with hfirst | hfirst
  · have hround : round negative c e = .error .overflow := by
      simp only [round, if_neg hc.ne', if_pos hfirst]
    rw [hround]
    exact rounds_overflow negative hx (limit_le_of_first hc hfirst)
  by_cases hlow : e + digitCount c - 1 < minExponent ∧ e < leastExponent
  · have hround : round negative c e =
        .ok (.finite negative (dropDigits c (leastExponent - e).toNat) leastExponent) := by
      simp only [round, if_neg hc.ne', if_neg (not_lt.mpr hfirst), if_pos hlow]
    rw [hround]
    exact rounds_number negative hx (nearest_at_least hlow.1 hlow.2)
      (lt_limit_of_first (by omega))
  rcases le_or_gt (digitCount c) precision with hshort | hlong
  · have hround : round negative c e = .ok (.finite negative c e) := by
      simp only [round, if_neg hc.ne', if_neg (not_lt.mpr hfirst), if_neg hlow, if_pos hshort]
    have hw : Working (c * 10 ^ e) :=
      working_of_digits ((digitCount_le_iff (by decide)).mp hshort) (by omega) hfirst
    rw [hround]
    exact rounds_number negative hx (nearest_self hw) ((le_abs_self _).trans_lt hw.lt_limit)
  · exact rounds_of_long negative hlong (by omega) hfirst

end Round

/-- A shift of the exponent within reach gives a nearest number of the working precision, or is
refused from the limit on. -/
theorem rounds_scaled {n scale : ℤ} (h : |scale| ≤ maxShift) :
    Rounds (n * 10 ^ (-scale)) (scaled n scale) := by
  have hreach : ¬ scale.natAbs > maxShift.toNat := by
    have hshift : (0 : ℤ) ≤ maxShift := by decide
    rw [Int.abs_eq_natAbs] at h
    omega
  rw [scaled, if_neg hreach]
  have hround := rounds_round (n < 0) n.natAbs (-scale)
  rw [Nat.cast_natAbs] at hround
  convert hround using 1
  rcases lt_or_ge n 0 with hn | hn
  · simp [hn, abs_of_neg hn]
  · simp [not_lt.mpr hn, abs_of_nonneg hn]

theorem scaled_of_far {n scale : ℤ} (h : maxShift < |scale|) :
    scaled n scale = .error .invalidOperation := by
  rw [scaled, if_pos]
  rw [Int.abs_eq_natAbs] at h
  have hshift : (0 : ℤ) ≤ maxShift := by decide
  omega

end Changefeed.Decimal
