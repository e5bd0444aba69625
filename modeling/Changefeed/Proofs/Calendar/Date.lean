import Changefeed.Calendar.Date
import Mathlib.Data.List.Basic
import Mathlib.Tactic.IntervalCases

/-!
# The Gregorian calendar

The calendar by rules of its own: which years leap (`Date.LeapYear`), how long a month is
(`Date.monthLength`), which dates there are (`Date.Gregorian`), which date follows a date
(`Date.next`) and which dates lie before it (`Date.Before`).  The dates that `Date.ofDay?` finds
follow each other in this calendar from the first day to the last (`Date.ofDay?_succ`), so that a
later day has a later date (`Date.before_of_lt`).
-/

namespace Changefeed.Date

/-! ### The rules of the calendar -/

/-- Every fourth year leaps, but of the full centuries only every fourth. -/
def LeapYear (year : Nat) : Prop :=
  4 ∣ year ∧ (100 ∣ year → 400 ∣ year)

instance : DecidablePred LeapYear := fun year =>
  inferInstanceAs (Decidable (4 ∣ year ∧ (100 ∣ year → 400 ∣ year)))

/-- The number of days of a month. -/
def monthLength (year month : Nat) : Nat :=
  match month with
  | 2 => if LeapYear year then 29 else 28
  | 4 | 6 | 9 | 11 => 30
  | _ => 31

/-- The dates of the calendar in the years that are written with four digits. -/
structure Gregorian (d : Date) : Prop where
  year : 1 ≤ d.year ∧ d.year ≤ 9999
  month : 1 ≤ d.month ∧ d.month ≤ 12
  day : 1 ≤ d.day ∧ d.day ≤ monthLength d.year d.month

/-- The date that follows a date: the next day of the month, else the first day of the next month,
else the first day of the next year. -/
def next (d : Date) : Date :=
  if d.day < monthLength d.year d.month then ⟨d.year, d.month, d.day + 1⟩
  else if d.month < 12 then ⟨d.year, d.month + 1, 1⟩
  else ⟨d.year + 1, 1, 1⟩

theorem next_of_day {year month day : Nat} (h : day < monthLength year month) :
    next ⟨year, month, day⟩ = ⟨year, month, day + 1⟩ :=
  if_pos h

theorem next_of_month {year month day : Nat} (h : ¬ day < monthLength year month)
    (hm : month < 12) : next ⟨year, month, day⟩ = ⟨year, month + 1, 1⟩ :=
  (if_neg h).trans (if_pos hm)

theorem next_of_year {year month day : Nat} (h : ¬ day < monthLength year month)
    (hm : ¬ month < 12) : next ⟨year, month, day⟩ = ⟨year + 1, 1, 1⟩ :=
  (if_neg h).trans (if_neg hm)

/-- One date lies before another, by the year, then the month, then the day. -/
def Before (d e : Date) : Prop :=
  d.year < e.year ∨
    d.year = e.year ∧ (d.month < e.month ∨ d.month = e.month ∧ d.day < e.day)

theorem Before.trans {d e f : Date} (h : d.Before e) (h' : e.Before f) : d.Before f := by
  unfold Before at *
  omega

theorem Before.irrefl (d : Date) : ¬ d.Before d := by
  unfold Before
  omega

theorem before_next (d : Date) : d.Before d.next := by
  unfold next
  split_ifs <;> simp [Before]

theorem isLeap_iff (year : Nat) : isLeap year = true ↔ LeapYear year := by
  simp only [isLeap, LeapYear, Bool.and_eq_true, Bool.or_eq_true, decide_eq_true_eq]
  omega

theorem monthLength_pos (year month : Nat) : 0 < monthLength year month := by
  unfold monthLength
  split <;> try split_ifs
  all_goals omega

/-! ### Months of a year -/

theorem getElem?_monthLengths (year : Nat) {k : Nat} (h : k < 12) :
    (monthLengths year)[k]? = some (monthLength year (k + 1)) := by
  have leap : (if isLeap year = true then 29 else 28) = monthLength year 2 := by
    simp only [isLeap_iff, monthLength]
  interval_cases k
  case «1» => exact congrArg some leap
  all_goals rfl

theorem length_monthLengths (year : Nat) : (monthLengths year).length = 12 := rfl

theorem sum_monthLengths (year : Nat) : (monthLengths year).sum = yearLength year := by
  unfold monthLengths yearLength
  split_ifs <;> rfl

theorem pos_of_mem_monthLengths {year l : Nat} (h : l ∈ monthLengths year) : 0 < l := by
  obtain ⟨k, hk, rfl⟩ := List.mem_iff_getElem.1 h
  have found := getElem?_monthLengths year hk
  rw [List.getElem?_eq_getElem hk, Option.some.injEq] at found
  rw [found]
  exact monthLength_pos year (k + 1)

theorem isValid_iff (d : Date) : d.IsValid ↔ d.Gregorian := by
  have lookup (h : 1 ≤ d.month ∧ d.month ≤ 12) :
      (monthLengths d.year)[d.month - 1]?.getD 0 = monthLength d.year d.month := by
    rw [getElem?_monthLengths _ (by omega), Nat.sub_add_cancel h.1, Option.getD_some]
  constructor
  · rintro ⟨y, y', m, m', day, day'⟩
    exact ⟨⟨y, y'⟩, ⟨m, m'⟩, day, lookup ⟨m, m'⟩ ▸ day'⟩
  · rintro ⟨⟨y, y'⟩, ⟨m, m'⟩, day, day'⟩
    exact ⟨y, y', m, m', day, (lookup ⟨m, m'⟩).symm ▸ day'⟩

/-! ### The day of a month -/

section Months

variable {ls : List Nat} {m n : Nat}

/-- A day of the year lies in one of the months. -/
theorem exists_monthDay (m : Nat) (h : n < ls.sum) :
    ∃ k l day, monthDay ls m n = (m + k, day) ∧ ls[k]? = some l ∧ 1 ≤ day ∧ day ≤ l := by
  induction ls generalizing m n with
  | nil => simp at h
  | cons l ls ih =>
    unfold monthDay
    by_cases inside : n < l
    · exact ⟨0, l, n + 1, by simp [inside], rfl, by omega, inside⟩
    · rw [List.sum_cons] at h
      obtain ⟨k, l', day, at_k, hk, days⟩ := ih (m + 1) (show n - l < ls.sum by omega)
      refine ⟨k + 1, l', day, ?_, hk, days⟩
      rw [if_neg inside, at_k, Nat.add_right_comm, Nat.add_assoc]

theorem monthDay_zero (h : ∀ l ∈ ls, 0 < l) (hls : 0 < ls.sum) : monthDay ls m 0 = (m, 1) := by
  cases ls with
  | nil => simp at hls
  | cons l ls => simp [monthDay, h l List.mem_cons_self]

/-- The next day of the year is the next day of the month, else the first of the next month. -/
theorem monthDay_succ (pos : ∀ l ∈ ls, 0 < l) (h : n + 1 < ls.sum) {k l day : Nat}
    (at_k : monthDay ls m n = (m + k, day)) (hk : ls[k]? = some l) :
    monthDay ls m (n + 1) = if day < l then (m + k, day + 1) else (m + k + 1, 1) := by
  induction ls generalizing m n k with
  | nil => simp at h
  | cons first ls ih =>
    have pos' : ∀ l ∈ ls, 0 < l := fun l hl => pos l (List.mem_cons_of_mem _ hl)
    rw [List.sum_cons] at h
    unfold monthDay at at_k ⊢
    by_cases inside : n < first
    · rw [if_pos inside, Prod.mk.injEq] at at_k
      obtain ⟨hm, rfl⟩ := at_k
      obtain rfl : k = 0 := by omega
      obtain rfl : first = l := by simpa using hk
      by_cases inside' : n + 1 < first
      · rw [if_pos inside', if_pos inside']
        rfl
      · rw [if_neg inside', if_neg inside', Nat.add_zero,
          show n + 1 - first = 0 by omega, monthDay_zero pos' (by omega)]
    · rw [if_neg inside] at at_k
      rw [if_neg (by omega), show n + 1 - first = n - first + 1 by omega]
      -- The day lies behind the first month, so the month found for it is one of the others.
      obtain ⟨j, _, _, at_j, -⟩ := exists_monthDay (m + 1) (show n - first < ls.sum by omega)
      obtain rfl : k = j + 1 := by
        have := congrArg Prod.fst (at_k.symm.trans at_j)
        simp only at this
        omega
      rw [← Nat.add_assoc, Nat.add_right_comm] at at_k ⊢
      exact ih pos' (by omega) at_k (by simpa using hk)

/-- The last day of the year is the last day of the last month. -/
theorem monthDay_last (pos : ∀ l ∈ ls, 0 < l) (h : n + 1 = ls.sum) :
    ∃ k l, monthDay ls m n = (m + k, l) ∧ ls[k]? = some l ∧ k + 1 = ls.length := by
  induction ls generalizing m n with
  | nil => simp at h
  | cons first ls ih =>
    rw [List.sum_cons] at h
    unfold monthDay
    cases ls with
    | nil =>
      rw [List.sum_nil] at h
      exact ⟨0, first, by rw [if_pos (by omega), h, Nat.add_zero, Nat.add_zero], rfl, rfl⟩
    | cons second ls =>
      have := pos second (by simp)
      rw [List.sum_cons] at h ih
      obtain ⟨k, l, at_k, hk, last⟩ := ih (m := m + 1) (n := n - first)
        (fun l hl => pos l (List.mem_cons_of_mem _ hl)) (by omega)
      refine ⟨k + 1, l, ?_, hk, congrArg (· + 1) last⟩
      rw [if_neg (by omega), at_k, Nat.add_right_comm, Nat.add_assoc]

end Months

/-! ### The year of a day -/

theorem daysBeforeYear_succ {year : Nat} (h : 1 ≤ year) :
    daysBeforeYear (year + 1) = daysBeforeYear year + yearLength year := by
  obtain ⟨z, rfl⟩ := Nat.exists_eq_add_of_le' h
  have centuries : z / 100 ≤ z / 4 := Nat.div_le_div_left (by omega) (by omega)
  simp only [daysBeforeYear, yearLength, isLeap_iff, LeapYear, Nat.add_sub_cancel, Nat.succ_div]
  have by_century (h : 100 ∣ z + 1) : 4 ∣ z + 1 := dvd_trans (by decide) h
  have by_cycle (h : 400 ∣ z + 1) : 100 ∣ z + 1 := dvd_trans (by decide) h
  by_cases cycle : 400 ∣ z + 1
  · simp only [cycle, by_cycle cycle, by_century (by_cycle cycle), if_true, forall_const, and_self]
    omega
  by_cases century : 100 ∣ z + 1
  · simp only [cycle, century, by_century century, if_true, if_false, forall_const, and_false]
    omega
  by_cases fourth : 4 ∣ z + 1
  · simp only [cycle, century, fourth, if_true, if_false, IsEmpty.forall_iff, and_self]
    omega
  · simp only [cycle, century, fourth, if_false, false_and]
    omega

theorem yearLength_pos (year : Nat) : 0 < yearLength year := by
  unfold yearLength
  split_ifs <;> omega

theorem daysBeforeYear_mono {y z : Nat} (hy : 1 ≤ y) (h : y ≤ z) :
    daysBeforeYear y ≤ daysBeforeYear z := by
  induction z, h using Nat.le_induction with
  | base => exact le_rfl
  | succ z hz ih =>
    rw [daysBeforeYear_succ (hy.trans hz)]
    exact Nat.le_add_right_of_le ih

theorem yearOf_bounds (n : Nat) :
    1 ≤ yearOf n ∧ daysBeforeYear (yearOf n) ≤ n ∧ n < daysBeforeYear (yearOf n + 1) := by
  unfold yearOf
  dsimp only
  -- The mean year of the cycle misses the year by one at most, so a single correction finds it.
  split_ifs with low high
  all_goals
    unfold daysBeforeYear at *
    omega

theorem yearOf_add {year r : Nat} (h : 1 ≤ year) (hr : r < yearLength year) :
    yearOf (daysBeforeYear year + r) = year := by
  obtain ⟨pos, low, high⟩ := yearOf_bounds (daysBeforeYear year + r)
  by_contra differ
  rcases Nat.lt_or_gt_of_ne differ with before | behind
  · have := daysBeforeYear_mono (Nat.le_add_left 1 _) (Nat.succ_le_of_lt before)
    omega
  · have := daysBeforeYear_mono (Nat.le_add_left 1 _) (Nat.succ_le_of_lt behind)
    rw [daysBeforeYear_succ h] at this
    omega

/-- Every day is a day of a year. -/
theorem exists_year (n : Nat) :
    ∃ year r, 1 ≤ year ∧ r < yearLength year ∧ n = daysBeforeYear year + r := by
  obtain ⟨pos, low, high⟩ := yearOf_bounds n
  rw [daysBeforeYear_succ pos] at high
  exact ⟨yearOf n, n - daysBeforeYear (yearOf n), pos, by omega, by omega⟩

/-! ### From one day to the next -/

section Days

variable {year r : Nat}

theorem ofOrdinal_add (h : 1 ≤ year) (hr : r < yearLength year) {month day : Nat}
    (at_r : monthDay (monthLengths year) 1 r = (month, day)) :
    ofOrdinal (daysBeforeYear year + r) = ⟨year, month, day⟩ := by
  simp only [ofOrdinal, yearOf_add h hr, Nat.add_sub_cancel_left, at_r]

/-- Every day of a year is a day of a month. -/
theorem exists_month (hr : r < yearLength year) :
    ∃ k day, monthDay (monthLengths year) 1 r = (1 + k, day) ∧ k < 12 ∧
      (monthLengths year)[k]? = some (monthLength year (1 + k)) ∧
      1 ≤ day ∧ day ≤ monthLength year (1 + k) := by
  rw [← sum_monthLengths] at hr
  obtain ⟨k, l, day, at_r, hk, first, last⟩ := exists_monthDay 1 hr
  obtain ⟨inside, -⟩ := List.getElem?_eq_some_iff.1 hk
  have found := getElem?_monthLengths year inside
  rw [Nat.add_comm k] at found
  obtain rfl : l = monthLength year (1 + k) := Option.some.inj (hk.symm.trans found)
  exact ⟨k, day, at_r, inside, hk, first, last⟩

theorem gregorian_ofOrdinal {n : Nat} (h : n < daysBeforeYear 10000) :
    (ofOrdinal n).Gregorian := by
  obtain ⟨year, r, pos, within, rfl⟩ := exists_year n
  obtain ⟨k, day, at_r, inside, -, days⟩ := exists_month within
  have four_digits : year < 10000 := by
    by_contra beyond
    have := daysBeforeYear_mono (by decide) (not_lt.1 beyond)
    omega
  rw [ofOrdinal_add pos within at_r]
  refine ⟨⟨pos, Nat.le_of_lt_succ four_digits⟩, ⟨Nat.le_add_right 1 k, ?_⟩, days⟩
  show 1 + k ≤ 12
  omega

/-- The next day has the next date. -/
theorem ofOrdinal_succ (n : Nat) : ofOrdinal (n + 1) = (ofOrdinal n).next := by
  obtain ⟨year, r, pos, within, rfl⟩ := exists_year n
  have positive : ∀ l ∈ monthLengths year, 0 < l := fun l => pos_of_mem_monthLengths
  obtain ⟨k, day, at_r, inside, found, -, last⟩ := exists_month within
  rw [ofOrdinal_add pos within at_r, Nat.add_assoc]
  -- Within a year its months decide; behind the last of them the next year starts.
  by_cases same_year : r + 1 < yearLength year
  · have step := monthDay_succ positive (by rwa [sum_monthLengths]) at_r found
    by_cases same_month : day < monthLength year (1 + k)
    · rw [if_pos same_month] at step
      rw [ofOrdinal_add pos same_year step, next_of_day same_month]
    · rw [if_neg same_month] at step
      obtain ⟨j, day', at_j, inside', -⟩ := exists_month same_year
      have next_month : 1 + k + 1 = 1 + j := congrArg Prod.fst (step.symm.trans at_j)
      rw [ofOrdinal_add pos same_year step, next_of_month same_month (by omega)]
  · have year_ends : r + 1 = yearLength year := by omega
    have new_year : monthDay (monthLengths (year + 1)) 1 0 = (1, 1) := rfl
    obtain ⟨j, l, at_j, found', last_month⟩ :=
      monthDay_last (m := 1) positive (year_ends.trans (sum_monthLengths year).symm)
    obtain ⟨same_month, rfl⟩ : 1 + k = 1 + j ∧ day = l := Prod.mk.inj (at_r.symm.trans at_j)
    obtain rfl : j = k := by omega
    obtain rfl : monthLength year (1 + j) = day := Option.some.inj (found.symm.trans found')
    rw [length_monthLengths] at last_month
    rw [year_ends, ← daysBeforeYear_succ pos, next_of_year (lt_irrefl _) (by omega)]
    exact ofOrdinal_add (Nat.le_add_left 1 year) (yearLength_pos _) new_year

end Days

/-! ### Day numbers -/

variable {n : Int} {d e : Date}

theorem ofDay?_eq_some_iff :
    ofDay? n = some d ↔ firstDay ≤ n ∧ n ≤ lastDay ∧ ofOrdinal (n - firstDay).toNat = d := by
  unfold ofDay?
  split_ifs with h
  · rw [Option.some.injEq, ← and_assoc, and_iff_right h]
  · simp only [false_iff]
    exact fun h' => h ⟨h'.1, h'.2.1⟩

theorem exists_ofDay?_iff : (∃ d, ofDay? n = some d) ↔ firstDay ≤ n ∧ n ≤ lastDay := by
  simp only [ofDay?_eq_some_iff, exists_and_left, exists_eq', and_true]

theorem ofDay?_eq_none_iff : ofDay? n = none ↔ n < firstDay ∨ lastDay < n := by
  rw [Option.eq_none_iff_forall_ne_some, ← not_exists, exists_ofDay?_iff]
  omega

/-- The days that have a date have one of the calendar. -/
theorem gregorian_of_ofDay? (h : ofDay? n = some d) : d.Gregorian := by
  obtain ⟨first, last, rfl⟩ := ofDay?_eq_some_iff.1 h
  apply gregorian_ofOrdinal
  rw [show daysBeforeYear 10000 = 3652059 from rfl]
  unfold firstDay lastDay at *
  omega

/-- The date of the next day follows the date of a day. -/
theorem ofDay?_succ (h : ofDay? n = some d) (h' : ofDay? (n + 1) = some e) : e = d.next := by
  obtain ⟨first, -, rfl⟩ := ofDay?_eq_some_iff.1 h
  obtain ⟨-, -, rfl⟩ := ofDay?_eq_some_iff.1 h'
  rw [← ofOrdinal_succ, show (n + 1 - firstDay).toNat = (n - firstDay).toNat + 1 by omega]

/-- The date of a later day is later. -/
theorem before_of_lt {m : Int} (hm : ofDay? m = some d) (hn : ofDay? n = some e) (h : m < n) :
    d.Before e := by
  have step {k : Int} {d e : Date} (hd : ofDay? k = some d) (he : ofDay? (k + 1) = some e) :
      d.Before e := ofDay?_succ hd he ▸ before_next d
  -- Induction on the later day, over the days between, which all have a date.
  induction n, Int.add_one_le_of_lt h using Int.leInduction generalizing e with
  | base => exact step hm hn
  | succ k hk ih =>
    obtain ⟨-, last, -⟩ := ofDay?_eq_some_iff.1 hn
    obtain ⟨first, -, -⟩ := ofDay?_eq_some_iff.1 hm
    obtain ⟨c, hc⟩ := exists_ofDay?_iff.2 (show firstDay ≤ k ∧ k ≤ lastDay by omega)
    exact (ih hc (by omega)).trans (step hc hn)

end Changefeed.Date
