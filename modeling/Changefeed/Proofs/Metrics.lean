import Mathlib.Algebra.Ring.Nat
import Mathlib.Tactic.SplitIfs
import Changefeed.Assoc
import Changefeed.Metrics

/-!
# Counters of one table

What an occurrence adds to a counter and to a sum of counters (`Metrics.count_add`,
`Metrics.total_add`), and the counters and samples of one table, which those of other tables do not
change (`Metrics.ofTable_add`, `Metrics.samples_ofTable`).
-/

namespace Changefeed

/-! ### Filters and orders -/

/-- A list splits in one way into elements without a property and elements with it. -/
theorem append_inj_of_forall {α : Type} {q : α → Bool} {xs ys xs' ys' : List α}
    (h : xs ++ ys = xs' ++ ys') (hxs : ∀ x ∈ xs, q x = false) (hys : ∀ y ∈ ys, q y = true)
    (hxs' : ∀ x ∈ xs', q x = false) (hys' : ∀ y ∈ ys', q y = true) : xs = xs' ∧ ys = ys' := by
  have first (us vs : List α) (hus : ∀ u ∈ us, q u = false) (hvs : ∀ v ∈ vs, q v = true) :
      (us ++ vs).filter (!q ·) = us := by
    rw [List.filter_append, List.filter_eq_self.2 fun u hu => by simp [hus u hu],
      List.filter_eq_nil_iff.2 fun v hv => by simp [hvs v hv], List.append_nil]
  have same : xs = xs' := by rw [← first xs ys hxs hys, h, first xs' ys' hxs' hys']
  subst same
  exact ⟨rfl, List.append_cancel_left h⟩

/-- Sorting by a total preorder keeps elements in their order, so it does not matter whether some
are dropped before or after. -/
theorem filter_mergeSort {α : Type} {le : α → α → Bool}
    (trans : ∀ a b c, le a b = true → le b c = true → le a c = true)
    (total : ∀ a b, (le a b || le b a) = true) (p : α → Bool) (l : List α) :
    (l.mergeSort le).filter p = (l.filter p).mergeSort le := by
  -- The head of a list goes behind the elements that are less than it, in the whole list and in
  -- what is left of it alike.
  have place (a : α) (l : List α) : ∃ l₁ l₂, (a :: l).mergeSort le = l₁ ++ a :: l₂ ∧
      l.mergeSort le = l₁ ++ l₂ ∧ (∀ b ∈ l₁, le a b = false) ∧ ∀ b ∈ l₂, le a b = true := by
    obtain ⟨l₁, l₂, whole, rest, below⟩ := List.mergeSort_cons trans total a l
    have sorted := List.pairwise_mergeSort trans total (a :: l)
    rw [whole] at sorted
    exact ⟨l₁, l₂, whole, rest, fun b hb => by simpa using below b hb,
      (List.pairwise_cons.1 (List.pairwise_append.1 sorted).2.1).1⟩
  induction l with
  | nil => simp
  | cons a l ih =>
    obtain ⟨l₁, l₂, whole, rest, below, above⟩ := place a l
    rw [rest, List.filter_append] at ih
    rw [whole, List.filter_append]
    cases ha : p a with
    | false =>
      rw [List.filter_cons_of_neg (by simp [ha]), List.filter_cons_of_neg (by simp [ha]), ih]
    | true =>
      rw [List.filter_cons_of_pos ha, List.filter_cons_of_pos ha]
      obtain ⟨m₁, m₂, whole', rest', below', above'⟩ := place a (l.filter p)
      obtain ⟨same, same'⟩ := append_inj_of_forall (ih.trans rest')
        (fun b hb => below b (List.mem_filter.1 hb).1)
        (fun b hb => above b (List.mem_filter.1 hb).1) below' above'
      rw [whole', same, same']

theorem labelsLe_total (a b : List (String × String)) : (labelsLe a b || labelsLe b a) = true := by
  induction a generalizing b with
  | nil => rfl
  | cons x a ih =>
    cases b with
    | nil => rfl
    | cons y b =>
      obtain ⟨k, v⟩ := x
      obtain ⟨k', v'⟩ := y
      simp only [labelsLe]
      grind

theorem labelsLe_trans (a b c : List (String × String)) (hab : labelsLe a b = true)
    (hbc : labelsLe b c = true) : labelsLe a c = true := by
  induction a generalizing b c with
  | nil => rfl
  | cons x a ih =>
    cases b with
    | nil => cases hab
    | cons y b =>
      cases c with
      | nil => cases hbc
      | cons z c =>
        obtain ⟨k, v⟩ := x
        obtain ⟨k', v'⟩ := y
        obtain ⟨k'', v''⟩ := z
        simp only [labelsLe] at hab hbc ⊢
        grind

namespace Sample

theorem le_total (a b : Sample) : (a.le b || b.le a) = true := by
  have := labelsLe_total a.labels b.labels
  unfold le
  grind

theorem le_trans (a b c : Sample) (hab : a.le b = true) (hbc : b.le c = true) :
    a.le c = true := by
  have := labelsLe_trans a.labels b.labels c.labels
  unfold le at hab hbc ⊢
  grind

/-- Whether a sample is labelled with a table. -/
def isOf (table : String) (s : Sample) : Bool :=
  ("table", table) ∈ s.labels

end Sample

theorem Counter.isOf_samples {c : Counter} {n : Nat} {s : Sample} (h : s ∈ c.samples n)
    (table : String) : s.isOf table = decide (c.table = table) := by
  cases c <;> simp only [samples, List.mem_cons, List.not_mem_nil, or_false] at h
  case applied => rcases h with rfl | rfl <;> simp [Sample.isOf, Counter.table, eq_comm]
  all_goals subst h; simp [Sample.isOf, Counter.table, eq_comm]

namespace Metrics

/-! ### Counting -/

theorem count_eq (counts : List (Counter × Nat)) (c : Counter) :
    (⟨counts⟩ : Metrics).count c = (Assoc.get? counts c).getD 0 := rfl

theorem count_add (m : Metrics) (c d : Counter) :
    (m.add c).count d = m.count d + if c = d then 1 else 0 := by
  obtain ⟨counts⟩ := m
  rw [add, count_eq, count_eq]
  induction counts with
  | nil => rw [raise, Assoc.get?_cons]; split_ifs <;> rfl
  | cons x rest ih =>
    obtain ⟨e, n⟩ := x
    rw [raise]
    by_cases hec : e = c
    · subst hec
      rw [if_pos rfl, Assoc.get?_cons, Assoc.get?_cons]
      split_ifs <;> rfl
    · rw [if_neg hec, Assoc.get?_cons, Assoc.get?_cons]
      by_cases hed : e = d
      · have hcd : c ≠ d := fun h => hec (hed.trans h.symm)
        rw [if_pos hed, if_pos hed, if_neg hcd, Nat.add_zero]
      · rw [if_neg hed, if_neg hed, ih]

/-- The sum of the counters that a predicate holds of. -/
def total (m : Metrics) (p : Counter → Bool) : Nat :=
  ((m.counts.filter fun x => p x.1).map (·.2)).sum

theorem total_add (m : Metrics) (c : Counter) (p : Counter → Bool) :
    (m.add c).total p = m.total p + if p c then 1 else 0 := by
  obtain ⟨counts⟩ := m
  simp only [add, total]
  induction counts with
  | nil => by_cases h : p c <;> simp [raise, h]
  | cons x rest ih =>
    obtain ⟨d, n⟩ := x
    rw [raise]
    by_cases hdc : d = c
    · subst hdc
      by_cases h : p d <;> simp [h]
      omega
    · rw [if_neg hdc]
      by_cases h : p d <;> simp [h, ih]
      omega

theorem count_foldl_add (m : Metrics) (cs : List Counter) (c : Counter) :
    (cs.foldl add m).count c = m.count c + cs.count c := by
  induction cs generalizing m with
  | nil => rfl
  | cons d cs ih =>
    rw [List.foldl_cons, ih, count_add, List.count_cons]
    simp only [beq_iff_eq]
    omega

theorem total_foldl_add (m : Metrics) (cs : List Counter) (p : Counter → Bool) :
    (cs.foldl add m).total p = m.total p + cs.countP p := by
  induction cs generalizing m with
  | nil => rfl
  | cons d cs ih =>
    rw [List.foldl_cons, ih, total_add, List.countP_cons]
    omega

/-! ### One table -/

/-- The counters of a table. -/
def ofTable (m : Metrics) (table : String) : Metrics where
  counts := m.counts.filter (·.1.table = table)

theorem ofTable_add (m : Metrics) (c : Counter) (table : String) :
    (m.add c).ofTable table =
      if c.table = table then (m.ofTable table).add c else m.ofTable table := by
  obtain ⟨counts⟩ := m
  simp only [add, ofTable]
  induction counts with
  | nil => by_cases h : c.table = table <;> simp [raise, h]
  | cons x rest ih =>
    obtain ⟨d, n⟩ := x
    rw [raise]
    by_cases hdc : d = c
    · subst hdc
      by_cases h : d.table = table <;> simp [h, raise]
    · rw [if_neg hdc]
      by_cases hd : d.table = table <;> by_cases h : c.table = table <;>
        simp_all [raise]

/-- The samples of a table are those of its counters. -/
theorem samples_ofTable (m : Metrics) (table : String) :
    m.samples.filter (·.isOf table) = (m.ofTable table).samples := by
  unfold samples
  rw [filter_mergeSort Sample.le_trans Sample.le_total, List.filter_flatMap]
  congr 1
  obtain ⟨counts⟩ := m
  simp only [ofTable]
  induction counts with
  | nil => rfl
  | cons x rest ih =>
    obtain ⟨c, n⟩ := x
    have here (s : Sample) (hs : s ∈ c.samples n) := Counter.isOf_samples hs table
    rw [List.flatMap_cons, ih]
    by_cases h : c.table = table
    · have kept : (c.samples n).filter (·.isOf table) = c.samples n :=
        List.filter_eq_self.2 fun s hs => by rw [here s hs, decide_eq_true h]
      rw [List.filter_cons_of_pos (by simpa using h), List.flatMap_cons, kept]
    · have dropped : (c.samples n).filter (·.isOf table) = [] :=
        List.filter_eq_nil_iff.2 fun s hs => by simp [here s hs, h]
      rw [List.filter_cons_of_neg (by simpa using h), dropped, List.nil_append]

end Metrics
end Changefeed
