/-!
# Association lists

Values by key, in the order in which the keys came, no key twice.  Setting the value of a key that
is there keeps its place; a new key goes to the end.
-/

namespace Changefeed.Assoc

variable {α β : Type} [DecidableEq α]

/-- The value of a key. -/
def get? (xs : List (α × β)) (k : α) : Option β :=
  (xs.find? (·.1 = k)).map (·.2)

/-- Sets the value of a key. -/
def insert (k : α) (v : β) : List (α × β) → List (α × β)
  | [] => [(k, v)]
  | (k', v') :: rest => if k' = k then (k, v) :: rest else (k', v') :: insert k v rest

theorem get?_cons (k' : α) (v : β) (xs : List (α × β)) (k : α) :
    get? ((k', v) :: xs) k = if k' = k then some v else get? xs k := by
  by_cases h : k' = k <;> simp [get?, h]

theorem get?_append (xs ys : List (α × β)) (k : α) :
    get? (xs ++ ys) k = (get? xs k).or (get? ys k) := by
  simp only [get?, List.find?_append, Option.map_or]

theorem get?_insert (k : α) (v : β) (xs : List (α × β)) (j : α) :
    get? (insert k v xs) j = if k = j then some v else get? xs j := by
  induction xs with
  | nil => simp [insert, get?_cons]
  | cons x xs ih =>
    obtain ⟨k', v'⟩ := x
    by_cases hk : k' = k
    · subst hk
      by_cases hj : k' = j <;> simp [insert, get?_cons, hj]
    · rw [insert, if_neg hk, get?_cons, get?_cons, ih]
      by_cases hj : k' = j
      · have hkj : k ≠ j := fun h => hk (hj.trans h.symm)
        simp [hj, hkj]
      · simp [hj]

end Changefeed.Assoc
