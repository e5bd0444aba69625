import Changefeed.Proofs.Identifier
import Changefeed.Statement.Basic

/-!
# Readings of statements

A `Reading` is a statement taken apart: its table, its columns, its conditions, and what stands at
each placeholder.  `Reading.text` writes it in the grammar of statements,

* `INSERT INTO T (C, …, C) VALUES (?, …, ?)`,
* `UPDATE T SET C = ?, …, C = ? WHERE A AND … AND A`,
* `DELETE FROM T WHERE A AND … AND A`,

where `A` is one of `C = ?`, `C::numeric = ?` and `C IS NULL`.  A text has at most one well-formed
reading (`Reading.text_injective`), whatever words the names are, and as many placeholders as the
reading has values (`Reading.count_text`).  `BoundStatement.Reads` puts the parameters of a
statement at the placeholders of its parse, from left to right.
-/

namespace Changefeed

/-- A condition on a column, with what stands at its placeholder. -/
inductive Atom (α : Type) where
  | isNull (name : String)
  | equals (name : String) (value : α)
  | equalsNumeric (name : String) (value : α)
deriving DecidableEq, Repr

/-- A statement taken apart, with what stands at its placeholders. -/
inductive Reading (α : Type) where
  | insert (table : String) (columns : List String) (values : List α)
  | update (table : String) (assignments : List (String × α)) (conditions : List (Atom α))
  | delete (table : String) (conditions : List (Atom α))
deriving DecidableEq, Repr

variable {α β : Type}

namespace Atom

/-- The column of a condition. -/
def name : Atom α → String
  | .isNull name | .equals name _ | .equalsNumeric name _ => name

/-- What stands at the placeholder of a condition, if it has one. -/
def value? : Atom α → Option α
  | .isNull _ => none
  | .equals _ a | .equalsNumeric _ a => some a

/-- The condition with what stands at its placeholder changed. -/
def map (f : α → β) : Atom α → Atom β
  | .isNull name => .isNull name
  | .equals name a => .equals name (f a)
  | .equalsNumeric name a => .equalsNumeric name (f a)

/-- What follows the name of the column. -/
def tail : Atom α → List Char
  | .isNull _ => " IS NULL".toList
  | .equals _ _ => " = ?".toList
  | .equalsNumeric _ _ => "::numeric = ?".toList

/-- The condition in a statement. -/
def text (a : Atom α) : List Char :=
  a.name.toList ++ a.tail

end Atom

namespace Reading

/-- The table of a statement. -/
def table : Reading α → String
  | .insert table _ _ | .update table _ _ | .delete table _ => table

/-- The kind of a statement. -/
def kind : Reading α → StatementKind
  | .insert .. => .insert
  | .update .. => .update
  | .delete .. => .delete

/-- The names in a statement. -/
def names : Reading α → List String
  | .insert table columns _ => table :: columns
  | .update table assignments conditions =>
    table :: (assignments.map (·.1) ++ conditions.map Atom.name)
  | .delete table conditions => table :: conditions.map Atom.name

/-- What stands at the placeholders, from left to right. -/
def values : Reading α → List α
  | .insert _ _ values => values
  | .update _ assignments conditions => assignments.map (·.2) ++ conditions.filterMap Atom.value?
  | .delete _ conditions => conditions.filterMap Atom.value?

/-- The reading with what stands at the placeholders changed. -/
def map (f : α → β) : Reading α → Reading β
  | .insert table columns values => .insert table columns (values.map f)
  | .update table assignments conditions =>
    .update table (assignments.map fun (name, a) => (name, f a)) (conditions.map (Atom.map f))
  | .delete table conditions => .delete table (conditions.map (Atom.map f))

/-- The reading without what stands at the placeholders: a parse of the text alone. -/
def shape (r : Reading α) : Reading Unit :=
  r.map fun _ => ()

/-- Conditions with the word between them that asks for all. -/
def whereText (conditions : List (Atom α)) : List Char :=
  List.intercalate " AND ".toList (conditions.map Atom.text)

/-- The text of a statement. -/
def text : Reading α → List Char
  | .insert table columns values =>
    "INSERT INTO ".toList ++ (table.toList ++ (" (".toList ++
      (List.intercalate ", ".toList (columns.map String.toList) ++ (") VALUES (".toList ++
        (List.intercalate ", ".toList (values.map fun _ => "?".toList) ++ ")".toList)))))
  | .update table assignments conditions =>
    "UPDATE ".toList ++ (table.toList ++ (" SET ".toList ++
      (List.intercalate ", ".toList
        (assignments.map fun (name, _) => name.toList ++ " = ?".toList) ++
        (" WHERE ".toList ++ whereText conditions))))
  | .delete table conditions =>
    "DELETE FROM ".toList ++ (table.toList ++ (" WHERE ".toList ++ whereText conditions))

/-- The names are such as the strict policy takes, and no list is empty. -/
def WellFormed : Reading α → Prop
  | .insert table columns values =>
    Identifier.isTableName table ∧ (∀ c ∈ columns, Identifier.isColumnName c) ∧ columns ≠ [] ∧
      values ≠ []
  | .update table assignments conditions =>
    Identifier.isTableName table ∧ (∀ a ∈ assignments, Identifier.isColumnName a.1) ∧
      assignments ≠ [] ∧ (∀ a ∈ conditions, Identifier.isColumnName a.name) ∧ conditions ≠ []
  | .delete table conditions =>
    Identifier.isTableName table ∧ (∀ a ∈ conditions, Identifier.isColumnName a.name) ∧
      conditions ≠ []

/-- A parse of a text in the grammar of statements. -/
def Parses (sql : String) (r : Reading Unit) : Prop :=
  r.WellFormed ∧ r.text = sql.toList

end Reading

/-! ### Where the parts of a text end -/

/-- A text that cannot go on with a name. -/
def Stops (x : List Char) : Prop :=
  x.head?.all (!Identifier.isNameChar ·)

instance (x : List Char) : Decidable (Stops x) :=
  inferInstanceAs (Decidable (_ = true))

theorem stops_append {s x : List Char} (h : Stops s) (hs : s ≠ []) : Stops (s ++ x) := by
  cases s with
  | nil => exact absurd rfl hs
  | cons c s => simpa [Stops] using h

theorem not_prefix_append {s t : List Char} (hs : ¬ s <+: t) (ht : ¬ t <+: s) (x : List Char) :
    ¬ s <+: t ++ x := by
  intro h
  rcases List.prefix_or_prefix_of_prefix h (List.prefix_append t x) with h | h
  · exact hs h
  · exact ht h

/-- Texts differ where neither word that they start with is the start of the other. -/
theorem append_ne_append {s t : List Char} (hs : ¬ s <+: t) (ht : ¬ t <+: s) (x y : List Char) :
    s ++ x ≠ t ++ y :=
  fun h => not_prefix_append hs ht y (h ▸ List.prefix_append s x)

/-- A name ends where the first character stands that no name has. -/
theorem name_append_inj {a b : String} {x y : List Char}
    (ha : ∀ c ∈ a.toList, Identifier.isNameChar c) (hb : ∀ c ∈ b.toList, Identifier.isNameChar c)
    (hx : Stops x) (hy : Stops y) (h : a.toList ++ x = b.toList ++ y) : a = b ∧ x = y := by
  have cut (s : String) (z : List Char) (hs : ∀ c ∈ s.toList, Identifier.isNameChar c)
      (hz : Stops z) : (s.toList ++ z).takeWhile Identifier.isNameChar = s.toList := by
    rw [List.takeWhile_append_of_pos hs]
    cases z with
    | nil => simp
    | cons c z =>
      have hc : Identifier.isNameChar c = false := by simpa [Stops] using hz
      simp [hc]
  have same : a.toList = b.toList := by rw [← cut a x ha hx, h, cut b y hb hy]
  rw [same] at h
  exact ⟨String.toList_inj.1 same, List.append_cancel_left h⟩

/-- The text of an item shows which item it is and where it ends, if what follows stops names. -/
def Separable (valid : α → Prop) (item : α → List Char) : Prop :=
  ∀ a b x y, valid a → valid b → Stops x → Stops y → item a ++ x = item b ++ y → a = b ∧ x = y

theorem intercalate_map_cons (sep : List Char) (item : α → List Char) (a : α) (as : List α) :
    List.intercalate sep ((a :: as).map item) = item a ++ as.flatMap fun b => sep ++ item b := by
  induction as generalizing a with
  | nil => simp
  | cons b bs ih =>
    rw [List.map_cons, List.map_cons, List.intercalate_cons_cons, ← List.map_cons, ih b,
      List.flatMap_cons]
    simp only [List.append_assoc]

section Separable

variable {valid : α → Prop} {item : α → List Char} {sep : List Char}

/-- Items that each follow a separator end where no separator stands. -/
theorem Separable.flatMap_append_inj (separable : Separable valid item) (hs : Stops sep)
    (hne : sep ≠ []) : ∀ (as bs : List α) (x y : List Char), (∀ a ∈ as, valid a) →
      (∀ b ∈ bs, valid b) → Stops x → Stops y → ¬ sep <+: x → ¬ sep <+: y →
      (as.flatMap fun a => sep ++ item a) ++ x = (bs.flatMap fun b => sep ++ item b) ++ y →
      as = bs ∧ x = y := by
  have stops (cs : List α) (z : List Char) (hz : Stops z) :
      Stops ((cs.flatMap fun c => sep ++ item c) ++ z) := by
    cases cs with
    | nil => simpa using hz
    | cons c cs =>
      rw [List.flatMap_cons, List.append_assoc, List.append_assoc]
      exact stops_append hs hne
  have opens (c : α) (cs : List α) (z : List Char) :
      sep <+: ((c :: cs).flatMap fun c => sep ++ item c) ++ z := by
    rw [List.flatMap_cons, List.append_assoc, List.append_assoc]
    exact List.prefix_append _ _
  intro as
  induction as with
  | nil =>
    intro bs x y _ _ _ _ hx _ h
    cases bs with
    | nil => exact ⟨rfl, h⟩
    | cons b bs =>
      have h : x = _ := h
      exact absurd (h ▸ opens b bs y) hx
  | cons a as ih =>
    intro bs x y ha hb sx sy hx hy h
    cases bs with
    | nil =>
      have h : _ = y := h
      exact absurd (h ▸ opens a as x) hy
    | cons b bs =>
      simp only [List.flatMap_cons, List.append_assoc, List.append_cancel_left_eq] at h
      obtain ⟨rfl, rest⟩ := separable a b _ _ (ha a List.mem_cons_self) (hb b List.mem_cons_self)
        (stops as x sx) (stops bs y sy) h
      obtain ⟨rfl, rfl⟩ := ih bs x y (fun c hc => ha c (List.mem_cons_of_mem _ hc))
        (fun c hc => hb c (List.mem_cons_of_mem _ hc)) sx sy hx hy rest
      exact ⟨rfl, rfl⟩

/-- A list with separators shows its items and where it ends, if no separator follows. -/
theorem Separable.intercalate_append_inj (separable : Separable valid item) (hs : Stops sep)
    (hne : sep ≠ []) {as bs : List α} {x y : List Char} (has : as ≠ []) (hbs : bs ≠ [])
    (ha : ∀ a ∈ as, valid a) (hb : ∀ b ∈ bs, valid b) (sx : Stops x) (sy : Stops y)
    (hx : ¬ sep <+: x) (hy : ¬ sep <+: y)
    (h : List.intercalate sep (as.map item) ++ x = List.intercalate sep (bs.map item) ++ y) :
    as = bs ∧ x = y := by
  -- the first items get a separator too, so that the lists are of the form above
  have led (cs : List α) (hcs : cs ≠ []) :
      sep ++ List.intercalate sep (cs.map item) = cs.flatMap fun c => sep ++ item c := by
    cases cs with
    | nil => exact absurd rfl hcs
    | cons c cs => rw [intercalate_map_cons, List.flatMap_cons, List.append_assoc]
  apply separable.flatMap_append_inj hs hne as bs x y ha hb sx sy hx hy
  rw [← led as has, ← led bs hbs, List.append_assoc, List.append_assoc, h]

/-- The same where a word follows that no separator starts with. -/
theorem Separable.intercalate_word_inj (separable : Separable valid item) (hs : Stops sep)
    (hne : sep ≠ []) (word : List Char)
    (closes : Stops word ∧ word ≠ [] ∧ ¬ sep <+: word ∧ ¬ word <+: sep) {as bs : List α}
    {x y : List Char} (has : as ≠ []) (hbs : bs ≠ []) (ha : ∀ a ∈ as, valid a)
    (hb : ∀ b ∈ bs, valid b)
    (h : List.intercalate sep (as.map item) ++ (word ++ x) =
      List.intercalate sep (bs.map item) ++ (word ++ y)) : as = bs ∧ x = y := by
  obtain ⟨stops, filled, hw, hw'⟩ := closes
  obtain ⟨rfl, rest⟩ := separable.intercalate_append_inj hs hne has hbs ha hb
    (stops_append stops filled) (stops_append stops filled) (not_prefix_append hw hw' x)
    (not_prefix_append hw hw' y) h
  exact ⟨rfl, List.append_cancel_left rest⟩

end Separable

/-! ### At most one reading -/

open Identifier

/-- The name of a table ends where a word follows that cannot go on with it. -/
theorem table_word_inj {t t' : String} (ht : isTableName t) (ht' : isTableName t')
    (word : List Char) (stops : Stops word ∧ word ≠ []) {x y : List Char}
    (h : t.toList ++ (word ++ x) = t'.toList ++ (word ++ y)) : t = t' ∧ x = y := by
  obtain ⟨rfl, rest⟩ := name_append_inj (isNameChar_of_isTableName ht)
    (isNameChar_of_isTableName ht') (stops_append stops.1 stops.2)
    (stops_append stops.1 stops.2) h
  exact ⟨rfl, List.append_cancel_left rest⟩

theorem separable_name : Separable (fun s => isColumnName s) String.toList :=
  fun _ _ _ _ ha hb hx hy h =>
    name_append_inj (isNameChar_of_isColumnName ha) (isNameChar_of_isColumnName hb) hx hy h

theorem separable_mark : Separable (fun _ : Unit => True) (fun _ => "?".toList) :=
  fun _ _ _ _ _ _ _ _ h => ⟨rfl, List.append_cancel_left h⟩

theorem separable_assignment :
    Separable (fun a : String × Unit => isColumnName a.1)
      (fun a => a.1.toList ++ " = ?".toList) := by
  intro a b x y ha hb _ _ h
  rw [List.append_assoc, List.append_assoc] at h
  have stops (z : List Char) : Stops (" = ?".toList ++ z) := stops_append (by decide) (by decide)
  obtain ⟨same, rest⟩ := name_append_inj (isNameChar_of_isColumnName ha)
    (isNameChar_of_isColumnName hb) (stops x) (stops y) h
  exact ⟨Prod.ext same rfl, List.append_cancel_left rest⟩

theorem Atom.stops_tail (a : Atom α) (x : List Char) : Stops (a.tail ++ x) := by
  cases a with
  | isNull name =>
    show Stops (" IS NULL".toList ++ x)
    exact stops_append (by decide) (by decide)
  | equals name v =>
    show Stops (" = ?".toList ++ x)
    exact stops_append (by decide) (by decide)
  | equalsNumeric name v =>
    show Stops ("::numeric = ?".toList ++ x)
    exact stops_append (by decide) (by decide)

/-- No way to go on behind the name of a column is the start of another one. -/
theorem Atom.eq_of_tail_prefix {a b : Atom Unit} (name : a.name = b.name)
    (h : a.tail <+: b.tail) : a = b := by
  cases a <;> cases b <;> obtain rfl := name <;> first
    | rfl
    | dsimp only [Atom.tail] at h
      exact absurd h (by decide)

/-- What follows the name of a column shows the kind of the condition. -/
theorem Atom.eq_of_tail_append {a b : Atom Unit} {x y : List Char} (name : a.name = b.name)
    (h : a.tail ++ x = b.tail ++ y) : a = b ∧ x = y := by
  have same : a = b := by
    have hy : b.tail <+: a.tail ++ x := h ▸ List.prefix_append b.tail y
    rcases List.prefix_or_prefix_of_prefix (List.prefix_append a.tail x) hy with h | h
    · exact Atom.eq_of_tail_prefix name h
    · exact (Atom.eq_of_tail_prefix name.symm h).symm
  subst same
  exact ⟨rfl, List.append_cancel_left h⟩

theorem separable_atom : Separable (fun a : Atom Unit => isColumnName a.name) Atom.text := by
  intro a b x y ha hb _ _ h
  rw [Atom.text, Atom.text, List.append_assoc, List.append_assoc] at h
  obtain ⟨same, rest⟩ := name_append_inj (isNameChar_of_isColumnName ha)
    (isNameChar_of_isColumnName hb) (a.stops_tail x) (b.stops_tail y) h
  exact Atom.eq_of_tail_append same rest

theorem whereText_inj {as bs : List (Atom Unit)} (has : as ≠ []) (hbs : bs ≠ [])
    (ha : ∀ a ∈ as, isColumnName a.name) (hb : ∀ b ∈ bs, isColumnName b.name)
    (h : Reading.whereText as = Reading.whereText bs) : as = bs := by
  have h : Reading.whereText as ++ [] = Reading.whereText bs ++ [] := by rw [h]
  exact (separable_atom.intercalate_append_inj (by decide) (by decide) has hbs ha hb (by decide)
    (by decide) (by decide) (by decide) h).1

namespace Reading

theorem insert_text_inj {t t' : String} {cs cs' : List String} {vs vs' : List Unit}
    (ha : (insert t cs vs).WellFormed) (hb : (insert t' cs' vs').WellFormed)
    (h : (insert t cs vs).text = (insert t' cs' vs').text) :
    insert t cs vs = insert t' cs' vs' := by
  obtain ⟨ht, hcs, ncs, nvs⟩ := ha
  obtain ⟨ht', hcs', ncs', nvs'⟩ := hb
  obtain ⟨rfl, names⟩ := table_word_inj ht ht' " (".toList (by decide) (List.append_cancel_left h)
  obtain ⟨rfl, marks⟩ := separable_name.intercalate_word_inj (by decide) (by decide)
    ") VALUES (".toList (by decide) ncs ncs' hcs hcs' names
  have marks : _ ++ (")".toList ++ []) = _ ++ (")".toList ++ []) := marks
  obtain ⟨rfl, -⟩ := separable_mark.intercalate_word_inj (by decide) (by decide) ")".toList
    (by decide) nvs nvs' (fun _ _ => trivial) (fun _ _ => trivial) marks
  rfl

theorem update_text_inj {t t' : String} {as as' : List (String × Unit)} {ws ws' : List (Atom Unit)}
    (ha : (update t as ws).WellFormed) (hb : (update t' as' ws').WellFormed)
    (h : (update t as ws).text = (update t' as' ws').text) :
    update t as ws = update t' as' ws' := by
  obtain ⟨ht, has, nas, hws, nws⟩ := ha
  obtain ⟨ht', has', nas', hws', nws'⟩ := hb
  obtain ⟨rfl, sets⟩ := table_word_inj ht ht' " SET ".toList (by decide)
    (List.append_cancel_left h)
  obtain ⟨rfl, conditions⟩ := separable_assignment.intercalate_word_inj (by decide) (by decide)
    " WHERE ".toList (by decide) nas nas' has has' sets
  rw [whereText_inj nws nws' hws hws' conditions]

theorem delete_text_inj {t t' : String} {ws ws' : List (Atom Unit)}
    (ha : (delete t ws).WellFormed) (hb : (delete t' ws').WellFormed)
    (h : (delete t ws).text = (delete t' ws').text) : delete t ws = delete t' ws' := by
  obtain ⟨ht, hws, nws⟩ := ha
  obtain ⟨ht', hws', nws'⟩ := hb
  obtain ⟨rfl, conditions⟩ := table_word_inj ht ht' " WHERE ".toList (by decide)
    (List.append_cancel_left h)
  rw [whereText_inj nws nws' hws hws' conditions]

/-- A text has at most one well-formed reading. -/
theorem text_injective {a b : Reading Unit} (ha : a.WellFormed) (hb : b.WellFormed)
    (h : a.text = b.text) : a = b := by
  cases a <;> cases b
  case insert.insert => exact insert_text_inj ha hb h
  case update.update => exact update_text_inj ha hb h
  case delete.delete => exact delete_text_inj ha hb h
  -- statements of different kinds differ in their first word
  all_goals exact absurd h (append_ne_append (by decide) (by decide) _ _)

end Reading

/-! ### Parses and what stands at their placeholders -/

@[simp] theorem Atom.name_map (f : α → β) (a : Atom α) : (a.map f).name = a.name := by
  cases a <;> rfl

@[simp] theorem Atom.text_map (f : α → β) (a : Atom α) : (a.map f).text = a.text := by
  cases a <;> rfl

/-- Conditions are known from their parse and from what stands at the placeholders. -/
theorem Atom.eq_of_map_eq {as bs : List (Atom α)}
    (shape : as.map (Atom.map fun _ => ()) = bs.map (Atom.map fun _ => ()))
    (values : as.filterMap Atom.value? = bs.filterMap Atom.value?) : as = bs := by
  induction as generalizing bs with
  | nil => exact (List.map_eq_nil_iff.1 shape.symm).symm
  | cons a as ih =>
    obtain ⟨b, bs, rfl, first, rest⟩ := List.map_eq_cons_iff.1 shape.symm
    cases a <;> cases b <;> cases first
    case cons.isNull.isNull.refl => rw [ih rest.symm values]
    all_goals
      obtain ⟨rfl, later⟩ := List.cons.inj values
      rw [ih rest.symm later]

namespace Reading

theorem text_map (f : α → β) (r : Reading α) : (r.map f).text = r.text := by
  have conditions (as : List (Atom α)) : whereText (as.map (Atom.map f)) = whereText as := by
    rw [whereText, whereText, List.map_map]
    congr 1
    exact List.map_congr_left fun a _ => a.text_map f
  cases r with
  | insert table columns values =>
    dsimp only [map, text]
    rw [List.map_map]
    rfl
  | update table assignments atoms =>
    dsimp only [map, text]
    rw [List.map_map, conditions]
    rfl
  | delete table atoms =>
    dsimp only [map, text]
    rw [conditions]

theorem wellFormed_map (f : α → β) (r : Reading α) : (r.map f).WellFormed ↔ r.WellFormed := by
  cases r <;>
    simp only [map, WellFormed, List.forall_mem_map, ne_eq, List.map_eq_nil_iff, Atom.name_map]

/-- A reading is known from its parse and from what stands at the placeholders. -/
theorem eq_of_shape_eq {a b : Reading α} (shape : a.shape = b.shape)
    (values : a.values = b.values) : a = b := by
  cases a <;> cases b <;> simp only [Reading.shape, map, reduceCtorEq] at shape
  case insert.insert => 
    injection shape with ht hc _
    rw [ht, hc]
    exact congrArg _ values
  case update.update t as ws t' as' ws' =>
    injection shape with ht has hws
    have len : as.length = as'.length := by simpa using congrArg List.length has
    obtain ⟨hv, hw⟩ := List.append_inj values (by simpa using len)
    have names : as.map (·.1) = as'.map (·.1) := by
      have mapped := congrArg (List.map (·.1)) has
      rw [List.map_map, List.map_map] at mapped
      exact mapped
    have sets : as = as' :=
      (List.zip_of_prod names hv).trans (List.zip_of_prod rfl rfl).symm
    rw [ht, sets, Atom.eq_of_map_eq hws hw]
  case delete.delete =>
    injection shape with ht hws
    rw [ht, Atom.eq_of_map_eq hws values]

end Reading

/-! ### As many placeholders as values -/

theorem count_word_append {s : List Char} (hs : placeholder ∉ s) (x : List Char) :
    (s ++ x).count placeholder = x.count placeholder := by
  rw [List.count_append, List.count_eq_zero.2 hs, Nat.zero_add]

section Count

variable {sep : List Char} (hs : placeholder ∉ sep) (item : α → List Char)
include hs

theorem count_intercalate (as : List α) :
    (List.intercalate sep (as.map item)).count placeholder =
      (as.flatMap item).count placeholder := by
  have later (bs : List α) : (bs.flatMap fun b => sep ++ item b).count placeholder =
      (bs.flatMap item).count placeholder := by
    induction bs with
    | nil => rfl
    | cons b bs ih =>
      rw [List.flatMap_cons, List.append_assoc, count_word_append hs, List.count_append, ih,
        List.flatMap_cons, List.count_append]
  cases as with
  | nil => rfl
  | cons a as =>
    rw [intercalate_map_cons, List.count_append, later, List.flatMap_cons, List.count_append]

/-- A list with separators, of which each item has `n` placeholders. -/
theorem count_intercalate_of_eq {as : List α} {n : Nat}
    (each : ∀ a ∈ as, (item a).count placeholder = n) :
    (List.intercalate sep (as.map item)).count placeholder = as.length * n := by
  rw [count_intercalate hs]
  induction as with
  | nil => exact (Nat.zero_mul n).symm
  | cons a as ih =>
    obtain ⟨first, rest⟩ := List.forall_mem_cons.1 each
    rw [List.flatMap_cons, List.count_append, first, ih rest, List.length_cons,
      Nat.succ_mul, Nat.add_comm]

end Count

/-- A condition has a placeholder if it has a value for one. -/
theorem Atom.count_text (a : Atom α) (h : placeholder ∉ a.name.toList) :
    a.text.count placeholder = a.value?.toList.length := by
  rw [Atom.text, count_word_append h]
  cases a with
  | isNull name =>
    show " IS NULL".toList.count placeholder = 0
    decide
  | equals name v =>
    show " = ?".toList.count placeholder = 1
    decide
  | equalsNumeric name v =>
    show "::numeric = ?".toList.count placeholder = 1
    decide

namespace Reading

theorem count_whereText {conditions : List (Atom α)}
    (h : ∀ a ∈ conditions, placeholder ∉ a.name.toList) :
    (whereText conditions).count placeholder = (conditions.filterMap Atom.value?).length := by
  rw [whereText, count_intercalate (by decide)]
  induction conditions with
  | nil => rfl
  | cons a as ih =>
    rw [List.flatMap_cons, List.count_append, a.count_text (h a List.mem_cons_self),
      ih fun b hb => h b (List.mem_cons_of_mem a hb)]
    cases hv : a.value? with
    | none => rw [List.filterMap_cons_none hv, Option.toList_none, List.length_nil, Nat.zero_add]
    | some v => rw [List.filterMap_cons_some hv, Option.toList_some, Nat.add_comm]; rfl

/-- The text has as many placeholders as the reading has values, if no name looks like one. -/
theorem count_text (r : Reading α) (h : ∀ n ∈ r.names, placeholder ∉ n.toList) :
    r.text.count placeholder = r.values.length := by
  cases r with
  | insert table columns values =>
    have named : placeholder ∉ table.toList := h table List.mem_cons_self
    have lists : (List.intercalate ", ".toList (columns.map String.toList)).count placeholder =
        columns.length * 0 :=
      count_intercalate_of_eq (by decide) String.toList fun c hc =>
        List.count_eq_zero.2 (h c (List.mem_cons_of_mem table hc))
    have marks : (List.intercalate ", ".toList (values.map fun _ => "?".toList)).count
        placeholder = values.length * 1 :=
      count_intercalate_of_eq (by decide) (fun _ => "?".toList) fun _ _ => by decide
    dsimp only [text, Reading.values]
    rw [count_word_append (s := "INSERT INTO ".toList) (by decide), count_word_append named,
      count_word_append (s := " (".toList) (by decide), List.count_append, lists,
      count_word_append (s := ") VALUES (".toList) (by decide), List.count_append, marks,
      List.count_eq_zero.2 (by decide : placeholder ∉ ")".toList)]
    omega
  | update table assignments conditions =>
    have named : placeholder ∉ table.toList := h table List.mem_cons_self
    have marks : (List.intercalate ", ".toList (assignments.map fun a =>
        a.1.toList ++ " = ?".toList)).count placeholder = assignments.length * 1 := by
      refine count_intercalate_of_eq (by decide) (fun a : String × α => a.1.toList ++ " = ?".toList)
        fun a ha => ?_
      have free : placeholder ∉ a.1.toList :=
        h a.1 (List.mem_cons_of_mem table (List.mem_append_left _ (List.mem_map_of_mem ha)))
      rw [count_word_append free]
      decide
    have body : (whereText conditions).count placeholder =
        (conditions.filterMap Atom.value?).length :=
      count_whereText fun a ha =>
        h a.name (List.mem_cons_of_mem table (List.mem_append_right _ (List.mem_map_of_mem ha)))
    dsimp only [text, Reading.values]
    rw [count_word_append (s := "UPDATE ".toList) (by decide), count_word_append named,
      count_word_append (s := " SET ".toList) (by decide), List.count_append, marks,
      count_word_append (s := " WHERE ".toList) (by decide), body, List.length_append,
      List.length_map, Nat.mul_one]
  | delete table conditions =>
    have named : placeholder ∉ table.toList := h table List.mem_cons_self
    have body : (whereText conditions).count placeholder =
        (conditions.filterMap Atom.value?).length :=
      count_whereText fun a ha => h a.name (List.mem_cons_of_mem table (List.mem_map_of_mem ha))
    dsimp only [text, Reading.values]
    rw [count_word_append (s := "DELETE FROM ".toList) (by decide), count_word_append named,
      count_word_append (s := " WHERE ".toList) (by decide), body]

/-- The statement that a reading is taken from. -/
def statement (r : Reading Value) : BoundStatement :=
  ⟨r.table, r.kind, String.ofList r.text, r.values⟩

end Reading

/-! ### Readings of bound statements -/

/-- A parse of the text of a statement, with the parameters at the placeholders from left to
right. -/
def BoundStatement.Reads (st : BoundStatement) (r : Reading Value) : Prop :=
  Reading.Parses st.sql r.shape ∧ r.values = st.parameters

namespace Reading

variable {r : Reading Value}

/-- The text of a well-formed reading has one parse. -/
theorem parses_statement_iff (h : r.WellFormed) (parse : Reading Unit) :
    Parses r.statement.sql parse ↔ parse = r.shape := by
  have text : r.shape.text = r.statement.sql.toList := by
    rw [statement, String.toList_ofList, shape, text_map]
  have valid : r.shape.WellFormed := (wellFormed_map _ r).2 h
  constructor
  · rintro ⟨hp, hsql⟩
    exact text_injective hp valid (hsql.trans text.symm)
  · rintro rfl
    exact ⟨valid, text⟩

/-- The statement of a well-formed reading is read in one way. -/
theorem reads_statement_iff (h : r.WellFormed) (r' : Reading Value) :
    r.statement.Reads r' ↔ r' = r := by
  rw [BoundStatement.Reads, parses_statement_iff h]
  constructor
  · rintro ⟨shape, values⟩
    exact eq_of_shape_eq shape values
  · rintro rfl
    exact ⟨rfl, rfl⟩

end Reading
end Changefeed
