import Mathlib.Logic.Basic
import Mathlib.Tactic.SplitIfs
import Changefeed.Identifier

/-!
# Accepted names

What the checks of names let through.  Under the strict policy a name consists of the characters
that `Identifier.isNameChar` allows, none of which has a meaning in a statement; under both
policies no name holds a placeholder.  `IdentifierPolicy.discover_ok` collects what is known of the
columns that an event describes.
-/

namespace Changefeed

/-- Two steps in sequence succeed when both do. -/
theorem bind_eq_ok_iff {ε α β : Type} {x : Except ε α} {f : α → Except ε β} {b : β} :
    (x >>= f) = .ok b ↔ ∃ a, x = .ok a ∧ f a = .ok b := by
  cases x <;> simp [bind, Except.bind]

/-- The first of two steps that fails is what fails in sequence. -/
theorem bind_eq_error_iff {ε α β : Type} {x : Except ε α} {f : α → Except ε β} {e : ε} :
    (x >>= f) = .error e ↔ x = .error e ∨ ∃ a, x = .ok a ∧ f a = .error e := by
  cases x <;> simp [bind, Except.bind]

theorem map_eq_ok_iff {ε α β : Type} {x : Except ε α} {f : α → β} {b : β} :
    x.map f = .ok b ↔ ∃ a, x = .ok a ∧ f a = b := by
  cases x <;> simp [Except.map]

theorem map_eq_error_iff {ε α β : Type} {x : Except ε α} {f : α → β} {e : ε} :
    x.map f = .error e ↔ x = .error e := by
  cases x <;> simp [Except.map]

theorem mapError_eq_ok_iff {ε ε' α : Type} {x : Except ε α} {f : ε → ε'} {a : α} :
    x.mapError f = .ok a ↔ x = .ok a := by
  cases x <;> simp [Except.mapError]

namespace Identifier

/-- The characters of names that the strict policy takes. -/
def isNameChar (c : Char) : Bool :=
  isPart c || c = '.' || c = '\n'

theorem isNameChar_of_isPart {c : Char} (h : isPart c) : isNameChar c := by
  simp [isNameChar, h]

theorem isPart_of_isPlain {s : List Char} (h : isPlain s) : ∀ c ∈ s, isPart c := by
  cases s with
  | nil => simp
  | cons c rest =>
    simp only [isPlain, Bool.and_eq_true, List.all_eq_true] at h
    intro d hd
    rcases List.mem_cons.1 hd with rfl | hd
    · simp [isPart, h.1]
    · exact h.2 d hd

theorem isNameChar_of_isQualified {s : List Char} (h : isQualified s) :
    ∀ c ∈ s, isNameChar c := by
  have parts := List.takeWhile_append_dropWhile (p := (· != '.')) (l := s)
  unfold isQualified at h
  intro c hc
  rw [← parts, List.mem_append] at hc
  cases hd : s.dropWhile (· != '.') with
  | nil =>
    simp only [hd] at h hc
    rcases hc with hc | hc
    · exact isNameChar_of_isPart (isPart_of_isPlain h c hc)
    · exact absurd hc List.not_mem_nil
  | cons dot second =>
    simp only [hd, Bool.and_eq_true] at h hc
    have isDot : dot = '.' := by
      have head := List.head_dropWhile_not (· != '.') (l := s) (by simp [hd])
      simpa [hd] using head
    rcases hc with hc | hc
    · exact isNameChar_of_isPart (isPart_of_isPlain h.1 c hc)
    rcases List.mem_cons.1 hc with rfl | hc
    · simp [isNameChar, isDot]
    · exact isNameChar_of_isPart (isPart_of_isPlain h.2 c hc)

/-- A final line feed is all that is passed over. -/
theorem mem_dropFinalNewline {s : List Char} {c : Char} (hc : c ∈ s) :
    c ∈ dropFinalNewline s ∨ c = '\n' := by
  unfold dropFinalNewline
  split_ifs with last
  · obtain ⟨front, rfl⟩ := List.getLast?_eq_some_iff.1 last
    simpa using hc
  · exact Or.inl hc

theorem isNameChar_of_isColumnName {s : String} (h : isColumnName s) :
    ∀ c ∈ s.toList, isNameChar c := by
  intro c hc
  rcases mem_dropFinalNewline hc with hc | rfl
  · exact isNameChar_of_isPart (isPart_of_isPlain h c hc)
  · decide

theorem isNameChar_of_isTableName {s : String} (h : isTableName s) :
    ∀ c ∈ s.toList, isNameChar c := by
  intro c hc
  rcases mem_dropFinalNewline hc with hc | rfl
  · exact isNameChar_of_isQualified h c hc
  · decide

theorem placeholder_not_mem {s : List Char} (h : ∀ c ∈ s, isNameChar c) : placeholder ∉ s :=
  fun hc => absurd (h placeholder hc) (by decide)

end Identifier

open Identifier

/-! ### Checks that pass -/

theorem checkTableName_eq_ok_iff (s : String) :
    checkTableName (.text s) = .ok () ↔ isTableName s := by
  simp only [checkTableName]
  split_ifs with h <;> simp [h]

theorem checkColumnNames_eq_ok_iff (columns : List Column) :
    checkColumnNames columns = .ok () ↔ ∀ c ∈ columns, isColumnName c.name := by
  unfold checkColumnNames
  cases h : columns.find? fun c => !isColumnName c.name with
  | none => simpa using h
  | some c =>
    have bad := List.find?_some h
    simp only [Bool.not_eq_true'] at bad
    simp only [reduceCtorEq, false_iff, not_forall]
    exact ⟨c, List.mem_of_find?_eq_some h, by simp [bad]⟩

theorem checkPlaceholders_eq_ok_iff (names : List String) :
    checkPlaceholders names = .ok () ↔ ∀ n ∈ names, placeholder ∉ n.toList := by
  unfold checkPlaceholders
  cases h : names.find? fun n => n.toList.contains placeholder with
  | none => simpa using h
  | some n =>
    have bad := List.find?_some h
    simp only [List.contains_iff_mem] at bad
    simp only [reduceCtorEq, false_iff, not_forall]
    exact ⟨n, List.mem_of_find?_eq_some h, fun good => good bad⟩

namespace IdentifierPolicy

theorem checkTable_strict_eq_ok {s name : String} (h : strict.checkTable (.text s) = .ok name) :
    name = s ∧ isTableName s := by
  obtain ⟨⟨⟩, checked, rfl⟩ := map_eq_ok_iff.1 h
  exact ⟨rfl, (checkTableName_eq_ok_iff s).1 checked⟩

theorem checkTable_trust_eq_ok {s name : String} (h : trust.checkTable (.text s) = .ok name) :
    name = s ∧ placeholder ∉ s.toList := by
  obtain ⟨⟨⟩, checked, rfl⟩ := map_eq_ok_iff.1 h
  have free := (checkPlaceholders_eq_ok_iff [s]).1 (mapError_eq_ok_iff.1 checked)
  exact ⟨rfl, free s (by simp)⟩

/-- The name of a table is taken as it is or not at all. -/
theorem checkTable_eq_ok {p : IdentifierPolicy} {s name : String}
    (h : p.checkTable (.text s) = .ok name) : name = s ∧ placeholder ∉ s.toList := by
  cases p with
  | strict =>
    obtain ⟨rfl, valid⟩ := checkTable_strict_eq_ok h
    exact ⟨rfl, placeholder_not_mem (isNameChar_of_isTableName valid)⟩
  | trust => exact checkTable_trust_eq_ok h

theorem checkColumns_strict_eq_ok_iff (s : TableSchema) :
    strict.checkColumns s = .ok () ↔
      (∀ c ∈ s.columns, isColumnName c.name) ∧ ∀ c ∈ s.keyColumns, isColumnName c.name := by
  rw [← checkColumnNames_eq_ok_iff, ← checkColumnNames_eq_ok_iff]
  simp only [checkColumns]
  cases checkColumnNames s.columns with
  | error e => simp [bind, Except.bind]
  | ok u => simp [bind, Except.bind]

/-- No column that a policy takes has a placeholder in its name. -/
theorem placeholder_not_mem_of_checkColumns {p : IdentifierPolicy} {s : TableSchema}
    (h : p.checkColumns s = .ok ()) :
    ∀ c ∈ s.columns ++ s.keyColumns, placeholder ∉ c.name.toList := by
  intro c hc
  cases p with
  | strict =>
    obtain ⟨columns, keys⟩ := (checkColumns_strict_eq_ok_iff s).1 h
    rcases List.mem_append.1 hc with hc | hc
    · exact placeholder_not_mem (isNameChar_of_isColumnName (columns c hc))
    · exact placeholder_not_mem (isNameChar_of_isColumnName (keys c hc))
  | trust =>
    apply (checkPlaceholders_eq_ok_iff _).1 h
    simpa [TableSchema.columnNames, TableSchema.keyColumnNames, List.mem_append] using
      (List.mem_append.1 hc).imp (fun h => ⟨c, h, rfl⟩) (fun h => ⟨c, h, rfl⟩)

/-- Both policies take the names that the strict one takes. -/
theorem checkColumns_of_isColumnName (p : IdentifierPolicy) {s : TableSchema}
    (h : ∀ c ∈ s.columns ++ s.keyColumns, isColumnName c.name) : p.checkColumns s = .ok () := by
  cases p with
  | strict => exact (checkColumns_strict_eq_ok_iff s).2 (List.forall_mem_append.1 h)
  | trust =>
    apply (checkPlaceholders_eq_ok_iff _).2
    rw [TableSchema.columnNames, TableSchema.keyColumnNames, ← List.map_append,
      List.forall_mem_map]
    exact fun c hc => placeholder_not_mem (isNameChar_of_isColumnName (h c hc))

end IdentifierPolicy

/-! ### Columns that an event describes -/

theorem TableSchema.rowColumns_ne_nil {schema : FieldSchema} {image : RowImage}
    {columns : List Column} (h : rowColumns schema image = .ok columns) : columns ≠ [] := by
  unfold rowColumns at h
  cases hf : schema.find? image.name with
  | none => simp [hf] at h
  | some row =>
    simp only [hf] at h
    split_ifs at h with empty
    rintro rfl
    cases hr : row.fields with
    | nil => simp [hr] at empty
    | cons f fs =>
      rw [hr, Column.ofFields, List.mapM_cons, bind_eq_ok_iff] at h
      obtain ⟨c, -, h⟩ := h
      obtain ⟨cs, -, h⟩ := bind_eq_ok_iff.1 h
      cases h

/-- What an event describes has columns, and the policy takes the names of all. -/
theorem IdentifierPolicy.discover_ok {p : IdentifierPolicy} {key : Option KeyEnvelope}
    {value : ValueEnvelope} {s : TableSchema} (h : p.discover key value = .ok s) :
    s.columns ≠ [] ∧ p.checkColumns s = .ok () := by
  obtain ⟨s', described, h⟩ := bind_eq_ok_iff.1 h
  obtain ⟨u, valid, h⟩ := bind_eq_ok_iff.1 h
  obtain rfl := Except.ok.inj h
  refine ⟨?_, valid⟩
  unfold TableSchema.ofEnvelopes at described
  cases hs : value.schema with
  | none => simp [hs] at described
  | some schema =>
    simp only [hs] at described
    obtain ⟨columns, hc, described⟩ := bind_eq_ok_iff.1 described
    obtain ⟨keyColumns, -, described⟩ := bind_eq_ok_iff.1 described
    obtain rfl := Except.ok.inj described
    exact TableSchema.rowColumns_ne_nil hc

end Changefeed
