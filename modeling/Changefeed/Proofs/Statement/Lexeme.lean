import Mathlib.Data.List.Chain
import Changefeed.Proofs.Identifier.Grammar
import Changefeed.Proofs.Statement.Reading
import Changefeed.Statement.Numbered

/-!
# Statements as the server reads them

The database server reads a statement as identifiers, parameters and single characters (`lexemes`),
each as long as it can be.  Placeholders are such characters, and to number them in a text is to put
parameters in their place (`Spaced.lexemes_numberFrom`), if none of them stands beside an identifier
and digits and dollar signs stand in identifiers only (`Spaced`).  The statements of well-formed
readings are spaced so, whatever the names are (`Reading.spaced_text`).
-/

namespace Changefeed

/-- What the server reads at once. -/
inductive Lexeme where
  | identifier (text : List Char)
  /-- A dollar sign and digits. -/
  | parameter (digits : List Char)
  | other (c : Char)
deriving DecidableEq, Repr

namespace Lexeme

/-- Letters, among which are all characters outside ASCII, and the underscore. -/
def isStart (c : Char) : Bool :=
  c.isAlpha || 128 ≤ c.toNat || c = '_'

/-- What identifiers go on with: letters, underscores, digits and dollar signs. -/
def isPart (c : Char) : Bool :=
  isStart c || c.isDigit || c = '$'

/-- The characters of a lexeme. -/
def text : Lexeme → List Char
  | .identifier text => text
  | .parameter digits => '$' :: digits
  | .other c => [c]

/-- A placeholder. -/
def mark : Lexeme :=
  .other placeholder

/-- The digits of a parameter. -/
def digits? : Lexeme → Option (List Char)
  | .parameter digits => some digits
  | .identifier _ | .other _ => none

/-- A lexeme with a placeholder in the place of a parameter. -/
def unnumbered : Lexeme → Lexeme
  | .parameter _ => mark
  | .identifier text => .identifier text
  | .other c => .other c

end Lexeme

open Lexeme

/-- The lexemes of a text, each as long as it can be. -/
def lexemes : List Char → List Lexeme
  | [] => []
  | c :: rest =>
    if isStart c then
      .identifier (c :: rest.takeWhile isPart) :: lexemes (rest.dropWhile isPart)
    else if c = '$' ∧ rest.takeWhile Char.isDigit ≠ [] then
      .parameter (rest.takeWhile Char.isDigit) :: lexemes (rest.dropWhile Char.isDigit)
    else .other c :: lexemes rest
termination_by s => s.length
decreasing_by
  all_goals
    simp only [List.length_cons]
    have := (List.dropWhile_sublist isPart (l := rest)).length_le
    have := (List.dropWhile_sublist Char.isDigit (l := rest)).length_le
    omega

/-- The lexemes of a text make it up. -/
theorem flatMap_text_lexemes (s : List Char) : (lexemes s).flatMap Lexeme.text = s := by
  fun_induction lexemes s with
  | case1 => rfl
  | case2 c rest start ih =>
    rw [List.flatMap_cons, ih, Lexeme.text, List.cons_append, List.takeWhile_append_dropWhile]
  | case3 c rest start numbered ih =>
    rw [List.flatMap_cons, ih, Lexeme.text, List.cons_append, List.takeWhile_append_dropWhile,
      numbered.1]
  | case4 c rest start numbered ih =>
    rw [List.flatMap_cons, ih]
    rfl

example : lexemes "a$1 = $12".toList =
    [.identifier "a$1".toList, .other ' ', .other '=', .other ' ', .parameter "12".toList] := by
  cbv

/-- A class of characters takes a text up to what follows it. -/
theorem takeWhile_append_of_stop {p : Char → Bool} {word later : List Char}
    (all : ∀ c ∈ word, p c) (stop : ∀ c ∈ later.head?, p c = false) :
    (word ++ later).takeWhile p = word ∧ (word ++ later).dropWhile p = later := by
  have ends : later.takeWhile p = [] ∧ later.dropWhile p = later := by
    cases later with
    | nil => exact ⟨rfl, rfl⟩
    | cons c later => simp [stop c rfl]
  rw [List.takeWhile_append_of_pos all, List.dropWhile_append_of_pos all, ends.1, ends.2,
    List.append_nil]
  exact ⟨rfl, rfl⟩

theorem lexemes_identifier {c : Char} {word later : List Char} (start : isStart c)
    (all : ∀ c ∈ word, isPart c) (stop : ∀ c ∈ later.head?, isPart c = false) :
    lexemes (c :: (word ++ later)) = .identifier (c :: word) :: lexemes later := by
  obtain ⟨taken, left⟩ := takeWhile_append_of_stop all stop
  rw [lexemes, if_pos start, taken, left]

theorem lexemes_parameter {digits later : List Char} (some : digits ≠ [])
    (all : ∀ c ∈ digits, c.isDigit) (stop : ∀ c ∈ later.head?, c.isDigit = false) :
    lexemes ('$' :: (digits ++ later)) = .parameter digits :: lexemes later := by
  obtain ⟨taken, left⟩ := takeWhile_append_of_stop all stop
  rw [lexemes, if_neg (by decide), taken, left, if_pos ⟨rfl, some⟩]

theorem lexemes_other {c : Char} {later : List Char} (start : isStart c = false)
    (plain : c ≠ '$') : lexemes (c :: later) = .other c :: lexemes later := by
  rw [lexemes, if_neg (by simp [start]), if_neg fun numbered => plain numbered.1]

/-! ### Numbering placeholders among lexemes -/

theorem numberFrom_append {s : List Char} (h : placeholder ∉ s) (n : Nat) (later : List Char) :
    numberFrom n (s ++ later) = s ++ numberFrom n later := by
  induction s with
  | nil => rfl
  | cons c s ih =>
    obtain ⟨first, rest⟩ := not_or.1 (mt List.mem_cons.2 h)
    rw [List.cons_append, numberFrom, if_neg (Ne.symm first), ih rest, List.cons_append]

theorem head?_numberFrom {s : List Char} (h : ∀ c ∈ s.head?, c ≠ placeholder) (n : Nat) :
    (numberFrom n s).head? = s.head? := by
  cases s with
  | nil => rfl
  | cons c s =>
    rw [numberFrom, if_neg (h c rfl)]
    rfl

namespace Lexeme

/-- The parameters from `n` on in the place of the placeholders. -/
def numberMarks : (n : Nat) → List Lexeme → List Lexeme
  | _, [] => []
  | n, x :: xs =>
    if x = mark then .parameter (Nat.toDigits 10 n) :: numberMarks (n + 1) xs
    else x :: numberMarks n xs

@[simp] theorem digits?_parameter (digits : List Char) :
    (Lexeme.parameter digits).digits? = some digits := rfl

/-- The numbers are those of the placeholders, in order. -/
theorem filterMap_digits?_numberMarks {xs : List Lexeme} (free : ∀ x ∈ xs, x.digits? = none)
    (n : Nat) : (numberMarks n xs).filterMap digits? =
      (List.range' n (xs.count mark)).map (Nat.toDigits 10) := by
  induction xs generalizing n with
  | nil => rfl
  | cons x xs ih =>
    obtain ⟨first, rest⟩ := List.forall_mem_cons.1 free
    rw [numberMarks]
    split_ifs with h
    · rw [List.filterMap_cons_some (digits?_parameter _), ih rest, h, List.count_cons_self,
        List.range'_succ, List.map_cons]
    · rw [List.filterMap_cons_none first, ih rest, List.count_cons_of_ne h]

/-- All other lexemes stay. -/
theorem map_unnumbered_numberMarks {xs : List Lexeme} (free : ∀ x ∈ xs, x.digits? = none)
    (n : Nat) : (numberMarks n xs).map unnumbered = xs := by
  induction xs generalizing n with
  | nil => rfl
  | cons x xs ih =>
    obtain ⟨first, rest⟩ := List.forall_mem_cons.1 free
    rw [numberMarks]
    split_ifs with h
    · rw [List.map_cons, ih rest, h]
      rfl
    · rw [List.map_cons, ih rest]
      cases x with
      | parameter digits => cases first
      | identifier text => rfl
      | other c => rfl

theorem mark_not_mem_numberMarks (n : Nat) (xs : List Lexeme) : mark ∉ numberMarks n xs := by
  induction xs generalizing n with
  | nil => exact List.not_mem_nil
  | cons x xs ih =>
    rw [numberMarks]
    split_ifs with h
    · exact List.not_mem_cons_of_ne_of_not_mem nofun (ih (n + 1))
    · exact List.not_mem_cons_of_ne_of_not_mem (Ne.symm h) (ih n)

end Lexeme

theorem count_dropWhile {p : Char → Bool} (outside : p placeholder = false) (s : List Char) :
    (s.dropWhile p).count placeholder = s.count placeholder := by
  have word : placeholder ∉ s.takeWhile p := fun mark =>
    absurd (List.mem_takeWhile_imp mark) (by simp [outside])
  rw [← count_word_append word, List.takeWhile_append_dropWhile]

/-- A text has as many placeholders among its lexemes as among its characters. -/
theorem count_mark_lexemes (s : List Char) : (lexemes s).count mark = s.count placeholder := by
  have identifier (text : List Char) : Lexeme.identifier text ≠ mark := nofun
  have parameter (digits : List Char) : Lexeme.parameter digits ≠ mark := nofun
  fun_induction lexemes s with
  | case1 => rfl
  | case2 c rest start ih =>
    have plain : c ≠ placeholder := by
      rintro rfl
      exact absurd start (by decide)
    rw [List.count_cons_of_ne (identifier _), ih, count_dropWhile (by decide),
      List.count_cons_of_ne plain]
  | case3 c rest start numbered ih =>
    have plain : c ≠ placeholder := by
      rw [numbered.1]
      decide
    rw [List.count_cons_of_ne (parameter _), ih, count_dropWhile (by decide),
      List.count_cons_of_ne plain]
  | case4 c rest start numbered ih =>
    rw [List.count_cons, List.count_cons, ih]
    simp [mark]

/-! ### Spaced texts -/

/-- What one character may be followed by: digits and dollar signs stand in identifiers only, and
placeholders stand apart from identifiers. -/
def Adjoins (c d : Char) : Prop :=
  (isPart d → isStart d ∨ isPart c) ∧ ¬ (c = placeholder ∧ isPart d) ∧
    ¬ (isPart c ∧ d = placeholder)

instance (c d : Char) : Decidable (Adjoins c d) :=
  inferInstanceAs (Decidable (_ ∧ _))

/-- Digits, dollar signs and placeholders stand in a text as `Adjoins` asks for, also if a space
comes before it. -/
def Spaced (s : List Char) : Prop :=
  List.IsChain Adjoins (' ' :: s)

instance (s : List Char) : Decidable (Spaced s) :=
  inferInstanceAs (Decidable (List.IsChain _ _))

example : Spaced "a$1 = ?".toList ∧ ¬ Spaced "a$1=1".toList ∧ ¬ Spaced "a$1?".toList := by
  decide

theorem spaced_iff {s : List Char} :
    Spaced s ↔ s.IsChain Adjoins ∧ ∀ c ∈ s.head?, isPart c → isStart c := by
  have start (c : Char) : Adjoins ' ' c ↔ (isPart c → isStart c) := by
    have blank : isPart ' ' = false ∧ ' ' ≠ placeholder := by decide
    simp [Adjoins, blank]
  rw [Spaced, List.isChain_cons, and_comm]
  simp only [start]

theorem isPart_of_mem_word {c : Char} (part : isPart c) (rest : List Char) :
    ∀ d ∈ c :: rest.takeWhile isPart, isPart d := by
  simp only [List.forall_mem_cons]
  exact ⟨part, fun d hd => List.mem_takeWhile_imp hd⟩

namespace Spaced

variable {c : Char} {s rest : List Char}

theorem isStart_of_isPart (h : Spaced (c :: rest)) (part : isPart c) : isStart c :=
  (spaced_iff.1 h).2 c rfl part

/-- Behind a character that no identifier has, a text is spaced still. -/
theorem tail (h : Spaced (c :: rest)) (outside : isPart c = false) : Spaced rest := by
  obtain ⟨first, later⟩ := List.isChain_cons.1 (spaced_iff.1 h).1
  refine spaced_iff.2 ⟨later, fun d hd part => ((first d hd).1 part).resolve_right ?_⟩
  rw [outside]
  decide

/-- Behind an identifier, a text is spaced still, and no placeholder follows it. -/
theorem dropWhile (h : Spaced (c :: rest)) (part : isPart c) :
    Spaced (rest.dropWhile isPart) ∧
      ∀ d ∈ (rest.dropWhile isPart).head?, isPart d = false ∧ d ≠ placeholder := by
  have stop : ∀ d ∈ (rest.dropWhile isPart).head?, isPart d = false := fun d hd => by
    simpa [Option.mem_def.1 hd] using List.head?_dropWhile_not isPart rest
  have chain := (spaced_iff.1 h).1
  rw [← List.takeWhile_append_dropWhile (p := isPart) (l := rest), ← List.cons_append,
    List.isChain_append] at chain
  obtain ⟨-, later, boundary⟩ := chain
  refine ⟨spaced_iff.2 ⟨later, fun d hd part => ?_⟩, fun d hd => ⟨stop d hd, ?_⟩⟩
  · exact absurd part (by simp [stop d hd])
  · have word := List.cons_ne_nil c (rest.takeWhile isPart)
    exact fun mark => (boundary _ (List.getLast?_eq_some_getLast word) d hd).2.2
      ⟨isPart_of_mem_word part rest _ (List.getLast_mem word), mark⟩

/-- No digit comes behind the number that is put in the place of a placeholder. -/
theorem not_isDigit_of_placeholder (h : Spaced (placeholder :: rest)) (n : Nat) :
    ∀ d ∈ (numberFrom n rest).head?, d.isDigit = false := by
  cases rest with
  | nil => exact nofun
  | cons d rest =>
    have outside : isPart d = false := Bool.eq_false_iff.2 fun part =>
      ((List.isChain_cons.1 (spaced_iff.1 h).1).1 d rfl).2.1 ⟨rfl, part⟩
    rw [numberFrom]
    split_ifs with mark
    · rintro _ ⟨⟩
      decide
    · rintro _ ⟨⟩
      simp only [isPart, Bool.or_eq_false_iff] at outside
      exact outside.1.2

/-- An identifier stays as it is. -/
theorem lexemes_word (h : Spaced (c :: rest)) (start : isStart c) (n : Nat) :
    lexemes (numberFrom n (c :: rest)) = .identifier (c :: rest.takeWhile isPart) ::
      lexemes (numberFrom n (rest.dropWhile isPart)) := by
  have part : isPart c := by simp [isPart, start]
  have parts := isPart_of_mem_word part rest
  have unmarked : placeholder ∉ c :: rest.takeWhile isPart := fun mark =>
    absurd (parts _ mark) (by decide)
  have stop := (h.dropWhile part).2
  have split : c :: rest = (c :: rest.takeWhile isPart) ++ rest.dropWhile isPart := by
    rw [List.cons_append, List.takeWhile_append_dropWhile]
  rw [split, numberFrom_append unmarked, List.cons_append,
    lexemes_identifier start fun d hd => parts d (List.mem_cons_of_mem c hd)]
  rw [head?_numberFrom fun d hd => (stop d hd).2]
  exact fun d hd => (stop d hd).1

/-- A placeholder becomes a parameter. -/
theorem lexemes_placeholder (h : Spaced (placeholder :: rest)) (n : Nat) :
    lexemes (numberFrom n (placeholder :: rest)) =
      .parameter (Nat.toDigits 10 n) :: lexemes (numberFrom (n + 1) rest) := by
  rw [numberFrom, if_pos rfl, List.cons_append, lexemes_parameter Nat.toDigits_ne_nil]
  · exact fun d hd => Nat.isDigit_of_mem_toDigits (b := 10) (by decide) (by decide) hd
  · exact h.not_isDigit_of_placeholder (n + 1)

/-- In a spaced text, to number the placeholders is to put parameters in the place of these
lexemes; the text has no parameters before. -/
theorem lexemes_numberFrom (h : Spaced s) (n : Nat) :
    lexemes (numberFrom n s) = numberMarks n (lexemes s) ∧
      ∀ x ∈ lexemes s, x.digits? = none := by
  -- Behind each lexeme the text is spaced again, and the number that comes next grows.
  fun_induction lexemes s generalizing n with
  | case1 => exact ⟨by rw [numberFrom, lexemes, numberMarks], nofun⟩
  | case2 c rest start ih =>
    obtain ⟨same, free⟩ := ih (h.dropWhile (by simp [isPart, start])).1 n
    refine ⟨?_, List.forall_mem_cons.2 ⟨rfl, free⟩⟩
    rw [h.lexemes_word start, same, numberMarks, if_neg nofun]
  | case3 c rest start numbered ih =>
    -- a dollar sign that starts a parameter would not stand in an identifier
    exact absurd (h.isStart_of_isPart (by rw [numbered.1]; decide)) start
  | case4 c rest start numbered ih =>
    have outside : isPart c = false := Bool.eq_false_iff.2 (mt h.isStart_of_isPart start)
    by_cases mark : c = placeholder
    · subst mark
      obtain ⟨same, free⟩ := ih (h.tail outside) (n + 1)
      refine ⟨?_, List.forall_mem_cons.2 ⟨rfl, free⟩⟩
      rw [h.lexemes_placeholder, same, numberMarks, ← Lexeme.mark, if_pos rfl]
    · obtain ⟨same, free⟩ := ih (h.tail outside) n
      have plain : c ≠ '$' := by
        rintro rfl
        exact absurd outside (by decide)
      refine ⟨?_, List.forall_mem_cons.2 ⟨rfl, free⟩⟩
      rw [numberFrom, if_neg mark, lexemes_other (Bool.eq_false_iff.2 start) plain, same,
        numberMarks, if_neg]
      exact fun same => mark (Lexeme.other.inj same)

end Spaced

/-! ### Statements are spaced -/

/-- The characters that stand apart from all others: no identifier has them, and they are no
placeholders. -/
def isNeutral (c : Char) : Bool :=
  !isPart c && c != placeholder

theorem isNeutral_iff {c : Char} : isNeutral c ↔ isPart c = false ∧ c ≠ placeholder := by
  simp [isNeutral]

theorem adjoins_of_isNeutral_left {c d : Char} (h : isNeutral c) (start : isPart d → isStart d) :
    Adjoins c d := by
  obtain ⟨outside, unmarked⟩ := isNeutral_iff.1 h
  simpa [Adjoins, outside, unmarked] using start

theorem adjoins_of_isNeutral_right {c d : Char} (h : isNeutral d) : Adjoins c d := by
  obtain ⟨outside, unmarked⟩ := isNeutral_iff.1 h
  simp [Adjoins, outside, unmarked]

/-- A word that may stand between any two spaced texts. -/
def Separates (w : List Char) : Prop :=
  Spaced w ∧ w.head?.any isNeutral ∧ w.getLast?.any isNeutral

instance (w : List Char) : Decidable (Separates w) :=
  inferInstanceAs (Decidable (_ ∧ _))

namespace Spaced

variable {a b w : List Char}

theorem append (ha : Spaced a) (hb : Spaced b)
    (boundary : ∀ c ∈ a.getLast?, ∀ d ∈ b.head?, Adjoins c d) : Spaced (a ++ b) := by
  obtain ⟨first, startsFirst⟩ := spaced_iff.1 ha
  obtain ⟨second, startsSecond⟩ := spaced_iff.1 hb
  refine spaced_iff.2 ⟨List.isChain_append.2 ⟨first, second, boundary⟩, fun c hc => ?_⟩
  rw [List.head?_append, Option.mem_def, Option.or_eq_some_iff] at hc
  exact hc.elim (startsFirst c) fun hc => startsSecond c hc.2

theorem append_of_last (ha : Spaced a) (hb : Spaced b) (ends : a.getLast?.any isNeutral) :
    Spaced (a ++ b) := by
  refine ha.append hb fun c hc d hd => adjoins_of_isNeutral_left ?_ ((spaced_iff.1 hb).2 d hd)
  rwa [Option.mem_def.1 hc] at ends

theorem append_of_head (ha : Spaced a) (hb : Spaced b) (starts : b.head?.any isNeutral) :
    Spaced (a ++ b) := by
  refine ha.append hb fun c _ d hd => adjoins_of_isNeutral_right ?_
  rwa [Option.mem_def.1 hd] at starts

theorem separated (ha : Spaced a) (hw : Separates w) (hb : Spaced b) : Spaced (a ++ (w ++ b)) := by
  obtain ⟨spaced, starts, ends⟩ := hw
  refine ha.append_of_head (spaced.append_of_last hb ends) ?_
  cases w with
  | nil => cases starts
  | cons c w => exact starts

theorem intercalate (hw : Separates w) {items : List (List Char)} (h : ∀ s ∈ items, Spaced s) :
    Spaced (List.intercalate w items) := by
  induction items with
  | nil => exact (by decide : Spaced [])
  | cons s items ih =>
    obtain ⟨first, rest⟩ := List.forall_mem_cons.1 h
    cases items with
    | nil => simpa using first
    | cons t items =>
      rw [List.intercalate_cons_cons, List.append_assoc]
      exact first.separated hw (ih rest)

end Spaced

/-! ### Names -/

theorem isStart_of_mem_startChars : ∀ c ∈ Identifier.startChars, isStart c :=
  List.all_eq_true.1 (by decide +kernel)

theorem isPart_of_mem_partChars : ∀ c ∈ Identifier.partChars, isPart c :=
  List.all_eq_true.1 (by decide +kernel)

theorem spaced_of_mem_plain {s : List Char} (h : s ∈ Identifier.plain) : Spaced s := by
  have parts : ∀ c ∈ s, isPart c := fun c hc =>
    isPart_of_mem_partChars c (Identifier.mem_partChars_of_plain h c hc)
  refine spaced_iff.2 ⟨(List.pairwise_of_forall_mem_list fun c hc d hd => ?_).isChain, ?_⟩
  · refine ⟨fun _ => .inr (parts c hc), fun mark => ?_, fun mark => ?_⟩
    · exact absurd (parts c hc) (by rw [mark.1]; decide)
    · exact absurd (parts d hd) (by rw [mark.2]; decide)
  · obtain ⟨c, rest, rfl, first, -⟩ := Identifier.mem_plain.1 h
    rintro _ ⟨⟩ -
    exact isStart_of_mem_startChars c first

theorem spaced_of_mem_qualified {s : List Char} (h : s ∈ Identifier.qualified) : Spaced s := by
  rcases Identifier.mem_qualified.1 h with h | ⟨first, hfirst, second, hsecond, rfl⟩
  · exact spaced_of_mem_plain h
  · exact (spaced_of_mem_plain hfirst).separated (w := ['.']) (by decide)
      (spaced_of_mem_plain hsecond)

/-- A line feed behind a name does not matter. -/
theorem spaced_of_mem_mul_lineEnd {l : Language Char} (h : ∀ s ∈ l, Spaced s) {s : List Char}
    (hs : s ∈ l * Identifier.lineEnd) : Spaced s := by
  rcases Identifier.mem_mul_lineEnd.1 hs with hs | hs
  · exact h s hs
  · obtain ⟨name, hname, rfl⟩ := Identifier.mem_mul_lineFeed.1 hs
    exact (h name hname).append_of_head (by decide) (by decide)

theorem spaced_of_isColumnName {s : String} (h : Identifier.isColumnName s) : Spaced s.toList :=
  spaced_of_mem_mul_lineEnd (fun _ => spaced_of_mem_plain) (Identifier.isColumnName_iff.1 h)

theorem spaced_of_isTableName {s : String} (h : Identifier.isTableName s) : Spaced s.toList :=
  spaced_of_mem_mul_lineEnd (fun _ => spaced_of_mem_qualified) (Identifier.isTableName_iff.1 h)

/-! ### Readings -/

variable {α : Type}

theorem Atom.spaced_tail (a : Atom α) : Spaced a.tail ∧ a.tail.head?.any isNeutral := by
  cases a with
  | isNull name =>
    show Spaced " IS NULL".toList ∧ " IS NULL".toList.head?.any isNeutral
    decide
  | equals name v =>
    show Spaced " = ?".toList ∧ " = ?".toList.head?.any isNeutral
    decide
  | equalsNumeric name v =>
    show Spaced "::numeric = ?".toList ∧ "::numeric = ?".toList.head?.any isNeutral
    decide

theorem Atom.spaced_text {a : Atom α} (h : Identifier.isColumnName a.name) : Spaced a.text :=
  (spaced_of_isColumnName h).append_of_head a.spaced_tail.1 a.spaced_tail.2

namespace Reading

theorem spaced_whereText {conditions : List (Atom α)}
    (h : ∀ a ∈ conditions, Identifier.isColumnName a.name) : Spaced (whereText conditions) := by
  refine Spaced.intercalate (by decide) ?_
  rw [List.forall_mem_map]
  exact fun a ha => Atom.spaced_text (h a ha)

/-- Whatever the names are, the statement of a well-formed reading is spaced. -/
theorem spaced_text {r : Reading α} (h : r.WellFormed) : Spaced r.text := by
  cases r with
  | insert table columns values =>
    obtain ⟨named, columnsNamed, -, -⟩ := h
    have names : Spaced (List.intercalate ", ".toList (columns.map String.toList)) := by
      refine Spaced.intercalate (by decide) ?_
      rw [List.forall_mem_map]
      exact fun c hc => spaced_of_isColumnName (columnsNamed c hc)
    have marks : Spaced (List.intercalate ", ".toList (values.map fun _ => "?".toList)) := by
      refine Spaced.intercalate (by decide) ?_
      rw [List.forall_mem_map]
      exact fun _ _ => by decide
    have closed := marks.append_of_head (b := ")".toList) (by decide) (by decide)
    exact Spaced.append_of_last (by decide)
      ((spaced_of_isTableName named).separated (by decide) (names.separated (by decide) closed))
      (by decide)
  | update table assignments conditions =>
    obtain ⟨named, assigned, -, located, -⟩ := h
    have sets : Spaced (List.intercalate ", ".toList
        (assignments.map fun a => a.1.toList ++ " = ?".toList)) := by
      refine Spaced.intercalate (by decide) ?_
      rw [List.forall_mem_map]
      exact fun a ha => (spaced_of_isColumnName (assigned a ha)).append_of_head (by decide)
        (by decide)
    exact Spaced.append_of_last (by decide) ((spaced_of_isTableName named).separated (by decide)
      (sets.separated (by decide) (spaced_whereText located))) (by decide)
  | delete table conditions =>
    obtain ⟨named, located, -⟩ := h
    exact Spaced.append_of_last (by decide) ((spaced_of_isTableName named).separated (by decide)
      (spaced_whereText located)) (by decide)

/-- The numbers of the values stand among the lexemes of a statement in the place of its
placeholders; all other lexemes are those of the statement before. -/
theorem lexemes_numbered {r : Reading Value} (h : r.WellFormed)
    (count : placeholderCount r.statement.sql = r.values.length) :
    let query := lexemes (numbered r.statement.sql).toList
    query.filterMap digits? = (List.range' 1 r.values.length).map (Nat.toDigits 10) ∧
      query.map unnumbered = lexemes r.statement.sql.toList ∧ mark ∉ query := by
  intro query
  have spaced : Spaced r.statement.sql.toList := by
    rw [statement, String.toList_ofList]
    exact spaced_text h
  obtain ⟨same, free⟩ := spaced.lexemes_numberFrom 1
  have query_eq : query = numberMarks 1 (lexemes r.statement.sql.toList) := by
    rw [← same]
    show lexemes (numbered r.statement.sql).toList = _
    rw [numbered, String.toList_ofList]
  rw [query_eq, filterMap_digits?_numberMarks free, count_mark_lexemes, ← count]
  exact ⟨rfl, map_unnumbered_numberMarks free 1, mark_not_mem_numberMarks 1 _⟩

end Reading
end Changefeed
