import Changefeed.Text.Lines

/-!
# Lines put together

Lines with ends between them make a text, and the lines of that text are the lines that it was made
of, whichever end is used (`Text.lines_joined`).  An end behind the last line makes one more line,
which is empty.
-/

namespace Changefeed.Text

/-- What ends the lines of a text. -/
inductive LineEnd where
  | lineFeed
  | carriageReturn
  | both
deriving DecidableEq, Repr

/-- The characters that end a line. -/
def LineEnd.text : LineEnd → List Char
  | .lineFeed => ['\n']
  | .carriageReturn => ['\r']
  | .both => ['\r', '\n']

/-- A text without the characters that end lines. -/
def IsLine (s : List Char) : Prop :=
  '\n' ∉ s ∧ '\r' ∉ s

/-- Lines with an end behind each of them but the last, and behind that one if it is closed. -/
def joined (e : LineEnd) (closed : Bool) (ls : List (List Char)) : List Char :=
  List.intercalate e.text ls ++ if closed then e.text else []

/-! ### Ends of lines -/

theorem unified_cons {c : Char} (h : c ≠ '\r') (s : List Char) :
    unified (c :: s) = c :: unified s := by
  rw [unified.eq_3 c s fun _ hc => absurd hc h, if_neg h]

theorem unified_append {l : List Char} (h : '\r' ∉ l) (x : List Char) :
    unified (l ++ x) = l ++ unified x := by
  induction l with
  | nil => rfl
  | cons c l ih =>
    obtain ⟨hc, hl⟩ := List.ne_and_not_mem_of_not_mem_cons h
    rw [List.cons_append, unified_cons (Ne.symm hc), ih hl, List.cons_append]

/-- Every end becomes a line feed, unless a carriage return meets a line feed of what follows. -/
theorem unified_end (e : LineEnd) {x : List Char} (apart : e = .carriageReturn → '\n' ∉ x) :
    unified (e.text ++ x) = '\n' :: unified x := by
  cases e with
  | lineFeed => exact unified_cons (by decide) x
  | both => rfl
  | carriageReturn =>
    cases x with
    | nil => rfl
    | cons c x =>
      have hc : c ≠ '\n' := fun same => apart rfl (same ▸ List.mem_cons_self)
      show unified ('\r' :: c :: x) = _
      rw [unified.eq_3 _ _ fun _ _ same => hc (List.cons.inj same).1, if_pos rfl]

theorem split_of_not_mem {mark : Char} {l : List Char} (h : mark ∉ l) : split mark l = [l] := by
  induction l with
  | nil => rfl
  | cons c l ih =>
    obtain ⟨hc, hl⟩ := List.ne_and_not_mem_of_not_mem_cons h
    rw [split, if_neg (Ne.symm hc), ih hl]

theorem split_append {mark : Char} {l : List Char} (h : mark ∉ l) (x : List Char) :
    split mark (l ++ mark :: x) = l :: split mark x := by
  induction l with
  | nil => exact if_pos rfl
  | cons c l ih =>
    obtain ⟨hc, hl⟩ := List.ne_and_not_mem_of_not_mem_cons h
    rw [List.cons_append, split, if_neg (Ne.symm hc), ih hl]

/-! ### Lines of texts -/

theorem lines_of_isLine {l : List Char} (h : IsLine l) : lines l = [l] := by
  have same : unified l = l := by
    rw [← List.append_nil l, unified_append h.2]
    rfl
  rw [lines, same, split_of_not_mem h.1]

theorem lines_append {l : List Char} (h : IsLine l) (e : LineEnd) {x : List Char}
    (apart : e = .carriageReturn → '\n' ∉ x) : lines (l ++ (e.text ++ x)) = l :: lines x := by
  rw [lines, unified_append h.2, unified_end e apart, split_append h.1, lines]

theorem joined_singleton (e : LineEnd) (closed : Bool) (l : List Char) :
    joined e closed [l] = l ++ if closed then e.text else [] := by
  rw [joined, List.intercalate_singleton]

theorem joined_cons_cons (e : LineEnd) (closed : Bool) (l l' : List Char)
    (ls : List (List Char)) :
    joined e closed (l :: l' :: ls) = l ++ (e.text ++ joined e closed (l' :: ls)) := by
  rw [joined, List.intercalate_cons_cons, joined]
  simp only [List.append_assoc]

/-- Lines with carriage returns as their ends make a text without a line feed. -/
theorem lineFeed_not_mem_joined {ls : List (List Char)} (whole : ∀ l ∈ ls, IsLine l)
    (closed : Bool) : '\n' ∉ joined .carriageReturn closed ls := by
  have none : '\n' ∉ LineEnd.carriageReturn.text := by decide
  have last : '\n' ∉ if closed then LineEnd.carriageReturn.text else [] := by
    cases closed
    · exact List.not_mem_nil
    · exact none
  induction ls with
  | nil => exact last
  | cons l ls ih =>
    have first := (whole l List.mem_cons_self).1
    cases ls with
    | nil =>
      rw [joined_singleton]
      exact List.not_mem_append first last
    | cons l' ls =>
      rw [joined_cons_cons]
      exact List.not_mem_append first (List.not_mem_append none
        (ih fun l hl => whole l (List.mem_cons_of_mem _ hl)))

/-- The lines of a text are those that it was put together of; an end behind the last of them opens
an empty line. -/
theorem lines_joined (e : LineEnd) (closed : Bool) {ls : List (List Char)}
    (whole : ∀ l ∈ ls, IsLine l) (filled : ls ≠ []) :
    lines (joined e closed ls) = ls ++ if closed then [[]] else [] := by
  induction ls with
  | nil => exact absurd rfl filled
  | cons l ls ih =>
    have first := whole l List.mem_cons_self
    have later : ∀ l ∈ ls, IsLine l := fun l hl => whole l (List.mem_cons_of_mem _ hl)
    cases ls with
    | nil =>
      rw [joined_singleton]
      cases closed
      · exact (congrArg lines (List.append_nil l)).trans (lines_of_isLine first)
      · have behind := lines_append first e (fun _ => List.not_mem_nil)
        rwa [List.append_nil] at behind
    | cons l' ls =>
      have apart : e = .carriageReturn → '\n' ∉ joined e closed (l' :: ls) := by
        rintro rfl
        exact lineFeed_not_mem_joined later closed
      rw [joined_cons_cons, lines_append first e apart, ih later (List.cons_ne_nil _ _)]
      rfl

end Changefeed.Text
