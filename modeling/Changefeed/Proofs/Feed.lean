import Mathlib.Data.List.Forall2
import Changefeed.Feed
import Changefeed.Proofs.Text.Lines

/-!
# What a feed holds

The contents of a feed are its lines without the blanks around them, but for those that are blank.
A feed ends well just if each of them holds an object, and then these describe its records in order
(`Feed.ofLines_eq_iff`).  In any case the contents up to the first that is no object describe its
records, and that one is reported with the number of its line (`Feed.ofLines_split`).
-/

namespace Changefeed.Feed

/-- What stands on the lines that are not blank. -/
def contents (lines : List (List Char)) : List (List Char) :=
  (lines.map (Text.trim Text.isBlank)).filter fun line => !line.isEmpty

/-- A line holds an object, of which three members are the parts of a record; a member that it does
not have stands for null. -/
def Describes (line : List Char) (r : Record) : Prop :=
  ∃ ms, Json.read line = .ok (.object ms) ∧ r.value = Members.get ms "value" ∧
    r.key = Members.get ms "key" ∧ r.topic = Members.get ms "topic"

theorem ofMembers_eq_iff {ms : Members} {r : Record} : .ofMembers ms = r ↔
    r.value = Members.get ms "value" ∧ r.key = Members.get ms "key" ∧
      r.topic = Members.get ms "topic" := by
  constructor
  · rintro rfl
    exact ⟨rfl, rfl, rfl⟩
  · rcases r with ⟨value, key, topic⟩
    rintro ⟨rfl, rfl, rfl⟩
    rfl

theorem readLine_eq_ok_iff {number : Nat} {line : List Char} {r : Record} :
    readLine number line = .ok r ↔ Describes line r := by
  unfold readLine Describes
  rcases Json.read line with e | v
  · cases e <;> simp
  · cases v <;> simp [ofMembers_eq_iff]

theorem contents_cons_of_blank {line : List Char} (blank : Text.trim Text.isBlank line = [])
    (rest : List (List Char)) : contents (line :: rest) = contents rest := by
  simp [contents, blank]

theorem contents_cons {line : List Char} (filled : Text.trim Text.isBlank line ≠ [])
    (rest : List (List Char)) :
    contents (line :: rest) = Text.trim Text.isBlank line :: contents rest := by
  simp [contents, filled]

theorem ofLines_cons_of_blank {line : List Char} (blank : Text.trim Text.isBlank line = [])
    (number : Nat) (rest : List (List Char)) :
    ofLines number (line :: rest) = ofLines (number + 1) rest := by
  simp only [ofLines, blank, List.isEmpty_nil, if_true]

theorem ofLines_cons {line : List Char} (filled : Text.trim Text.isBlank line ≠ [])
    (number : Nat) (rest : List (List Char)) :
    ofLines number (line :: rest) =
      match readLine number (Text.trim Text.isBlank line) with
      | .error e => { ending := some e }
      | .ok r =>
        { ofLines (number + 1) rest with records := r :: (ofLines (number + 1) rest).records } := by
  exact if_neg (by rwa [List.isEmpty_iff])

/-- How a feed ends where lines are left from a number on: well if there are none, and else with the
failure to read the first of them, which is not blank. -/
inductive Ends (number : Nat) : List (List Char) → Option Failure → Prop where
  | complete : Ends number [] none
  | stopped (line : List Char) (rest : List (List Char)) (e : Failure) :
      Text.trim Text.isBlank line ≠ [] →
      readLine number (Text.trim Text.isBlank line) = .error e →
      Ends number (line :: rest) (some e)

/-- A feed holds a record for each line that is not blank, up to the first that describes none. -/
theorem ofLines_split (number : Nat) (lines : List (List Char)) :
    ∃ read unread, lines = read ++ unread ∧
      List.Forall₂ Describes (contents read) (ofLines number lines).records ∧
      Ends (number + read.length) unread (ofLines number lines).ending := by
  induction lines generalizing number with
  | nil => exact ⟨[], [], rfl, .nil, .complete⟩
  | cons line rest ih =>
    obtain ⟨read, unread, split, described, ends⟩ := ih (number + 1)
    have counted : number + 1 + read.length = number + (line :: read).length := by
      rw [List.length_cons]
      omega
    rw [counted] at ends
    by_cases blank : Text.trim Text.isBlank line = []
    · rw [ofLines_cons_of_blank blank]
      refine ⟨line :: read, unread, congrArg (line :: ·) split, ?_, ends⟩
      rwa [contents_cons_of_blank blank]
    · rw [ofLines_cons blank]
      cases reads : readLine number (Text.trim Text.isBlank line) with
      | error e => exact ⟨[], line :: rest, rfl, .nil, .stopped line rest e blank reads⟩
      | ok r =>
        refine ⟨line :: read, unread, congrArg (line :: ·) split, ?_, ends⟩
        rw [contents_cons blank]
        exact .cons (readLine_eq_ok_iff.1 reads) described

/-- Blank lines behind others hold nothing. -/
theorem ofLines_append_of_blank (number : Nat) (lines : List (List Char))
    {others : List (List Char)} (blank : ∀ line ∈ others, Text.trim Text.isBlank line = []) :
    ofLines number (lines ++ others) = ofLines number lines := by
  induction lines generalizing number with
  | nil =>
    induction others generalizing number with
    | nil => rfl
    | cons line others ih =>
      have first := blank line List.mem_cons_self
      rw [List.nil_append] at ih ⊢
      rw [ofLines_cons_of_blank first]
      exact ih (fun line h => blank line (List.mem_cons_of_mem _ h)) (number + 1)
  | cons line lines ih =>
    rw [List.cons_append, ofLines, ofLines, ih]

/-- A text that is put together of lines is the feed of these. -/
theorem ofText_joined (e : Text.LineEnd) (closed : Bool) {lines : List (List Char)}
    (whole : ∀ line ∈ lines, Text.IsLine line) :
    ofText (String.ofList (Text.joined e closed lines)) = ofLines 1 lines := by
  rw [ofText, String.toList_ofList]
  cases lines with
  | nil => cases closed <;> cases e <;> rfl
  | cons line lines =>
    rw [Text.lines_joined e closed whole (List.cons_ne_nil _ _)]
    refine ofLines_append_of_blank 1 _ ?_
    cases closed <;> simp

/-! ### Why a line describes no record -/

/-- What is wrong with a line that describes no record. -/
inductive Spoils (number : Nat) (line : List Char) : Reason → Prop where
  | malformed : Json.read line = .error .malformed → Spoils number line (.invalidJson number)
  | notObject (v : Value) : Json.read line = .ok v → (∀ ms, v ≠ .object ms) →
      Spoils number line (.notObject number)

/-- A line that describes no record is reported for what is wrong with it, unless it has a number of
too many digits. -/
theorem readLine_eq_error {number : Nat} {line : List Char} {e : Failure}
    (h : readLine number line = .error e) (short : Json.read line ≠ .error .tooManyDigits) :
    ∃ reason, e = .ofReason reason ∧ Spoils number line reason := by
  unfold readLine at h
  cases read : Json.read line with
  | ok v =>
    rw [read] at h
    cases v with
    | object ms => cases h
    | _ =>
      cases h
      exact ⟨_, rfl, .notObject _ read nofun⟩
  | error f =>
    rw [read] at h
    cases f with
    | malformed =>
      cases h
      exact ⟨_, rfl, .malformed read⟩
    | tooManyDigits => exact absurd read short

variable {number : Nat} {line : List Char} {reason : Reason}

theorem Spoils.not_describes (h : Spoils number line reason) (r : Record) :
    ¬ Describes line r := by
  rintro ⟨ms, read, -⟩
  rcases h with malformed | ⟨v, other, foreign⟩
  · cases malformed.symm.trans read
  · exact foreign ms (Except.ok.inj (other.symm.trans read))

theorem Spoils.kind_eq (h : Spoils number line reason) : reason.kind = .malformedEvent := by
  cases h <;> rfl

/-- The report of a line gives its number. -/
theorem Spoils.message_eq (h : Spoils number line reason) :
    ∃ why, (EventError.mk reason {}).message = "Line " ++ toString number ++ (": " ++ why) := by
  cases h with
  | malformed => exact ⟨"invalid JSON: <JSONDecodeError>", rfl⟩
  | notObject v => exact ⟨"expected a JSON object", rfl⟩

end Changefeed.Feed
