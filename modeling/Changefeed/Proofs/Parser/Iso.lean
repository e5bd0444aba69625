import Changefeed.Parser.Iso
import Changefeed.Proofs.Calendar.Timestamp
import Changefeed.Proofs.Identifier

/-!
# What readers of ISO texts give

Whichever forms a reader takes, what it gives are dates of the calendar and times of a clock
(`IsoReader.Lawful`).  The reader that the program runs with is one of these (`Iso.reader_lawful`).
-/

open Changefeed.Parser (fault orFault)

namespace Changefeed

/-- A reader gives dates of the calendar and times of a clock only.  It may give times without an
offset. -/
structure IsoReader.Lawful (iso : IsoReader) : Prop where
  timestamp : ∀ v t, iso.timestamp v = .ok t → t.date.Gregorian ∧ t.time.OnClock
  time : ∀ v t, iso.time v = .ok t → t.OnClock

theorem Parser.orFault_eq_ok_iff {α : Type} {k : FaultKind} {x : Option α} {a : α} :
    orFault k x = .ok a ↔ x = some a := by
  cases x <;> simp [orFault, fault]

theorem TimeOfDay.onClock_of_ofParts? {hour minute second microsecond : Nat} {offset : Option Int}
    {t : TimeOfDay} (h : ofParts? hour minute second microsecond offset = some t)
    (bounded : ∀ o ∈ offset, o.natAbs < 24 * 60) : t.OnClock := by
  unfold ofParts? at h
  split_ifs at h with parts
  obtain rfl := Option.some.inj h
  exact ⟨parts.1, parts.2.1, parts.2.2.1, parts.2.2.2, bounded⟩

theorem Date.gregorian_of_ofParts? {year month day : Nat} {d : Date}
    (h : ofParts? year month day = some d) : d.Gregorian := by
  simp only [ofParts?] at h
  split_ifs at h with valid
  obtain rfl := Option.some.inj h
  exact (isValid_iff _).1 valid

namespace Iso

variable {s : List Char}

theorem offset?_lt {o : Int} (h : offset? s = some o) : o.natAbs < 24 * 60 := by
  have within {hours minutes : Nat} {rest : List Char} {sign : Char}
      (h : (if rest.isEmpty = true ∧ minutes ≤ 59 ∧ hours ≤ 23 then
        if sign = '+' then some ((hours * 60 + minutes : Nat) : Int)
        else if sign = '-' then some (-((hours * 60 + minutes : Nat) : Int)) else none
        else none) = some o) : o.natAbs < 24 * 60 := by
    split_ifs at h
    all_goals
      obtain rfl := Option.some.inj h
      omega
  unfold offset? at h
  split at h
  · obtain rfl := Option.some.inj h
    decide
  · obtain rfl := Option.some.inj h
    decide
  · simp only [Option.bind_eq_bind, Option.bind_eq_some_iff] at h
    obtain ⟨⟨hours, rest⟩, -, h⟩ := h
    split at h
    all_goals
      obtain ⟨⟨minutes, rest⟩, -, h⟩ := Option.bind_eq_some_iff.1 h
      exact within h
  · simp at h

theorem offset_of_finish? {t t' : Clock} (h : t.finish? s = some t') (unset : t.offset = none) :
    ∀ o ∈ t'.offset, o.natAbs < 24 * 60 := by
  unfold Clock.finish? at h
  split at h
  · obtain rfl := Option.some.inj h
    rw [unset]
    nofun
  · split_ifs at h
    obtain ⟨o, found, rfl⟩ := Option.map_eq_some_iff.1 h
    rintro _ ⟨⟩
    exact offset?_lt found

/-- The offset of a time is less than a day. -/
theorem offset_of_clock? {t : Clock} (h : clock? s = some t) :
    ∀ o ∈ t.offset, o.natAbs < 24 * 60 := by
  unfold clock? at h
  split_ifs at h
  simp only [Option.bind_eq_bind, Option.bind_eq_some_iff] at h
  -- a time may end behind each of its numbers
  obtain ⟨hour?, -, h⟩ := h
  split at h
  · exact offset_of_finish? h rfl
  · obtain ⟨minute?, -, h⟩ := Option.bind_eq_some_iff.1 h
    split at h
    · exact offset_of_finish? h rfl
    · obtain ⟨second?, -, h⟩ := Option.bind_eq_some_iff.1 h
      split at h
      · exact offset_of_finish? h rfl
      · exact offset_of_finish? h rfl

theorem onClock_of_time? {t : TimeOfDay} (h : time? s = some t) : t.OnClock := by
  obtain ⟨clock, read, h⟩ := Option.bind_eq_some_iff.1 h
  exact TimeOfDay.onClock_of_ofParts? h (offset_of_clock? read)

theorem assemble_eq_ok {year month day : Nat} {c : Clock} {t : Timestamp}
    (h : assemble year month day c = .ok t) (bounded : ∀ o ∈ c.offset, o.natAbs < 24 * 60) :
    t.date.Gregorian ∧ t.time.OnClock := by
  obtain ⟨date, valid, h⟩ := bind_eq_ok_iff.1 h
  obtain ⟨time, placed, h⟩ := bind_eq_ok_iff.1 h
  have onClock := TimeOfDay.onClock_of_ofParts? (Parser.orFault_eq_ok_iff.1 placed) bounded
  split_ifs at h
  · cases found : Date.ofDay? (date.toDay + 1) with
    | none => rw [found] at h; cases h
    | some next =>
      rw [found] at h
      obtain rfl := Except.ok.inj h
      exact ⟨Date.gregorian_of_ofDay? found, onClock⟩
  · obtain rfl := Except.ok.inj h
    exact ⟨Date.gregorian_of_ofParts? (Parser.orFault_eq_ok_iff.1 valid), onClock⟩

theorem lawful_of_timestamp {t : Timestamp} (h : timestamp s = .ok t) :
    t.date.Gregorian ∧ t.time.OnClock := by
  obtain ⟨⟨⟨year, month, day⟩, rest⟩, -, h⟩ := bind_eq_ok_iff.1 h
  obtain ⟨clock, read, h⟩ := bind_eq_ok_iff.1 h
  refine assemble_eq_ok h ?_
  cases rest with
  | nil =>
    obtain rfl := Except.ok.inj read
    nofun
  | cons mark rest => exact offset_of_clock? (Parser.orFault_eq_ok_iff.1 read)

/-- The reader that the program runs with gives dates of the calendar and times of a clock. -/
theorem reader_lawful : reader.Lawful where
  timestamp v t h := by
    obtain ⟨s, -, h⟩ := bind_eq_ok_iff.1 h
    exact lawful_of_timestamp h
  time v t h := by
    obtain ⟨s, -, h⟩ := bind_eq_ok_iff.1 h
    exact onClock_of_time? (Parser.orFault_eq_ok_iff.1 h)

end Iso
end Changefeed
