import Changefeed.Calendar.Timestamp
import Changefeed.Proofs.Calendar.Date

/-!
# Times and timestamps in order

`TimeOfDay.ofMicroseconds` counts the microseconds of a day (`TimeOfDay.toMicroseconds_of`), and a
timestamp splits an instant into its day and its time of the day
(`Timestamp.ofMicroseconds?_eq_some_iff`), so that a later instant has a later timestamp
(`Timestamp.before_of_lt`).
-/

namespace Changefeed

namespace TimeOfDay

/-- The times of a clock; an offset from universal time is less than a day. -/
structure OnClock (t : TimeOfDay) : Prop where
  hour : t.hour < 24
  minute : t.minute < 60
  second : t.second < 60
  microsecond : t.microsecond < 1000000
  offset : ∀ o ∈ t.offset, o.natAbs < 24 * 60

/-- One time of day comes before another, by the hour, the minute, the second, the microsecond. -/
def Before (t u : TimeOfDay) : Prop :=
  t.hour < u.hour ∨ t.hour = u.hour ∧ (t.minute < u.minute ∨ t.minute = u.minute ∧
    (t.second < u.second ∨ t.second = u.second ∧ t.microsecond < u.microsecond))

theorem Before.irrefl (t : TimeOfDay) : ¬ t.Before t := by
  unfold Before
  omega

theorem toMicroseconds_of (n : Nat) : (ofMicroseconds n).toMicroseconds = n := by
  simp only [toMicroseconds, ofMicroseconds]
  omega

theorem onClock_ofMicroseconds {n : Nat} (h : n < Timestamp.dayMicroseconds) :
    (ofMicroseconds n).OnClock where
  hour := Nat.div_lt_of_lt_mul h
  minute := Nat.mod_lt _ (by decide)
  second := Nat.mod_lt _ (by decide)
  microsecond := Nat.mod_lt _ (by decide)
  offset := nofun

theorem before_of_toMicroseconds_lt {t u : TimeOfDay} (ht : t.OnClock) (hu : u.OnClock)
    (h : t.toMicroseconds < u.toMicroseconds) : t.Before u := by
  obtain ⟨-, minute, second, microsecond, -⟩ := ht
  obtain ⟨-, minute', second', microsecond', -⟩ := hu
  unfold toMicroseconds at h
  unfold Before
  omega

end TimeOfDay

namespace Timestamp

/-- One timestamp lies before another, by the date, then the time. -/
def Before (t u : Timestamp) : Prop :=
  t.date.Before u.date ∨ t.date = u.date ∧ t.time.Before u.time

theorem Before.irrefl (t : Timestamp) : ¬ t.Before t := by
  rintro (h | ⟨-, h⟩)
  · exact Date.Before.irrefl _ h
  · exact TimeOfDay.Before.irrefl _ h

variable {n : Int} {t u : Timestamp}

/-- The time of day of an instant, as one of the microseconds of a day. -/
theorem toNat_emod_lt (n : Int) : (n % dayMicroseconds).toNat < dayMicroseconds := by
  unfold dayMicroseconds
  omega

theorem ofMicroseconds?_eq_some_iff :
    ofMicroseconds? n = some t ↔ Date.ofDay? (n / dayMicroseconds) = some t.date ∧
      t.time = TimeOfDay.ofMicroseconds (n % dayMicroseconds).toNat := by
  obtain ⟨date, time⟩ := t
  simp only [ofMicroseconds?, Option.map_eq_some_iff, Timestamp.mk.injEq]
  constructor
  · rintro ⟨_, day, rfl, rfl⟩
    exact ⟨day, rfl⟩
  · rintro ⟨day, rfl⟩
    exact ⟨date, day, rfl, rfl⟩

/-- A later instant has a later timestamp. -/
theorem before_of_lt {m : Int} (hm : ofMicroseconds? m = some t) (hn : ofMicroseconds? n = some u)
    (h : m < n) : t.Before u := by
  obtain ⟨day, clock⟩ := ofMicroseconds?_eq_some_iff.1 hm
  obtain ⟨day', clock'⟩ := ofMicroseconds?_eq_some_iff.1 hn
  have days : m / dayMicroseconds ≤ n / dayMicroseconds :=
    Int.ediv_le_ediv (by decide) h.le
  rcases Int.lt_or_eq_of_le days with earlier | same
  · exact .inl (Date.before_of_lt day day' earlier)
  · rw [same, day', Option.some.injEq] at day
    refine .inr ⟨day.symm, ?_⟩
    rw [clock, clock']
    apply TimeOfDay.before_of_toMicroseconds_lt
    · exact TimeOfDay.onClock_ofMicroseconds (toNat_emod_lt m)
    · exact TimeOfDay.onClock_ofMicroseconds (toNat_emod_lt n)
    · rw [TimeOfDay.toMicroseconds_of, TimeOfDay.toMicroseconds_of]
      unfold dayMicroseconds at *
      omega

end Timestamp
end Changefeed
