import Changefeed.Parser.Standard
import Changefeed.Proofs.Calendar.Timestamp

/-!
# Dates and times as parameters

Integers become dates, timestamps and times that a statement binds.  Days walk the calendar from
its first date to its last (`dates_walk`); timestamps in any unit agree with the date and the time
they are made of, and later integers give later values (`timestamps_agree`).  A time is what is
left of an integer behind whole days, so that only the integers of one day are kept as they are
(`times_wrap`).
-/

open Changefeed.Parser

namespace Changefeed

/-! ### Units of time -/

/-- The units in which times and timestamps are counted. -/
inductive TimeUnit where
  | milli
  | micro
  | nano
deriving DecidableEq

namespace TimeUnit

/-- The units of a day. -/
def perDay : TimeUnit → Int
  | .milli => 86400000
  | .micro => 86400000000
  | .nano => 86400000000000

/-- The whole microseconds of a number of units. -/
def microseconds : TimeUnit → Int → Int
  | .milli, n => n * 1000
  | .micro, n => n
  | .nano, n => n / 1000

/-- The parser of timestamps that are counted in a unit. -/
def timestamp : TimeUnit → Members → Value → Except Fault Value
  | .milli => runTimestamp
  | .micro => runMicroTimestamp
  | .nano => runNanoTimestamp

/-- The parser of times that are counted in a unit. -/
def time : TimeUnit → Members → Value → Except Fault Value
  | .milli => runTime
  | .micro => runMicroTime
  | .nano => runNanoTime

/-- The time of day at `n` units after the start of a day. -/
def clock (u : TimeUnit) (n : Int) : TimeOfDay :=
  .ofMicroseconds (u.microseconds (n % u.perDay)).toNat

theorem perDay_pos (u : TimeUnit) : 0 < u.perDay := by
  cases u <;> decide

theorem microseconds_ediv (u : TimeUnit) (n : Int) :
    u.microseconds n / Timestamp.dayMicroseconds = n / u.perDay := by
  cases u
  all_goals
    simp only [microseconds, perDay, Timestamp.dayMicroseconds]
    omega

theorem microseconds_emod (u : TimeUnit) (n : Int) :
    u.microseconds n % Timestamp.dayMicroseconds = u.microseconds (n % u.perDay) := by
  cases u
  all_goals
    simp only [microseconds, perDay, Timestamp.dayMicroseconds]
    omega

/-- The microseconds of a day hold what a number of units leaves behind whole days. -/
theorem microseconds_emod_bounds (u : TimeUnit) (n : Int) :
    0 ≤ u.microseconds (n % u.perDay) ∧
      u.microseconds (n % u.perDay) < Timestamp.dayMicroseconds := by
  rw [← microseconds_emod]
  exact ⟨Int.emod_nonneg _ (by decide), Int.emod_lt_of_pos _ (by decide)⟩

/-- Only within a day nothing is left out with the whole days. -/
theorem microseconds_emod_eq_iff (u : TimeUnit) (n : Int) :
    u.microseconds (n % u.perDay) = u.microseconds n ↔ 0 ≤ n ∧ n < u.perDay := by
  cases u
  all_goals
    simp only [microseconds, perDay]
    omega

/-- In the units that are no part of a microsecond, the same is left of numbers that are whole days
apart only. -/
theorem microseconds_emod_eq_emod_iff (u : TimeUnit) (coarse : u ≠ .nano) (m n : Int) :
    u.microseconds (m % u.perDay) = u.microseconds (n % u.perDay) ↔ u.perDay ∣ m - n := by
  cases u
  case nano => exact absurd rfl coarse
  all_goals
    simp only [microseconds, perDay]
    omega

theorem microseconds_lt (u : TimeUnit) (coarse : u ≠ .nano) {m n : Int} (h : m < n) :
    u.microseconds m < u.microseconds n := by
  cases u
  case nano => exact absurd rfl coarse
  all_goals
    simp only [microseconds]
    omega

theorem clock_onClock (u : TimeUnit) (n : Int) : (u.clock n).OnClock := by
  have := u.microseconds_emod_bounds n
  apply TimeOfDay.onClock_ofMicroseconds
  omega

theorem toMicroseconds_clock (u : TimeUnit) (n : Int) :
    ((u.clock n).toMicroseconds : Int) = u.microseconds (n % u.perDay) := by
  have := u.microseconds_emod_bounds n
  rw [clock, TimeOfDay.toMicroseconds_of]
  omega

theorem clock_eq_iff (u : TimeUnit) (m n : Int) :
    u.clock m = u.clock n ↔ u.microseconds (m % u.perDay) = u.microseconds (n % u.perDay) := by
  constructor
  · intro h
    rw [← toMicroseconds_clock, h, toMicroseconds_clock]
  · intro h
    rw [clock, h, clock]

theorem clock_emod (u : TimeUnit) (n : Int) : u.clock (n % u.perDay) = u.clock n := by
  rw [clock, Int.emod_emod, clock]

theorem ofMicroseconds?_microseconds (u : TimeUnit) (n : Int) :
    Timestamp.ofMicroseconds? (u.microseconds n) =
      (Date.ofDay? (n / u.perDay)).map (⟨·, u.clock n⟩) := by
  rw [Timestamp.ofMicroseconds?, microseconds_ediv, microseconds_emod]
  rfl

end TimeUnit

/-! ### What becomes of an integer -/

section Option

variable {α : Type} {k : FaultKind} {f : α → Value} {o : Option α} {w : Value}

theorem orFault_map_eq_ok_iff :
    orFault k (o.map f) = .ok w ↔ ∃ a, o = some a ∧ w = f a := by
  cases o <;> simp [orFault, fault, eq_comm]

theorem orFault_map_eq_fault_iff : orFault k (o.map f) = fault k ↔ o = none := by
  cases o <;> simp [orFault, fault]

end Option

variable {ps : Members} {raw w : Value} {n : Int} {u : TimeUnit}

theorem integer_int (n : Int) : integer (.int n) = .ok n := rfl

theorem runDate_eq (h : integer raw = .ok n) :
    runDate ps raw = orFault .outOfRange ((Date.ofDay? n).map .date) := by
  rw [runDate, h]
  show (orFault .outOfRange (Date.ofDay? n)).map Value.date = _
  cases Date.ofDay? n <;> rfl

theorem runDate_eq_ok_iff (h : integer raw = .ok n) :
    runDate ps raw = .ok w ↔ ∃ d, Date.ofDay? n = some d ∧ w = .date d := by
  rw [runDate_eq h, orFault_map_eq_ok_iff]

namespace TimeUnit

theorem timestamp_eq_at (h : integer raw = .ok n) :
    u.timestamp ps raw = (timestampAt (u.microseconds n)).map .timestamp := by
  cases u
  all_goals
    simp only [timestamp, runTimestamp, runMicroTimestamp, runNanoTimestamp, h]
    rfl

theorem time_eq_at (h : integer raw = .ok n) :
    u.time ps raw = (timestampAt (u.microseconds n)).map fun t => .time t.time := by
  cases u
  all_goals
    simp only [time, runTime, runMicroTime, runNanoTime, h]
    rfl

/-- What is made of an instant is made of the date of its day and its time of the day. -/
theorem timestampAt_map (f : Timestamp → Value) :
    (timestampAt (u.microseconds n)).map f =
      orFault .outOfRange ((Date.ofDay? (n / u.perDay)).map fun d => f ⟨d, u.clock n⟩) := by
  rw [timestampAt, ofMicroseconds?_microseconds]
  cases Date.ofDay? (n / u.perDay) <;> rfl

theorem timestamp_eq (h : integer raw = .ok n) :
    u.timestamp ps raw =
      orFault .outOfRange ((Date.ofDay? (n / u.perDay)).map (.timestamp ⟨·, u.clock n⟩)) := by
  rw [timestamp_eq_at h, timestampAt_map]

theorem time_eq (h : integer raw = .ok n) :
    u.time ps raw =
      orFault .outOfRange ((Date.ofDay? (n / u.perDay)).map fun _ => .time (u.clock n)) := by
  rw [time_eq_at h, timestampAt_map]

theorem timestamp_eq_ok_iff (h : integer raw = .ok n) :
    u.timestamp ps raw = .ok w ↔
      ∃ d, Date.ofDay? (n / u.perDay) = some d ∧ w = .timestamp ⟨d, u.clock n⟩ := by
  rw [timestamp_eq h, orFault_map_eq_ok_iff]

theorem time_eq_ok_iff (h : integer raw = .ok n) :
    u.time ps raw = .ok w ↔ (∃ d, Date.ofDay? (n / u.perDay) = some d) ∧ w = .time (u.clock n) := by
  rw [time_eq h, orFault_map_eq_ok_iff, exists_and_right]

/-- An instant has the same outcome in every unit. -/
theorem outcome_congr (u u' : TimeUnit) {n n' : Int} (ps : Members)
    (h : u.microseconds n = u'.microseconds n') :
    u.timestamp ps (.int n) = u'.timestamp ps (.int n') ∧
      u.time ps (.int n) = u'.time ps (.int n') := by
  rw [timestamp_eq_at rfl, timestamp_eq_at rfl, time_eq_at rfl, time_eq_at rfl, h]
  exact ⟨rfl, rfl⟩

/-- What an integer leaves behind whole days is taken as the time that it is. -/
theorem time_emod (u : TimeUnit) (ps : Members) (n : Int) :
    u.time ps (.int (n % u.perDay)) = .ok (.time (u.clock n)) := by
  have first_day : n % u.perDay / u.perDay = 0 :=
    Int.ediv_eq_zero_of_lt (Int.emod_nonneg _ u.perDay_pos.ne') (Int.emod_lt_of_pos _ u.perDay_pos)
  rw [time_eq_ok_iff (integer_int _), first_day, clock_emod]
  exact ⟨⟨⟨1970, 1, 1⟩, rfl⟩, rfl⟩

/-- A timestamp is taken just if the date of its day is. -/
theorem exists_timestamp_iff (u : TimeUnit) (ps : Members) (n : Int) :
    (∃ w, u.timestamp ps (.int n) = .ok w) ↔ ∃ w, runDate ps (.int (n / u.perDay)) = .ok w := by
  simp only [timestamp_eq_ok_iff (integer_int _), runDate_eq_ok_iff (integer_int _)]
  constructor
  · rintro ⟨_, d, day, -⟩
    exact ⟨_, d, day, rfl⟩
  · rintro ⟨_, d, day, -⟩
    exact ⟨_, d, day, rfl⟩

/-- A timestamp is made of the date of its day and the time of what is left of it. -/
theorem timestamp_parts (u : TimeUnit) (h : u.timestamp ps (.int n) = .ok w) :
    ∃ d t, w = .timestamp ⟨d, t⟩ ∧ runDate ps (.int (n / u.perDay)) = .ok (.date d) ∧
      u.time ps (.int (n % u.perDay)) = .ok (.time t) := by
  obtain ⟨d, day, rfl⟩ := (timestamp_eq_ok_iff (integer_int n)).1 h
  refine ⟨d, u.clock n, rfl, ?_, u.time_emod ps n⟩
  exact (runDate_eq_ok_iff (integer_int _)).2 ⟨d, day, rfl⟩

end TimeUnit

/-! ### Days -/

/-- Days are the dates of the calendar: day 0 is the first of 1970, a next day has the next date,
and the days that have a date are those from the first of the year 1 to the last of the year 9999,
in whatever value their number arrives. -/
theorem dates_walk (ps : Members) :
    runDate ps (.int 0) = .ok (.date ⟨1970, 1, 1⟩) ∧
    (∀ n d e, runDate ps (.int n) = .ok (.date d) → runDate ps (.int (n + 1)) = .ok (.date e) →
      e = d.next) ∧
    (∀ n w, runDate ps (.int n) = .ok w → ∃ d, w = .date d ∧ d.Gregorian) ∧
    (∀ n, (∃ w, runDate ps (.int n) = .ok w) ↔ -719162 ≤ n ∧ n ≤ 2932896) ∧
    (∀ n, runDate ps (.int n) = fault .outOfRange ↔ n < -719162 ∨ 2932896 < n) ∧
    runDate ps (.int (-719162)) = .ok (.date ⟨1, 1, 1⟩) ∧
    runDate ps (.int 2932896) = .ok (.date ⟨9999, 12, 31⟩) ∧
    ∀ raw n, integer raw = .ok n → runDate ps raw = runDate ps (.int n) := by
  refine ⟨rfl, ?_, ?_, fun n => ?_, fun n => ?_, rfl, rfl, fun raw n h => ?_⟩
  · intro n d e hd he
    obtain ⟨_, day, ⟨⟩⟩ := (runDate_eq_ok_iff (integer_int n)).1 hd
    obtain ⟨_, day', ⟨⟩⟩ := (runDate_eq_ok_iff (integer_int _)).1 he
    exact Date.ofDay?_succ day day'
  · intro n w h
    obtain ⟨d, day, rfl⟩ := (runDate_eq_ok_iff (integer_int n)).1 h
    exact ⟨d, rfl, Date.gregorian_of_ofDay? day⟩
  · refine Iff.trans ?_ Date.exists_ofDay?_iff
    simp only [runDate_eq_ok_iff (integer_int n)]
    exact ⟨fun ⟨_, d, day, _⟩ => ⟨d, day⟩, fun ⟨d, day⟩ => ⟨_, d, day, rfl⟩⟩
  · rw [runDate_eq (integer_int n), orFault_map_eq_fault_iff]
    exact Date.ofDay?_eq_none_iff
  · rw [runDate_eq h, runDate_eq (integer_int n)]

/-- The last day of February leads to March, but for the leap years; 1900 was none. -/
theorem dates_walk_february :
    runDate [] (.int (-25509)) = .ok (.date ⟨1900, 2, 28⟩) ∧
      runDate [] (.int (-25509 + 1)) = .ok (.date (Date.next ⟨1900, 2, 28⟩)) ∧
      Date.next ⟨1900, 2, 28⟩ = ⟨1900, 3, 1⟩ ∧ Date.next ⟨2000, 2, 28⟩ = ⟨2000, 2, 29⟩ := by
  have before : runDate [] (.int (-25509)) = .ok (.date ⟨1900, 2, 28⟩) := rfl
  obtain ⟨e, after⟩ : ∃ e, runDate [] (.int (-25509 + 1)) = .ok (.date e) := ⟨_, rfl⟩
  obtain ⟨-, walk, -⟩ := dates_walk []
  obtain rfl := walk _ _ _ before after
  exact ⟨before, after, by decide, by decide⟩

/-! ### Timestamps -/

/-- The parsers of dates, timestamps and times that are counted. -/
def temporal : List (Members → Value → Except Fault Value) :=
  [runDate, runTimestamp, runMicroTimestamp, runNanoTimestamp, runTime, runMicroTime, runNanoTime]

/-- A parser of integers that looks at nothing else. -/
theorem temporal_eq_int {run : Members → Value → Except Fault Value} (h : run ∈ temporal)
    (ps ps' : Members) (read : integer raw = .ok n) : run ps' raw = run ps (.int n) := by
  have timestamps (u : TimeUnit) : u.timestamp ps' raw = u.timestamp ps (.int n) := by
    rw [TimeUnit.timestamp_eq_at read, TimeUnit.timestamp_eq_at (integer_int n)]
  have times (u : TimeUnit) : u.time ps' raw = u.time ps (.int n) := by
    rw [TimeUnit.time_eq_at read, TimeUnit.time_eq_at (integer_int n)]
  simp only [temporal, List.mem_cons, List.not_mem_nil, or_false] at h
  rcases h with rfl | rfl | rfl | rfl | rfl | rfl | rfl
  · rw [runDate_eq read, runDate_eq (integer_int n)]
  · exact timestamps .milli
  · exact timestamps .micro
  · exact timestamps .nano
  · exact times .milli
  · exact times .micro
  · exact times .nano

/-- One date or timestamp lies before another. -/
inductive Value.Before : Value → Value → Prop where
  | date {d e : Date} : d.Before e → Before (.date d) (.date e)
  | timestamp {t u : Timestamp} : t.Before u → Before (.timestamp t) (.timestamp u)

theorem Value.Before.irrefl (v : Value) : ¬ v.Before v := by
  rintro (h | h)
  · exact Date.Before.irrefl _ h
  · exact Timestamp.Before.irrefl _ h

/-- A parser that has later values for greater integers, as far as it takes them. -/
def Increasing (run : Value → Except Fault Value) : Prop :=
  ∀ m n v w, m < n → run (.int m) = .ok v → run (.int n) = .ok w → v.Before w

theorem Increasing.injective {run : Value → Except Fault Value} (h : Increasing run) {m : Int}
    (hm : run (.int m) = .ok w) (hn : run (.int n) = .ok w) : m = n := by
  rcases lt_trichotomy m n with less | same | greater
  · exact absurd (h m n w w less hm hn) (Value.Before.irrefl w)
  · exact same
  · exact absurd (h n m w w greater hn hm) (Value.Before.irrefl w)

theorem increasing_runDate (ps : Members) : Increasing (runDate ps) := by
  intro m n v w less hm hn
  obtain ⟨d, day, rfl⟩ := (runDate_eq_ok_iff rfl).1 hm
  obtain ⟨e, day', rfl⟩ := (runDate_eq_ok_iff rfl).1 hn
  exact .date (Date.before_of_lt day day' less)

/-- Timestamps increase in the units that are no part of a microsecond. -/
theorem TimeUnit.increasing_timestamp (u : TimeUnit) (coarse : u ≠ .nano) (ps : Members) :
    Increasing (u.timestamp ps) := by
  intro m n v w less hm hn
  obtain ⟨d, day, rfl⟩ := (timestamp_eq_ok_iff rfl).1 hm
  obtain ⟨e, day', rfl⟩ := (timestamp_eq_ok_iff rfl).1 hn
  refine .timestamp (Timestamp.before_of_lt ?_ ?_ (u.microseconds_lt coarse less))
  · rw [ofMicroseconds?_microseconds, day, Option.map_some]
  · rw [ofMicroseconds?_microseconds, day', Option.map_some]

/-- A number of units has the same outcome in every unit, nanoseconds down to a microsecond; a
timestamp is taken just if the date of its day is, and it is made of that date and of the time of
what is left of it; and later integers have later dates and timestamps. -/
theorem timestamps_agree (ps : Members) :
    (∀ v, runTimestamp ps (.int v) = runMicroTimestamp ps (.int (1000 * v)) ∧
      runTime ps (.int v) = runMicroTime ps (.int (1000 * v))) ∧
    (∀ m r, 0 ≤ r → r < 1000 →
      runMicroTimestamp ps (.int m) = runNanoTimestamp ps (.int (1000 * m + r)) ∧
      runMicroTime ps (.int m) = runNanoTime ps (.int (1000 * m + r))) ∧
    (∀ v, (∃ w, runTimestamp ps (.int v) = .ok w) ↔
      ∃ w, runDate ps (.int (v / 86400000)) = .ok w) ∧
    (∀ v w, runTimestamp ps (.int v) = .ok w → ∃ d t, w = .timestamp ⟨d, t⟩ ∧
      runDate ps (.int (v / 86400000)) = .ok (.date d) ∧
      runTime ps (.int (v % 86400000)) = .ok (.time t)) ∧
    (∀ run ∈ [runDate ps, runTimestamp ps, runMicroTimestamp ps],
      Increasing run ∧ ∀ m n w, run (.int m) = .ok w → run (.int n) = .ok w → m = n) ∧
    ∀ run ∈ temporal, ∀ ps' raw n, integer raw = .ok n → run ps' raw = run ps (.int n) := by
  refine ⟨fun v => ?_, fun m r least most => ?_, fun v => ?_, fun v w h => ?_, ?_, ?_⟩
  · exact TimeUnit.outcome_congr .milli .micro ps (mul_comm v 1000)
  · refine TimeUnit.outcome_congr .micro .nano ps ?_
    simp only [TimeUnit.microseconds]
    omega
  · exact TimeUnit.milli.exists_timestamp_iff ps v
  · exact TimeUnit.milli.timestamp_parts h
  · intro run mem
    have increasing : Increasing run := by
      simp only [List.mem_cons, List.not_mem_nil, or_false] at mem
      rcases mem with rfl | rfl | rfl
      · exact increasing_runDate ps
      · exact TimeUnit.increasing_timestamp .milli nofun ps
      · exact TimeUnit.increasing_timestamp .micro nofun ps
    exact ⟨increasing, fun _ _ _ => increasing.injective⟩
  · exact fun run mem ps' raw n read => temporal_eq_int mem ps ps' read

/-- The last instants before 1970 have the same outcome in all units, and lie before its start; the
first instant behind the year 9999 is refused like its day. -/
theorem timestamps_agree_turns :
    runMicroTimestamp [] (.int (-1)) = runNanoTimestamp [] (.int (1000 * -1 + 999)) ∧
      (∃ d t, Value.timestamp ⟨⟨1969, 12, 31⟩, ⟨23, 59, 59, 999000, none⟩⟩ = .timestamp ⟨d, t⟩ ∧
        runDate [] (.int (-1 / 86400000)) = .ok (.date d) ∧
        runTime [] (.int (-1 % 86400000)) = .ok (.time t)) ∧
      (¬ ∃ w, runTimestamp [] (.int 253402300800000) = .ok w) ∧
      Value.Before (.timestamp ⟨⟨1969, 12, 31⟩, ⟨23, 59, 59, 999000, none⟩⟩)
        (.timestamp ⟨⟨1970, 1, 1⟩, ⟨0, 0, 0, 0, none⟩⟩) ∧
      runDate [] (.text "-1") = runDate [] (.int (-1)) := by
  obtain ⟨-, nano, day, parts, increasing, values⟩ := timestamps_agree []
  refine ⟨(nano (-1) 999 (by decide) (by decide)).1, parts (-1) _ rfl, ?_, ?_, ?_⟩
  · rw [day]
    rintro ⟨w, h⟩
    exact nomatch (show fault .outOfRange = Except.ok w from h)
  · exact (increasing (runTimestamp []) (by simp)).1 (-1) 0 _ _ (by decide) rfl rfl
  · exact values runDate (by simp [temporal]) [] _ (-1) (by decide +kernel)

/-! ### Times -/

/-- The time for a number of units is what is left of it behind whole days, unless these lie
outside the calendar.  So the number itself is kept, or refused, just if it is one of a single day
or lies outside the calendar, and numbers of milliseconds or microseconds are taken for the same
time just if they are whole days apart. -/
theorem times_wrap (u : TimeUnit) (ps : Members) (raw : Value) (n : Int)
    (h : integer raw = .ok n) :
    let days := n / u.perDay
    (u.time ps raw = fault .outOfRange ↔ days < Date.firstDay ∨ Date.lastDay < days) ∧
    (Date.firstDay ≤ days ∧ days ≤ Date.lastDay → ∃ t, u.time ps raw = .ok (.time t) ∧
      t.OnClock ∧ t.offset = none ∧ (t.toMicroseconds : Int) = u.microseconds (n % u.perDay)) ∧
    ((∀ w, u.time ps raw = .ok w →
        ∃ t, w = .time t ∧ (t.toMicroseconds : Int) = u.microseconds n) ↔
      0 ≤ n ∧ n < u.perDay ∨ days < Date.firstDay ∨ Date.lastDay < days) ∧
    ∀ raw' n' w w', u ≠ .nano → integer raw' = .ok n' →
      u.time ps raw = .ok w → u.time ps raw' = .ok w' → (w = w' ↔ u.perDay ∣ n - n') := by
  intro days
  have taken {w : Value} : u.time ps raw = .ok w ↔
      (Date.firstDay ≤ days ∧ days ≤ Date.lastDay) ∧ w = .time (u.clock n) := by
    rw [TimeUnit.time_eq_ok_iff h, Date.exists_ofDay?_iff]
  refine ⟨?_, fun inside => ?_, ?_, ?_⟩
  · rw [TimeUnit.time_eq h, orFault_map_eq_fault_iff, Date.ofDay?_eq_none_iff]
  · exact ⟨u.clock n, taken.2 ⟨inside, rfl⟩, u.clock_onClock n, rfl, u.toMicroseconds_clock n⟩
  · rw [← u.microseconds_emod_eq_iff, ← u.toMicroseconds_clock]
    constructor
    · intro kept
      -- Outside the calendar nothing is taken, and `kept` says nothing.
      by_cases inside : Date.firstDay ≤ days ∧ days ≤ Date.lastDay
      · obtain ⟨_, ⟨⟩, same⟩ := kept _ (taken.2 ⟨inside, rfl⟩)
        exact .inl same
      · exact .inr (by omega)
    · rintro (same | outside) w hw
      · exact ⟨u.clock n, (taken.1 hw).2, same⟩
      · have inside := (taken.1 hw).1
        omega
  · intro raw' n' w w' coarse h' hw hw'
    obtain ⟨-, rfl⟩ := taken.1 hw
    obtain ⟨-, rfl⟩ := (TimeUnit.time_eq_ok_iff h').1 hw'
    rw [Value.time.injEq, u.clock_eq_iff, u.microseconds_emod_eq_emod_iff coarse]

/-- The last second of a day is kept, and differs from the millisecond before it. -/
theorem times_wrap_evening :
    integer (.text "86399000") = .ok 86399000 ∧
      (∃ t, runTime [] (.text "86399000") = .ok (.time t) ∧ t.OnClock ∧
        (t.toMicroseconds : Int) = 86399000 * 1000) ∧
      runTime [] (.text "86399000") ≠ runTime [] (.int 86398999) := by
  have read : integer (.text "86399000") = .ok 86399000 := by decide +kernel
  obtain ⟨-, inside, -, differ⟩ := times_wrap .milli [] (.text "86399000") 86399000 read
  obtain ⟨t, taken, clock, -, value⟩ := inside (by decide)
  refine ⟨read, ⟨t, taken, clock, value⟩, fun same => ?_⟩
  have whole := (differ (.int 86398999) 86398999 _ _ nofun rfl taken (same.symm.trans taken)).1 rfl
  exact absurd whole (by decide)

/-- A millisecond before midnight is taken for the last one of a day, and 25 hours for one. -/
theorem times_wrap_midnight :
    runTime [] (.int (-1)) = .ok (.time ⟨23, 59, 59, 999000, none⟩) ∧
      runTime [] (.int 86399999) = .ok (.time ⟨23, 59, 59, 999000, none⟩) ∧
      runTime [] (.int 90000000) = .ok (.time ⟨1, 0, 0, 0, none⟩) ∧
      (TimeOfDay.toMicroseconds ⟨23, 59, 59, 999000, none⟩ : Int) ≠ -1 * 1000 ∧
      (TimeOfDay.toMicroseconds ⟨1, 0, 0, 0, none⟩ : Int) ≠ 90000000 * 1000 :=
  ⟨rfl, rfl, rfl, by decide, by decide⟩

end Changefeed
