import Changefeed.Proofs.Parser.Iso
import Changefeed.Proofs.Parser.Decimal
import Changefeed.Proofs.Parser.Temporal

/-!
# Kinds of parameters

Each logical type stands for values of one kind (`logicalTypes`), and what its parser gives is of
that kind (`coerce_kind`), with one exception: where the reader of ISO texts gives a time or a
timestamp without an offset, a zoned type has one too.  The reader is a parameter here, of which
nothing is known but that it gives dates of the calendar and times of a clock.
-/

open Changefeed.Parser

namespace Changefeed

/-! ### Kinds of values -/

/-- The kinds of values that logical types stand for. -/
inductive Kind where
  | decimal
  | date
  | timestamp
  | zonedTimestamp
  | time
  | zonedTime
deriving DecidableEq

/-- The logical types, each with the kind of its values. -/
def logicalTypes : List (String × Kind) := [
  ("io.debezium.data.VariableScaleDecimal", .decimal),
  ("org.apache.kafka.connect.data.Decimal", .decimal),
  ("io.debezium.time.Date", .date),
  ("org.apache.kafka.connect.data.Date", .date),
  ("io.debezium.time.Timestamp", .timestamp),
  ("org.apache.kafka.connect.data.Timestamp", .timestamp),
  ("io.debezium.time.MicroTimestamp", .timestamp),
  ("io.debezium.time.NanoTimestamp", .timestamp),
  ("io.debezium.time.ZonedTimestamp", .zonedTimestamp),
  ("io.debezium.time.Time", .time),
  ("org.apache.kafka.connect.data.Time", .time),
  ("io.debezium.time.MicroTime", .time),
  ("io.debezium.time.NanoTime", .time),
  ("io.debezium.time.ZonedTime", .zonedTime)]

/-- The values of a kind: decimals, dates of the calendar, and times of a clock that have an offset
just if they are zoned. -/
inductive Value.IsOf : Value → Kind → Prop where
  | decimal (d : Decimal) : IsOf (.decimal d) .decimal
  | date {d : Date} : d.Gregorian → IsOf (.date d) .date
  | timestamp {t : Timestamp} : t.date.Gregorian → t.time.OnClock → t.time.offset = none →
      IsOf (.timestamp t) .timestamp
  | zonedTimestamp {t : Timestamp} : t.date.Gregorian → t.time.OnClock → t.time.offset.isSome →
      IsOf (.timestamp t) .zonedTimestamp
  | time {t : TimeOfDay} : t.OnClock → t.offset = none → IsOf (.time t) .time
  | zonedTime {t : TimeOfDay} : t.OnClock → t.offset.isSome → IsOf (.time t) .zonedTime

/-- The kind of what a raw value is read as: a time is zoned unless the reader gives one without an
offset. -/
def Kind.read (iso : IsoReader) (k : Kind) (raw : Value) : Kind :=
  match k with
  | .zonedTimestamp =>
    match iso.timestamp raw with
    | .ok t => if t.time.offset.isSome then .zonedTimestamp else .timestamp
    | .error _ => .zonedTimestamp
  | .zonedTime =>
    match iso.time raw with
    | .ok t => if t.offset.isSome then .zonedTime else .time
    | .error _ => .zonedTime
  | _ => k

variable {iso : IsoReader} {ps : Members} {raw w : Value}

theorem Value.IsOf.unique {k k' : Kind} (h : w.IsOf k) (h' : w.IsOf k') : k = k' := by
  cases h <;> cases h' <;> first | rfl | simp_all

theorem Value.IsOf.ne_null {k : Kind} (h : w.IsOf k) : w ≠ .null := by
  cases h <;> nofun

/-! ### What the parsers give -/

theorem isOf_plainDecimal (h : plainDecimal raw = .ok w) : w.IsOf .decimal := by
  obtain ⟨d, -, rfl⟩ := map_eq_ok_iff.1 h
  exact .decimal d

theorem isOf_scaledDecimal {scale : Int} (h : scaledDecimal raw scale = .ok w) :
    w.IsOf .decimal := by
  obtain ⟨n, -, h⟩ := bind_eq_ok_iff.1 h
  split at h
  · obtain rfl := Except.ok.inj h
    exact .decimal _
  · cases h
  · cases h

theorem isOf_runVariableScaleDecimal (ps : Members)
    (h : runVariableScaleDecimal ps raw = .ok w) : w.IsOf .decimal := by
  unfold runVariableScaleDecimal at h
  split at h
  · obtain ⟨v, -, h⟩ := bind_eq_ok_iff.1 h
    obtain ⟨s, -, h⟩ := bind_eq_ok_iff.1 h
    obtain ⟨scale, -, h⟩ := bind_eq_ok_iff.1 h
    exact isOf_scaledDecimal h
  · exact isOf_plainDecimal h

theorem isOf_runFixedScaleDecimal (ps : Members) (h : runFixedScaleDecimal ps raw = .ok w) :
    w.IsOf .decimal := by
  unfold runFixedScaleDecimal at h
  split at h
  · obtain ⟨scale, -, h⟩ := bind_eq_ok_iff.1 h
    exact isOf_scaledDecimal h
  · obtain ⟨scale, -, h⟩ := bind_eq_ok_iff.1 h
    exact isOf_scaledDecimal h
  · exact isOf_plainDecimal h

theorem integer_of_run {run : Members → Value → Except Fault Value} (counted : run ∈ temporal)
    (h : run ps raw = .ok w) : ∃ n, integer raw = .ok n := by
  simp only [temporal, List.mem_cons, List.not_mem_nil, or_false] at counted
  rcases counted with rfl | rfl | rfl | rfl | rfl | rfl | rfl
  all_goals
    obtain ⟨n, read, -⟩ := bind_eq_ok_iff.1 h
    exact ⟨n, read⟩

theorem isOf_runDate (ps : Members) (h : runDate ps raw = .ok w) : w.IsOf .date := by
  obtain ⟨n, read⟩ := integer_of_run (by simp [temporal]) h
  obtain ⟨d, day, rfl⟩ := (runDate_eq_ok_iff read).1 h
  exact .date (Date.gregorian_of_ofDay? day)

theorem TimeUnit.isOf_timestamp (u : TimeUnit) (ps : Members) (h : u.timestamp ps raw = .ok w) :
    w.IsOf .timestamp := by
  have counted : u.timestamp ∈ temporal := by cases u <;> simp [TimeUnit.timestamp, temporal]
  obtain ⟨n, read⟩ := integer_of_run counted h
  obtain ⟨d, day, rfl⟩ := (timestamp_eq_ok_iff read).1 h
  exact .timestamp (Date.gregorian_of_ofDay? day) (u.clock_onClock n) rfl

theorem TimeUnit.isOf_time (u : TimeUnit) (ps : Members) (h : u.time ps raw = .ok w) :
    w.IsOf .time := by
  have counted : u.time ∈ temporal := by cases u <;> simp [TimeUnit.time, temporal]
  obtain ⟨n, read⟩ := integer_of_run counted h
  obtain ⟨-, rfl⟩ := (time_eq_ok_iff read).1 h
  exact .time (u.clock_onClock n) rfl

theorem isOf_runZonedTimestamp (lawful : iso.Lawful) (ps : Members)
    (h : runZonedTimestamp iso ps raw = .ok w) : w.IsOf (Kind.zonedTimestamp.read iso raw) := by
  obtain ⟨t, read, rfl⟩ := map_eq_ok_iff.1 h
  obtain ⟨gregorian, onClock⟩ := lawful.timestamp raw t read
  simp only [Kind.read, read]
  split_ifs with zoned
  · exact .zonedTimestamp gregorian onClock zoned
  · exact .timestamp gregorian onClock (by simpa using zoned)

theorem isOf_runZonedTime (lawful : iso.Lawful) (ps : Members)
    (h : runZonedTime iso ps raw = .ok w) : w.IsOf (Kind.zonedTime.read iso raw) := by
  obtain ⟨t, read, rfl⟩ := map_eq_ok_iff.1 h
  have onClock := lawful.time raw t read
  simp only [Kind.read, read]
  split_ifs with zoned
  · exact .zonedTime onClock zoned
  · exact .time onClock (by simpa using zoned)

/-- The kind of a logical type stands where its parser fails. -/
theorem read_of_runZonedTimestamp_error (ps : Members) {cause : Fault}
    (h : runZonedTimestamp iso ps raw = .error cause) :
    Kind.zonedTimestamp.read iso raw = .zonedTimestamp := by
  simp only [Kind.read, map_eq_error_iff.1 h]

theorem read_of_runZonedTime_error (ps : Members) {cause : Fault}
    (h : runZonedTime iso ps raw = .error cause) :
    Kind.zonedTime.read iso raw = .zonedTime := by
  simp only [Kind.read, map_eq_error_iff.1 h]

/-- Each logical type has a parser.  What it gives is of the kind that it reads, which is the kind
of the type where it gives nothing. -/
theorem exists_parser_of_mem (lawful : iso.Lawful) {meaning : String} {kind : Kind}
    (listed : (meaning, kind) ∈ logicalTypes) :
    ∃ p, (ParserTable.standard iso).find? meaning = some p ∧
      (∀ ps raw w, p.run ps raw = .ok w → w.IsOf (kind.read iso raw)) ∧
      ∀ ps raw cause, p.run ps raw = .error cause → kind.read iso raw = kind := by
  simp only [logicalTypes, List.mem_cons, Prod.mk.injEq, List.not_mem_nil, or_false] at listed
  rcases listed with ⟨rfl, rfl⟩ | ⟨rfl, rfl⟩ | ⟨rfl, rfl⟩ | ⟨rfl, rfl⟩ | ⟨rfl, rfl⟩ | ⟨rfl, rfl⟩ |
    ⟨rfl, rfl⟩ | ⟨rfl, rfl⟩ | ⟨rfl, rfl⟩ | ⟨rfl, rfl⟩ | ⟨rfl, rfl⟩ | ⟨rfl, rfl⟩ | ⟨rfl, rfl⟩ |
    ⟨rfl, rfl⟩
  -- One case for each type, in the order of the table; only the zoned ones ask the reader.
  · exact ⟨_, rfl, fun ps _ _ => isOf_runVariableScaleDecimal ps, fun _ _ _ _ => rfl⟩
  · exact ⟨_, rfl, fun ps _ _ => isOf_runFixedScaleDecimal ps, fun _ _ _ _ => rfl⟩
  · exact ⟨_, rfl, fun ps _ _ => isOf_runDate ps, fun _ _ _ _ => rfl⟩
  · exact ⟨_, rfl, fun ps _ _ => isOf_runDate ps, fun _ _ _ _ => rfl⟩
  · exact ⟨_, rfl, fun ps _ _ => TimeUnit.milli.isOf_timestamp ps, fun _ _ _ _ => rfl⟩
  · exact ⟨_, rfl, fun ps _ _ => TimeUnit.milli.isOf_timestamp ps, fun _ _ _ _ => rfl⟩
  · exact ⟨_, rfl, fun ps _ _ => TimeUnit.micro.isOf_timestamp ps, fun _ _ _ _ => rfl⟩
  · exact ⟨_, rfl, fun ps _ _ => TimeUnit.nano.isOf_timestamp ps, fun _ _ _ _ => rfl⟩
  · exact ⟨_, rfl, fun ps _ _ => isOf_runZonedTimestamp lawful ps,
      fun ps _ _ => read_of_runZonedTimestamp_error ps⟩
  · exact ⟨_, rfl, fun ps _ _ => TimeUnit.milli.isOf_time ps, fun _ _ _ _ => rfl⟩
  · exact ⟨_, rfl, fun ps _ _ => TimeUnit.milli.isOf_time ps, fun _ _ _ _ => rfl⟩
  · exact ⟨_, rfl, fun ps _ _ => TimeUnit.micro.isOf_time ps, fun _ _ _ _ => rfl⟩
  · exact ⟨_, rfl, fun ps _ _ => TimeUnit.nano.isOf_time ps, fun _ _ _ _ => rfl⟩
  · exact ⟨_, rfl, fun ps _ _ => isOf_runZonedTime lawful ps,
      fun ps _ _ => read_of_runZonedTime_error ps⟩

/-! ### Parameters -/

/-- For a logical type null stays null, and any other raw value is refused or bound as a value of
the kind of the type, except that a zoned type takes what the reader gives without an offset: so the
kind is kept, or the value is refused, just if the reader gives no such time for a zoned type. -/
theorem coerce_kind (iso : IsoReader) (lawful : iso.Lawful) (c : Column) (meaning : String)
    (kind : Kind) (raw : Value) (hc : c.semanticType = some meaning)
    (listed : (meaning, kind) ∈ logicalTypes) :
    logicalTypes.map (·.1) = (ParserTable.standard iso).semanticTypes ∧
    (coerce (.standard iso) c raw = .ok .null ↔ raw = .null) ∧
    (raw ≠ .null → Refused iso c raw ∨
      ∃ w, coerce (.standard iso) c raw = .ok w ∧ w.IsOf (kind.read iso raw)) ∧
    ((raw ≠ .null → Refused iso c raw ∨
      ∃ w, coerce (.standard iso) c raw = .ok w ∧ w.IsOf kind) ↔
      raw = .null ∨ kind.read iso raw = kind) := by
  obtain ⟨p, found, sound, failed⟩ := exists_parser_of_mem lawful listed
  have known : (ParserTable.standard iso).lookup c.semanticType = some p := by rw [hc]; exact found
  have taken {w : Value} (given : raw ≠ .null) (h : coerce (.standard iso) c raw = .ok w) :
      w.IsOf (kind.read iso raw) := sound c.parameters raw w ((coerce_of_parsed known given).1 h)
  have outcome (given : raw ≠ .null) :
      Refused iso c raw ∧ kind.read iso raw = kind ∨
      ∃ w, coerce (.standard iso) c raw = .ok w ∧ w.IsOf (kind.read iso raw) := by
    cases run : p.run c.parameters raw with
    | error cause =>
      exact .inl ⟨⟨meaning, cause, hc, coerce_eq_error.2 ⟨_, p, _, given, hc, found, run, rfl⟩⟩,
        failed _ _ _ run⟩
    | ok w => exact .inr ⟨w, (coerce_of_parsed known given).2 run, sound _ _ _ run⟩
  refine ⟨rfl, ⟨fun h => ?_, ?_⟩, fun given => (outcome given).imp_left And.left,
    fun kept => ?_, ?_⟩
  · by_contra given
    exact (taken given h).ne_null rfl
  · rintro rfl
    rfl
  · by_cases given : raw = .null
    · exact .inl given
    · right
      rcases outcome given with ⟨-, same⟩ | ⟨w, bound, isOf⟩
      · exact same
      · rcases kept given with refused | ⟨w', bound', isOf'⟩
        · exact absurd bound (refused.not_ok w)
        · exact (taken given bound').unique isOf'
  · rintro (null | same) given
    · exact absurd null given
    · rw [same] at outcome
      exact (outcome given).imp_left And.left

namespace Orders

/-- The time at which an order was placed. -/
def placedAt : Column where
  name := "placed_at"
  type := "string"
  semanticType := some "io.debezium.time.ZonedTimestamp"

end Orders

theorem Orders.coerce_placedAt {raw : Value} {t : Timestamp} (given : raw ≠ .null)
    (read : iso.timestamp raw = .ok t) :
    coerce (.standard iso) Orders.placedAt raw = .ok (.timestamp t) := by
  have known : (ParserTable.standard iso).lookup Orders.placedAt.semanticType =
    some ⟨"parse_zoned_timestamp", runZonedTimestamp iso⟩ := rfl
  exact (coerce_of_parsed known given).2 (map_eq_ok_iff.2 ⟨t, read, rfl⟩)

/-- A text with an offset is bound as a zoned timestamp; here the day ends and the year with it. -/
theorem coerce_kind_newYear :
    let raw := Value.text "2023-12-31T24:00:00-05:30"
    Iso.reader.Lawful ∧ Orders.placedAt.semanticType = some "io.debezium.time.ZonedTimestamp" ∧
      ("io.debezium.time.ZonedTimestamp", Kind.zonedTimestamp) ∈ logicalTypes ∧
      coerce (.standard Iso.reader) Orders.placedAt raw =
        .ok (.timestamp ⟨⟨2024, 1, 1⟩, ⟨0, 0, 0, 0, some (-330)⟩⟩) ∧
      (Refused Iso.reader Orders.placedAt raw ∨
        ∃ w, coerce (.standard Iso.reader) Orders.placedAt raw = .ok w ∧
          w.IsOf .zonedTimestamp) := by
  intro raw
  have read : Iso.reader.timestamp raw =
      .ok ⟨⟨2024, 1, 1⟩, ⟨0, 0, 0, 0, some (-330)⟩⟩ := by decide +kernel
  have listed : ("io.debezium.time.ZonedTimestamp", Kind.zonedTimestamp) ∈ logicalTypes := by
    decide
  obtain ⟨-, -, -, kept⟩ := coerce_kind Iso.reader Iso.reader_lawful Orders.placedAt _
    .zonedTimestamp raw rfl listed
  have zoned : Kind.zonedTimestamp.read Iso.reader raw = .zonedTimestamp := by
    simp [Kind.read, read]
  exact ⟨Iso.reader_lawful, rfl, listed, Orders.coerce_placedAt nofun read,
    kept.2 (.inr zoned) nofun⟩

/-- A text without an offset is bound as a timestamp without one. -/
theorem coerce_kind_unzoned :
    let raw := Value.text "2022-01-01T10:15:30"
    let t : Timestamp := ⟨⟨2022, 1, 1⟩, ⟨10, 15, 30, 0, none⟩⟩
    coerce (.standard Iso.reader) Orders.placedAt raw = .ok (.timestamp t) ∧
      ¬ (Refused Iso.reader Orders.placedAt raw ∨
        ∃ w, coerce (.standard Iso.reader) Orders.placedAt raw = .ok w ∧
          w.IsOf .zonedTimestamp) := by
  intro raw t
  have bound : coerce (.standard Iso.reader) Orders.placedAt raw = .ok (.timestamp t) :=
    Orders.coerce_placedAt nofun (by decide +kernel)
  refine ⟨bound, ?_⟩
  rintro (refused | ⟨w, h, zoned⟩)
  · exact refused.not_ok _ bound
  · obtain rfl := Except.ok.inj (bound.symm.trans h)
    cases zoned with
    | zonedTimestamp _ _ offset => cases offset

end Changefeed
