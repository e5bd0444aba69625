import Changefeed.Proofs.Metrics
import Changefeed.Proofs.Translator.Fate

/-!
# The ledgers of a table

What becomes of the events of a table is counted in the figures of its translator and in counters.
An event keeps the two in agreement, whatever becomes of it (`Metrics.Agrees.event`), and leaves the
counters of other tables alone (`Metrics.Agrees.event_other`).
-/

namespace Changefeed

/-! ### The counters of a table -/

namespace Counter

/-- Whether it counts events of a table that needed no statement. -/
def isSkipOf (table : String) : Counter → Bool
  | .skipped name _ => name = table
  | _ => false

/-- Whether it counts failures of a table. -/
def isFailureOf (table : String) : Counter → Bool
  | .failure name _ _ => name = table
  | _ => false

/-- Whether it counts events of a table that neither change a row nor are read from a snapshot. -/
def isOtherEventOf (table : String) : Counter → Bool
  | .event name label =>
    name = table && label ∉ [Operation.create, .update, .delete, .read].map Operation.label
  | _ => false

theorem isOtherEventOf_event {table label : String} :
    (event table label).isOtherEventOf table ↔
      (∀ kind : StatementKind, label ≠ kind.operation.label) ∧ label ≠ Operation.read.label := by
  have each : (∀ kind : StatementKind, label ≠ kind.operation.label) ↔
      label ≠ Operation.create.label ∧ label ≠ Operation.update.label ∧
        label ≠ Operation.delete.label :=
    ⟨fun h => ⟨h .insert, h .update, h .delete⟩, fun ⟨created, updated, deleted⟩ kind => by
      cases kind <;> assumption⟩
  simp [isOtherEventOf, each, and_assoc]

end Counter

/-! ### One event -/

namespace Fate

/-- Whether a statement of a kind was executed. -/
def isAppliedAs (kind : StatementKind) : Fate → Bool
  | applied b => b.kind = kind
  | _ => false

/-- Whether the executor failed with a statement of a kind for a table. -/
def isRefusalOf (table : String) (kind : StatementKind) : Fate → Bool
  | refused b _ => b.table = table && b.kind = kind
  | _ => false

variable {table : String} {value : EventValue} {f : Fate}

theorem statement_of_isRefusalOf {kind : StatementKind} (h : f.isRefusalOf table kind) :
    ∃ b ∈ f.statement?, b.table = table := by
  cases f with
  | refused b cause =>
    simp only [isRefusalOf, Bool.and_eq_true, decide_eq_true_eq] at h
    exact ⟨b, rfl, h.1⟩
  | _ => cases h

theorem figures_applied (stats : Stats) (f : Fate) (kind : StatementKind) :
    (f.figures stats).applied kind =
      stats.applied kind + if f.isAppliedAs kind then 1 else 0 := by
  cases f with
  | applied b =>
    generalize hk : b.kind = k
    cases k <;> cases kind <;> simp [figures, Stats.applied, Stats.addApplied, isAppliedAs, hk]
  | _ => cases kind <;> rfl

/-- The figures that count skipped and failed events. -/
theorem figures_others (stats : Stats) (f : Fate) :
    (f.figures stats).skipped = stats.skipped + (if f.isSkipped then 1 else 0) ∧
      (f.figures stats).failed = stats.failed + if f.isFailed then 1 else 0 := by
  cases f with
  | applied b => cases h : b.kind <;> simp [figures, Stats.addApplied, isSkipped, isFailed, h]
  | _ => exact ⟨rfl, rfl⟩

theorem Fits.label_iff (fits : f.Fits table value) (translated : ∀ cause, f ≠ .rejected cause)
    (kind : StatementKind) :
    value.label = kind.operation.label ↔ f.statement?.map (·.kind) = some kind := by
  rw [EventValue.label_eq_iff, (fits translated).1, Option.bind_eq_some_iff]
  simp only [Operation.kind?_eq_some_iff]
  exact ⟨fun h => ⟨_, h, rfl⟩, fun ⟨op, h, same⟩ => same ▸ h⟩

/-! ### The counters for a fate -/

theorem count_applied (f : Fate) (table : String) (value : EventValue) (kind : StatementKind) :
    (f.counters table value).count (.applied table kind.name) =
      if f.isAppliedAs kind then 1 else 0 := by
  cases f with
  | applied b =>
    have same : b.kind.name = kind.name ↔ b.kind = kind :=
      ⟨StatementKind.name_injective, congrArg StatementKind.name⟩
    simp [counters, List.count_cons, isAppliedAs, same]
  | _ => rfl

theorem countP_isSkipOf (f : Fate) (table : String) (value : EventValue) :
    (f.counters table value).countP (·.isSkipOf table) = if f.isSkipped then 1 else 0 := by
  cases f <;> simp [counters, Counter.isSkipOf, isSkipped]

theorem countP_isFailureOf (f : Fate) (table : String) (value : EventValue) :
    (f.counters table value).countP (·.isFailureOf table) = if f.isFailed then 1 else 0 := by
  cases f <;> simp [counters, Counter.isFailureOf, isFailed]

theorem Fits.count_event (fits : f.Fits table value) (kind : StatementKind) :
    (f.counters table value).count (.event table kind.operation.label) =
      (if f.isAppliedAs kind then 1 else 0) + if f.isRefusalOf table kind then 1 else 0 := by
  cases f with
  | rejected cause => rfl
  | skipped =>
    have label := fits.label_iff (by simp) kind
    simp [counters, label, statement?, isAppliedAs, isRefusalOf]
  | applied b =>
    have label := fits.label_iff (by simp) kind
    simp [counters, List.count_cons, label, statement?, isAppliedAs, isRefusalOf]
  | refused b cause =>
    have label := fits.label_iff (by simp) kind
    have own : b.table = table := (fits (by simp)).2 b rfl
    simp [counters, List.count_cons, label, statement?, isAppliedAs, isRefusalOf, own]

theorem Fits.count_read (fits : f.Fits table value) :
    (f.counters table value).count (.event table Operation.read.label) =
      (f.counters table value).count (.skipped table "snapshot") := by
  have named (kind : StatementKind) (label : value.label = kind.operation.label) :
      value.label ≠ Operation.read.label := by
    rw [label]
    cases kind <;> decide
  cases f with
  | rejected cause => rfl
  | skipped =>
    rw [counters, Workplace.skipReason_eq]
    simp only [← EventValue.label_eq_iff]
    by_cases h : value.label = Operation.read.label <;> simp [h]
  | applied b =>
    have label := (fits.label_iff (by simp) b.kind).2 rfl
    simp [counters, named b.kind label]
  | refused b cause =>
    have label := (fits.label_iff (by simp) b.kind).2 rfl
    simp [counters, named b.kind label]

theorem Fits.countP_isOtherEventOf (fits : f.Fits table value) :
    (f.counters table value).countP (·.isOtherEventOf table) =
      (f.counters table value).count (.skipped table "unsupported") := by
  have named (kind : StatementKind) (label : value.label = kind.operation.label) :
      ¬(Counter.event table value.label).isOtherEventOf table := fun h =>
    (Counter.isOtherEventOf_event.1 h).1 kind label
  cases f with
  | rejected cause => rfl
  | skipped =>
    -- an event that changes rows is not skipped, which leaves snapshots to be told apart
    have unchanged (kind : StatementKind) : value.label ≠ kind.operation.label := by
      rw [Ne, fits.label_iff (by simp) kind]
      simp [statement?]
    have other : (Counter.event table value.label).isOtherEventOf table ↔
        value.label ≠ Operation.read.label :=
      Counter.isOtherEventOf_event.trans (and_iff_right unchanged)
    rw [counters, Workplace.skipReason_eq]
    simp only [← EventValue.label_eq_iff, List.countP_cons, other]
    by_cases h : value.label = Operation.read.label <;> simp [h, Counter.isOtherEventOf]
  | applied b =>
    have label := (fits.label_iff (by simp) b.kind).2 rfl
    rw [counters, List.countP_cons_of_neg (named b.kind label)]
    rfl
  | refused b cause =>
    have label := (fits.label_iff (by simp) b.kind).2 rfl
    rw [counters, List.countP_cons_of_neg (named b.kind label)]
    rfl

end Fate

namespace Metrics

/-- The counters of a table agree with the figures of its translator, and with the number of
statements of each kind that the executor failed with. -/
structure Agrees (m : Metrics) (table : String) (stats : Stats) (refusals : StatementKind → Nat) :
    Prop where
  applied : ∀ kind, m.count (.applied table kind.name) = stats.applied kind
  skipped : m.total (·.isSkipOf table) = stats.skipped
  failed : m.total (·.isFailureOf table) = stats.failed
  changes : ∀ kind, m.count (.event table kind.operation.label) =
    stats.applied kind + refusals kind
  snapshots : m.count (.event table Operation.read.label) = m.count (.skipped table "snapshot")
  others : m.total (·.isOtherEventOf table) = m.count (.skipped table "unsupported")

variable {m : Metrics} {table : String} {stats : Stats} {refusals : StatementKind → Nat}

/-- An event of a table keeps the agreement, whatever becomes of it. -/
theorem Agrees.event (h : m.Agrees table stats refusals) {f : Fate} {value : EventValue}
    (fits : f.Fits table value) :
    ((f.counters table value).foldl add m).Agrees table (f.figures stats)
      fun kind => refusals kind + if f.isRefusalOf table kind then 1 else 0 where
  applied kind := by
    rw [count_foldl_add, f.count_applied, f.figures_applied, h.applied]
  skipped := by
    rw [total_foldl_add, f.countP_isSkipOf, (f.figures_others stats).1, h.skipped]
  failed := by
    rw [total_foldl_add, f.countP_isFailureOf, (f.figures_others stats).2, h.failed]
  changes kind := by
    rw [count_foldl_add, fits.count_event, f.figures_applied, h.changes]
    omega
  snapshots := by
    rw [count_foldl_add, count_foldl_add, fits.count_read, h.snapshots]
  others := by
    rw [total_foldl_add, count_foldl_add, fits.countP_isOtherEventOf, h.others]

/-- An event of another table leaves all counters of a table alone. -/
theorem Agrees.event_other (h : m.Agrees table stats refusals) {cs : List Counter}
    (other : ∀ c ∈ cs, c.table ≠ table) : (cs.foldl add m).Agrees table stats refusals := by
  have count (c : Counter) (own : c.table = table) : (cs.foldl add m).count c = m.count c := by
    rw [count_foldl_add, List.count_eq_zero_of_not_mem fun hc => other c hc own, Nat.add_zero]
  have total (p : Counter → Bool) (own : ∀ c, p c → c.table = table) :
      (cs.foldl add m).total p = m.total p := by
    rw [total_foldl_add, List.countP_eq_zero.2 fun c hc hp => other c hc (own c hp), Nat.add_zero]
  have skips := total (·.isSkipOf table) fun c => by
    cases c <;> simp [Counter.isSkipOf, Counter.table]
  have failures := total (·.isFailureOf table) fun c => by
    cases c <;> simp [Counter.isFailureOf, Counter.table]
  have others := total (·.isOtherEventOf table) fun c => by
    cases c <;> simp +contextual [Counter.isOtherEventOf, Counter.table]
  exact
    { applied := fun kind => (count _ rfl).trans (h.applied kind)
      skipped := skips.trans h.skipped
      failed := failures.trans h.failed
      changes := fun kind => (count _ rfl).trans (h.changes kind)
      snapshots := by rw [count _ rfl, count _ rfl, h.snapshots]
      others := by rw [others, count _ rfl, h.others] }

end Metrics

end Changefeed
