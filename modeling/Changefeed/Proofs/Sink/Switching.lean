import Changefeed.Parser.Iso
import Changefeed.Proofs.Executor.Pool
import Changefeed.Sink.Basic

/-!
# Starting and stopping

What starts and stops of a sink leave behind.  There is one server of counters at most, counted from
what was asked of it (`Exporter.Serves`).  A connection stays behind a start that fails once it is
there, and a server behind a stop whose disconnect fails: these are the ways in which a switch slips
(`Sink.Slips`), and without them it leaves nothing (`Sink.LeavesNothing`).
-/

namespace Changefeed

theorem Except.eq_error_iff_ne_ok {r : Except Failure Unit} :
    (∃ e, r = .error e) ↔ r ≠ .ok () := by
  rcases r with e | ⟨⟩ <;> simp

/-! ### The servers of counters -/

namespace Exporter

theorem start_of_idle {x : Exporter} (wanted : x.enabled = true) (idle : x.isRunning = false) :
    x.start =
      ((match (Schedule.next x.startFailures).1 with
        | some e => .error e
        | none => .ok ()),
      { x with
        isRunning := (Schedule.next x.startFailures).1.isNone
        calls := x.calls ++ [.start x.portNumber]
        startFailures := (Schedule.next x.startFailures).2 }) := by
  rcases h : x.startFailures with _ | ⟨_ | e, rest⟩ <;>
    simp [start, wanted, idle, h, Schedule.next]

theorem start_of_not_idle {x : Exporter} (h : ¬ (x.enabled = true ∧ x.isRunning = false)) :
    x.start = (.ok (), x) := by
  unfold start
  rw [if_pos]
  cases hw : x.enabled <;> cases hr : x.isRunning <;> simp_all

/-- The servers that are up behind calls: those whose start went well less those shut down. -/
def up (failures : Schedule) : List ExporterCall → Int
  | [] => 0
  | .start _ :: rest =>
    (if (Schedule.next failures).1 = none then 1 else 0) + up (Schedule.next failures).2 rest
  | .shutdown :: rest => -1 + up failures rest

/-- What is left of a schedule of starts behind calls. -/
def pending (failures : Schedule) : List ExporterCall → Schedule
  | [] => failures
  | .start _ :: rest => pending (Schedule.next failures).2 rest
  | .shutdown :: rest => pending failures rest

theorem up_append (failures : Schedule) (calls later : List ExporterCall) :
    up failures (calls ++ later) = up failures calls + up (pending failures calls) later := by
  induction calls generalizing failures with
  | nil => simp [up, pending]
  | cons call rest ih => cases call <;> simp [up, pending, ih, Int.add_assoc]

theorem pending_append (failures : Schedule) (calls later : List ExporterCall) :
    pending failures (calls ++ later) = pending (pending failures calls) later := by
  induction calls generalizing failures with
  | nil => rfl
  | cons call rest ih => cases call <;> simp [pending, ih]

/-- One server is up while the exporter runs and none else, and there never were more. -/
structure Serves (failures : Schedule) (x : Exporter) : Prop where
  pending_eq : x.startFailures = pending failures x.calls
  up_eq : up failures x.calls = if x.isRunning then 1 else 0
  within : ∀ earlier, earlier <+: x.calls → 0 ≤ up failures earlier ∧ up failures earlier ≤ 1

theorem serves_of_calls_eq_nil {x : Exporter} (uncalled : x.calls = [])
    (idle : x.isRunning = false) : x.Serves x.startFailures where
  pending_eq := by rw [uncalled, pending]
  up_eq := by simp [uncalled, up, idle]
  within earlier before := by
    rw [uncalled] at before
    simp [List.prefix_nil.1 before, up]

theorem Serves.call {failures : Schedule} {x y : Exporter} (h : x.Serves failures)
    {call : ExporterCall} (calls : y.calls = x.calls ++ [call])
    (rest : y.startFailures = pending x.startFailures [call])
    (served : up x.startFailures [call] =
      (if y.isRunning then 1 else 0) - if x.isRunning then 1 else 0) :
    y.Serves failures := by
  have now : up failures y.calls = if y.isRunning then 1 else 0 := by
    rw [calls, up_append, ← h.pending_eq, served, h.up_eq]
    omega
  refine ⟨by rw [rest, calls, pending_append, h.pending_eq], now, fun earlier before => ?_⟩
  rw [calls] at before
  rcases List.prefix_concat_iff.1 before with rfl | older
  · rw [← calls, now]
    split_ifs <;> omega
  · exact h.within earlier older

theorem Serves.start {failures : Schedule} {x : Exporter} (h : x.Serves failures) :
    x.start.2.Serves failures := by
  by_cases idle : x.enabled = true ∧ x.isRunning = false
  · rw [start_of_idle idle.1 idle.2]
    refine h.call rfl rfl ?_
    cases hn : (Schedule.next x.startFailures).1 <;> simp [up, hn, idle.2]
  · rwa [start_of_not_idle idle]

theorem Serves.stop {failures : Schedule} {x : Exporter} (h : x.Serves failures) :
    x.stop.Serves failures := by
  unfold Exporter.stop
  split_ifs with running
  · exact h.call rfl rfl (by simp [up, running])
  · exact h

@[simp] theorem isRunning_stop (x : Exporter) : x.stop.isRunning = false := by
  unfold stop
  split_ifs with running <;> simp_all

end Exporter

/-! ### The connections of a target -/

namespace Target

/-- Whether there is a connection: the target counts as connected, or has a pool in place. -/
def Holds : Target → Prop
  | .dryRun d => d.isConnected = true
  | .pool p => p.isConnected = true ∨ p.pool.isSome = true

/-- Whether connecting would open a pool that gives no answer. -/
def Stumbles : Target → Prop
  | .dryRun _ => False
  | .pool p => p.Stumbles

/-- Whether being connected is having a pool in place. -/
def Tidy : Target → Prop
  | .dryRun _ => True
  | .pool p => p.holdings.Tidy

/-- Whether there is a pool in place while the target counts as connected. -/
def Backed : Target → Prop
  | .dryRun _ => True
  | .pool p => p.isConnected = true → p.pool.isSome = true

/-- A target that opened no pool yet. -/
def New : Target → Prop
  | .dryRun _ => True
  | .pool p => p.holdings = ⟨none, false, 0, []⟩

theorem after_pool (p : Pool) (calls : List ExecutorCall) :
    executor.after (.pool p) calls = .pool (Pool.executor.after p calls) := by
  induction calls generalizing p with
  | nil => rfl
  | cons call rest ih => cases call <;> exact ih _

theorem after_dryRun (d : DryRun) (calls : List ExecutorCall) :
    executor.after (.dryRun d) calls = .dryRun (DryRun.executor.after d calls) := by
  induction calls generalizing d with
  | nil => rfl
  | cons call rest ih => cases call <;> exact ih _

theorem New.tidy {t : Target} (h : t.New) : t.Tidy := by
  cases t with
  | dryRun d => trivial
  | pool p =>
    change p.holdings.Tidy
    rw [show p.holdings = _ from h]
    exact Holdings.tidy_empty

theorem New.backed_after {t : Target} (h : t.New) (calls : List ExecutorCall) :
    (executor.after t calls).Backed := by
  cases t with
  | dryRun d =>
    rw [after_dryRun]
    trivial
  | pool p =>
    rw [after_pool]
    have h : p.holdings = ⟨none, false, 0, []⟩ := h
    have accounted : p.holdings.Accounted [] := h ▸ Holdings.accounted_empty
    exact (Pool.accounted_after accounted calls).inUse_of_isConnected

theorem tidy_step {t : Target} (h : t.Tidy) {call : ExecutorCall}
    (sound : call = .connect → ¬ t.Stumbles) : (executor.step t call).Tidy := by
  cases t with
  | dryRun d => cases call <;> trivial
  | pool p =>
    have kept := Pool.tidy_step h sound
    cases call <;> exact kept

theorem isConnected_connect (t : Target) :
    executor.isConnected (executor.connect t).2 = true ↔ (executor.connect t).1 = .ok () := by
  cases t with
  | dryRun d => simp [executor, act, DryRun.executor]
  | pool p =>
    change p.connect.2.holdings.isConnected = true ↔ p.connect.1 = .ok ()
    by_cases reaches : p.Reaches
    · obtain ⟨ok, kept⟩ := Pool.connect_of_reaches reaches
      rw [ok, kept, decide_eq_true_eq]
    · obtain ⟨ok, kept⟩ := Pool.connect_of_not_reaches reaches
      rw [ok, kept, Pool.holdings]

theorem holds_connect_of_error {t : Target} {e : Failure}
    (failed : (executor.connect t).1 = .error e) :
    (executor.connect t).2.Holds ↔ t.Stumbles ∨ t.Holds := by
  cases t with
  | dryRun d => cases failed
  | pool p =>
    have failed : p.connect.1 = .error e := failed
    have behind : p.connect.2.isConnected ≠ true :=
      mt (isConnected_connect (.pool p)).1 (by simp [executor, act, Pool.executor, failed])
    have before : p.isConnected ≠ true := fun connected => by
      have := (Pool.connect_eq_ok_iff p).2 (.inl connected)
      rw [failed] at this
      cases this
    change p.connect.2.isConnected = true ∨ p.connect.2.pool.isSome = true ↔
      p.Stumbles ∨ p.isConnected = true ∨ p.pool.isSome = true
    rw [Pool.pool_connect_of_error failed]
    split_ifs with stumbles <;> simp [behind, before, stumbles]

theorem holds_connect_of_ok {t : Target} (done : (executor.connect t).1 = .ok ()) :
    (executor.connect t).2.Holds := by
  have connected := (isConnected_connect t).2 done
  cases t with
  | dryRun d => exact connected
  | pool p => exact .inl connected

theorem connect_of_stumbles {t : Target} (stumbles : t.Stumbles) :
    (executor.connect t).1 ≠ .ok () := by
  cases t with
  | dryRun d => exact stumbles.elim
  | pool p => exact mt (Pool.connect_of_reaches stumbles.1).1.1 stumbles.2

theorem Tidy.connect_of_holds {t : Target} (h : t.Tidy) (holds : t.Holds) :
    (executor.connect t).1 = .ok () := by
  cases t with
  | dryRun d => rfl
  | pool p =>
    exact (Pool.connect_eq_ok_iff p).2 (.inl (holds.elim id h.isConnected_iff.2))

theorem Backed.not_holds_disconnect {t : Target} (h : t.Backed) :
    ¬ (executor.disconnect t).2.Holds := by
  cases t with
  | dryRun d => exact Bool.false_ne_true
  | pool p =>
    have kept := p.holdings_disconnect
    change ¬ (p.disconnect.2.holdings.isConnected = true ∨
      p.disconnect.2.holdings.inUse.isSome = true)
    rw [kept]
    split_ifs with used
    · simp
    · simpa [Pool.holdings, used] using mt h used

end Target

/-! ### Switches -/

/-- A switch of a sink. -/
inductive Switch where
  | start
  | stop
deriving DecidableEq, Repr, Inhabited

/-- What a switch asks of an executor. -/
def Switch.call : Switch → ExecutorCall
  | .start => .connect
  | .stop => .disconnect

namespace Sink

section

variable {σ : Type} (ex : Executor σ) (s : Sink σ)

/-- Starts or stops a sink. -/
def switch : Switch → Except Failure Unit × Sink σ
  | .start => s.start ex
  | .stop => s.stop ex

/-- The sink behind switches in order. -/
def switchAll (switches : List Switch) : Sink σ :=
  switches.foldl (fun s x => (s.switch ex x).2) s

theorem start_eq :
    ((s.start ex).1 = .ok () ↔
      (ex.connect s.executor).1 = .ok () ∧ s.exporter.start.1 = .ok ()) ∧
    (s.start ex).2.executor = (ex.connect s.executor).2 ∧
    (s.start ex).2.exporter =
      match (ex.connect s.executor).1 with
      | .ok () => s.exporter.start.2
      | .error _ => s.exporter := by
  unfold start connect
  rcases ex.connect s.executor with ⟨e | ⟨⟩, x⟩
  · simp [note]
  · rcases s.exporter.start with ⟨e | ⟨⟩, y⟩ <;> simp [note]

theorem stop_eq :
    (s.stop ex).1 = (ex.disconnect s.executor).1 ∧
    (s.stop ex).2.executor = (ex.disconnect s.executor).2 ∧
    (s.stop ex).2.exporter =
      match (ex.disconnect s.executor).1 with
      | .ok () => s.exporter.stop
      | .error _ => s.exporter := by
  unfold stop
  rcases ex.disconnect s.executor with ⟨e | ⟨⟩, x⟩ <;> simp

theorem executor_switch (x : Switch) :
    (s.switch ex x).2.executor = ex.step s.executor x.call := by
  cases x with
  | start => exact (s.start_eq ex).2.1
  | stop => exact (s.stop_eq ex).2.1

theorem executor_switchAll (switches : List Switch) :
    (s.switchAll ex switches).executor = ex.after s.executor (switches.map Switch.call) := by
  induction switches generalizing s with
  | nil => rfl
  | cons x rest ih =>
    rw [switchAll, List.foldl_cons, ← switchAll, ih, executor_switch]
    rfl

variable {s}

theorem serves_switch {failures : Schedule} (h : s.exporter.Serves failures) (x : Switch) :
    (s.switch ex x).2.exporter.Serves failures := by
  cases x with
  | start =>
    rw [switch, (s.start_eq ex).2.2]
    split
    · exact h.start
    · exact h
  | stop =>
    rw [switch, (s.stop_eq ex).2.2]
    split
    · exact h.stop
    · exact h

theorem serves_switchAll {failures : Schedule} (h : s.exporter.Serves failures)
    (switches : List Switch) : (s.switchAll ex switches).exporter.Serves failures := by
  induction switches generalizing s with
  | nil => exact h
  | cons x rest ih => exact ih (serves_switch ex h x)

end

/-- What a switch of a sink is to leave behind: no connection where starting fails, and no server of
counters where the sink was stopped. -/
def LeavesNothing (s : Sink Target) : Switch → Prop
  | .start => (∃ e, (s.start Target.executor).1 = .error e) →
      ¬ (s.start Target.executor).2.executor.Holds
  | .stop => (s.stop Target.executor).2.exporter.isRunning = false

/-- The switches that leave something behind: a start on a pool that gives no answer, a start whose
server of counters fails once there is a connection, and a stop whose disconnect fails while that
server is up. -/
def Slips (s : Sink Target) : Switch → Prop
  | .start => s.executor.Stumbles ∨
      (Target.executor.connect s.executor).1 = .ok () ∧ ∃ e, s.exporter.start.1 = .error e
  | .stop => s.exporter.isRunning = true ∧
      ∃ e, (Target.executor.disconnect s.executor).1 = .error e

theorem connections_start (s : Sink Target) :
    (Target.executor.isConnected (s.start Target.executor).2.executor = true ↔
      (Target.executor.connect s.executor).1 = .ok ()) ∧
    ((s.start Target.executor).2.executor.Holds ↔
      (Target.executor.connect s.executor).1 = .ok () ∨ s.executor.Stumbles ∨
        s.executor.Holds) := by
  rw [(s.start_eq _).2.1]
  refine ⟨s.executor.isConnected_connect, ?_⟩
  cases connected : (Target.executor.connect s.executor).1 with
  | error e => simpa using Target.holds_connect_of_error connected
  | ok u => simpa using Target.holds_connect_of_ok connected

theorem start_eq_error_iff (s : Sink Target) :
    (∃ e, (s.start Target.executor).1 = .error e) ↔
      (Target.executor.connect s.executor).1 ≠ .ok () ∨ ∃ e, s.exporter.start.1 = .error e := by
  rw [Except.eq_error_iff_ne_ok, Except.eq_error_iff_ne_ok, Ne, (s.start_eq _).1, not_and_or]

theorem isRunning_stop_iff (s : Sink Target) :
    (s.stop Target.executor).2.exporter.isRunning = true ↔
      s.exporter.isRunning = true ∧ ∃ e, (s.stop Target.executor).1 = .error e := by
  rw [(s.stop_eq _).2.2, (s.stop_eq _).1]
  cases (Target.executor.disconnect s.executor).1 <;> simp

variable {s : Sink Target} {x : Switch}

theorem Slips.not_leavesNothing (h : s.Slips x) : ¬ s.LeavesNothing x := by
  intro clean
  cases x with
  | start =>
    rcases h with stumbles | ⟨connected, refused⟩
    · have failed := s.start_eq_error_iff.2 (.inl (Target.connect_of_stumbles stumbles))
      exact clean failed (s.connections_start.2.2 (.inr (.inl stumbles)))
    · exact clean (s.start_eq_error_iff.2 (.inr refused)) (s.connections_start.2.2 (.inl connected))
  | stop =>
    have up := s.isRunning_stop_iff.2 ⟨h.1, by rw [(s.stop_eq _).1]; exact h.2⟩
    exact Bool.false_ne_true (clean.symm.trans up)

theorem leavesNothing_of_not_slips (tidy : s.executor.Tidy) (sound : ¬ s.Slips x) :
    s.LeavesNothing x := by
  cases x with
  | start =>
    intro failed holds
    -- whatever fails, there was no connection to be left
    have apart : (Target.executor.connect s.executor).1 ≠ .ok () := fun connected =>
      (s.start_eq_error_iff.1 failed).elim (absurd connected)
        fun refused => sound (.inr ⟨connected, refused⟩)
    rcases s.connections_start.2.1 holds with connected | stumbles | held
    · exact apart connected
    · exact sound (.inl stumbles)
    · exact apart (tidy.connect_of_holds held)
  | stop =>
    refine Bool.eq_false_iff.2 fun up => sound ?_
    obtain ⟨running, failed⟩ := s.isRunning_stop_iff.1 up
    rw [(s.stop_eq _).1] at failed
    exact ⟨running, failed⟩

theorem tidy_switchAll (tidy : s.executor.Tidy) {switches : List Switch}
    (sound : ∀ earlier x later, switches = earlier ++ x :: later →
      ¬ (s.switchAll Target.executor earlier).Slips x) (earlier later : List Switch)
    (split : switches = earlier ++ later) :
    (s.switchAll Target.executor earlier).executor.Tidy := by
  induction earlier using List.reverseRecOn generalizing later with
  | nil => exact tidy
  | append_singleton earlier x ih =>
    rw [List.append_assoc, List.singleton_append] at split
    rw [switchAll, List.foldl_append, List.foldl_cons, List.foldl_nil, ← switchAll,
      executor_switch]
    refine Target.tidy_step (ih _ split) fun connects stumbles => ?_
    cases x with
    | start => exact sound earlier .start later split (.inl stumbles)
    | stop => cases connects

theorem leavesNothing_iff (tidy : s.executor.Tidy) (switches : List Switch) :
    (∀ earlier x later, switches = earlier ++ x :: later →
      (s.switchAll Target.executor earlier).LeavesNothing x) ↔
    ∀ earlier x later, switches = earlier ++ x :: later →
      ¬ (s.switchAll Target.executor earlier).Slips x := by
  constructor
  · exact fun clean earlier x later split slips =>
      slips.not_leavesNothing (clean earlier x later split)
  · exact fun sound earlier x later split => leavesNothing_of_not_slips
      (tidy_switchAll tidy sound earlier _ split) (sound earlier x later split)

theorem new_of_ofSettings {iso : IsoReader} {settings : Settings} {server : Server}
    {parsers : Option ParserTable} (made : ofSettings iso settings server parsers = .ok s)
    (opened : server.opened = 0) (uncalled : server.calls = []) :
    s.executor.New ∧ s.exporter.calls = [] ∧ s.exporter.isRunning = false := by
  unfold ofSettings targetOf Target.create at made
  split_ifs at made
  · cases made
    exact ⟨trivial, rfl, rfl⟩
  · split at made
    · cases made
    · cases made
      exact ⟨trivial, rfl, rfl⟩
    · rcases created : Pool.create (.textOrNull settings.destination.address)
        settings.destination.poolOptions server with e | p
      · rw [created] at made
        cases made
      · rw [created] at made
        cases made
        refine ⟨?_, rfl, rfl⟩
        change p.holdings = _
        rw [Pool.holdings_of_create created, opened, Server.closed, uncalled]
        rfl

/-- A sink whose starts of the server of counters go as a schedule says. -/
def withStarts (s : Sink Target) (failures : Schedule) : Sink Target :=
  { s with exporter := { s.exporter with startFailures := failures } }

end Sink

/-- What starts and stops leave behind, whatever fails of them.  There is one server of counters at
most, and it is up behind a stop just if it was before and disconnecting fails.  There is no
connection behind a stop; behind a start there is one if connecting succeeds, whatever the server
does, or a pool that gives no answer, or what was there before.  So each of the switches leaves
nothing behind just if none of them slips. -/
theorem switches_leave {iso : IsoReader} {settings : Settings} {server : Server}
    {parsers : Option ParserTable} {made : Sink Target}
    (new : Sink.ofSettings iso settings server parsers = .ok made)
    (opened : server.opened = 0) (uncalled : server.calls = []) (failures : Schedule)
    (switches : List Switch) :
    let s := made.withStarts failures
    let t := s.switchAll Target.executor switches
    let connects := (Target.executor.connect t.executor).1 = .ok ()
    t.exporter.Serves failures ∧
    ((∃ e, (t.start Target.executor).1 = .error e) ↔
      ¬ connects ∨ ∃ e, t.exporter.start.1 = .error e) ∧
    (Target.executor.isConnected (t.start Target.executor).2.executor = true ↔ connects) ∧
    ((t.start Target.executor).2.executor.Holds ↔
      connects ∨ t.executor.Stumbles ∨ t.executor.Holds) ∧
    ((t.stop Target.executor).2.exporter.isRunning = true ↔
      t.exporter.isRunning = true ∧ ∃ e, (t.stop Target.executor).1 = .error e) ∧
    ¬ (t.stop Target.executor).2.executor.Holds ∧
    ((∀ earlier x later, switches = earlier ++ x :: later →
        (s.switchAll Target.executor earlier).LeavesNothing x) ↔
      ∀ earlier x later, switches = earlier ++ x :: later →
        ¬ (s.switchAll Target.executor earlier).Slips x) := by
  intro s t connects
  obtain ⟨fresh, silent, idle⟩ := Sink.new_of_ofSettings new opened uncalled
  have serves : s.exporter.Serves failures :=
    Exporter.serves_of_calls_eq_nil (x := s.exporter) silent idle
  have backed : t.executor.Backed := by
    rw [Sink.executor_switchAll]
    exact fresh.backed_after _
  obtain ⟨connected, holds⟩ := t.connections_start
  refine ⟨Sink.serves_switchAll _ serves switches, t.start_eq_error_iff, connected, holds,
    t.isRunning_stop_iff, ?_, Sink.leavesNothing_iff (s := s) fresh.tidy switches⟩
  rw [(t.stop_eq _).2.1]
  exact backed.not_holds_disconnect

namespace Orders

/-- Settings of dry runs with a server of counters. -/
def counted : Settings where
  monitoring := { exporter := { enabled := true } }

/-- Settings of runs on a database with a server of counters. -/
def pooled : Settings where
  destination := { address := some "postgresql://localhost/orders" }
  monitoring := { exporter := { enabled := true } }

end Orders

/-- Starting fails for want of a port, and the connection stays. -/
theorem switches_leave_orders :
    let s : Sink Target := .create Iso.reader Orders.counted (.dryRun {}) none
    Sink.ofSettings Iso.reader Orders.counted {} none = .ok s ∧ ({} : Server).opened = 0 ∧
    ({} : Server).calls = [] ∧
    (Target.executor.isConnected
      ((s.withStarts [some (.ofKind .system)]).start Target.executor).2.executor = true ↔
        (Target.executor.connect s.executor).1 = .ok ()) := by
  intro s
  have new : Sink.ofSettings Iso.reader Orders.counted {} none = .ok s := rfl
  exact ⟨new, rfl, rfl, (switches_leave new rfl rfl [some (.ofKind .system)] []).2.2.1⟩

/-- A connection stays behind a start whose server of counters fails, a server behind a stop whose
disconnect fails, and a pool behind a start on which it gave no answer. -/
theorem switches_leave_behind :
    let fault := some (Failure.ofKind .system)
    (∃ s, Sink.ofSettings Iso.reader Orders.counted {} none = .ok s ∧
      (∃ e, ((s.withStarts [fault]).start Target.executor).1 = .error e) ∧
      Target.executor.isConnected ((s.withStarts [fault]).start Target.executor).2.executor =
        true) ∧
    (∃ s, Sink.ofSettings Iso.reader Orders.pooled { closeFailures := [fault] } none = .ok s ∧
      (∃ e, ((s.switchAll Target.executor [.start]).stop Target.executor).1 = .error e) ∧
      (s.switchAll Target.executor [.start, .stop]).exporter.isRunning = true) ∧
    ∃ s, Sink.ofSettings Iso.reader Orders.pooled { acquireFailures := [fault] } none = .ok s ∧
      (∃ e, (s.start Target.executor).1 = .error e) ∧
      (s.start Target.executor).2.executor.Holds := by
  intro fault
  exact ⟨⟨_, rfl, ⟨_, rfl⟩, rfl⟩, ⟨_, rfl, ⟨_, rfl⟩, rfl⟩, ⟨_, rfl, ⟨_, rfl⟩, .inr rfl⟩⟩

end Changefeed
