import Mathlib.Data.List.Induction
import Mathlib.Tactic.SplitIfs
import Changefeed.Executor.Target

/-!
# The pools of an executor

What calls do to the pools that an executor has opened: each call changes `Pool.holdings` in one of
three ways, and with them every pool is in use, or closed, or was given up for another one
(`Holdings.Accounted`).  A pool is given up only behind a connect that opened it and got no answer
(`Pool.Stumbles`); without such a connect the executor is tidy behind every call (`Pool.Tidy`).
-/

namespace Changefeed

/-! ### Calls -/

/-- A call of an executor. -/
inductive ExecutorCall where
  | connect
  | disconnect
  | testConnection
  | execute (sql : String) (parameters : List Value)
deriving Inhabited

namespace Executor

variable {σ : Type} (ex : Executor σ)

/-- The state behind a call, whatever its outcome. -/
def step (x : σ) : ExecutorCall → σ
  | .connect => (ex.connect x).2
  | .disconnect => (ex.disconnect x).2
  | .testConnection => (ex.testConnection x).2
  | .execute sql parameters => (ex.execute sql parameters x).2

/-- The state behind calls in order. -/
def after (x : σ) (calls : List ExecutorCall) : σ :=
  calls.foldl ex.step x

theorem after_append (x : σ) (calls later : List ExecutorCall) :
    ex.after x (calls ++ later) = ex.after (ex.after x calls) later :=
  List.foldl_append

end Executor

/-! ### What a server was asked -/

/-- The pool that a call of a server closes. -/
def ServerCall.closed? : ServerCall → Option Nat
  | .close pool => some pool
  | .opening | .query _ _ => none

namespace Server

/-- The pools that a server was asked to close. -/
def closed (s : Server) : List Nat :=
  s.calls.filterMap ServerCall.closed?

/-- Whether the next pool will be opened. -/
def Opens (s : Server) : Prop :=
  (Schedule.next s.openFailures).1 = none

/-- Whether the next query will be run. -/
def Answers (s : Server) : Prop :=
  (Schedule.next s.acquireFailures).1 = none ∧ (Schedule.next s.queryFailures).1 = none

instance (s : Server) : Decidable s.Opens :=
  inferInstanceAs (Decidable (_ = _))

instance (s : Server) : Decidable s.Answers :=
  inferInstanceAs (Decidable (_ ∧ _))

theorem openPool_of_opens {s : Server} (opens : s.Opens) :
    s.openPool.1 = .ok s.opened ∧ s.openPool.2.opened = s.opened + 1 ∧
      s.openPool.2.closed = s.closed ∧ (s.openPool.2.Answers ↔ s.Answers) := by
  unfold Opens at opens
  simp [openPool, opens, closed, Answers, ServerCall.closed?]

theorem openPool_of_not_opens {s : Server} (closed_to_all : ¬ s.Opens) :
    (∃ e, s.openPool.1 = .error e) ∧ s.openPool.2.opened = s.opened ∧
      s.openPool.2.closed = s.closed := by
  obtain ⟨e, failure⟩ := Option.ne_none_iff_exists'.1 closed_to_all
  simp [openPool, failure, closed, ServerCall.closed?]

theorem query_eq_ok_iff (s : Server) (sql : String) (parameters : List Value) :
    (s.query sql parameters).1 = .ok () ↔ s.Answers := by
  unfold query Answers
  rcases Schedule.next s.acquireFailures with ⟨_ | e, rest⟩
  · rcases h : Schedule.next s.queryFailures with ⟨_ | e, rest⟩ <;> simp [h]
  · simp

theorem query_keeps (s : Server) (sql : String) (parameters : List Value) :
    (s.query sql parameters).2.opened = s.opened ∧
      (s.query sql parameters).2.closed = s.closed := by
  unfold query closed
  rcases Schedule.next s.acquireFailures with ⟨_ | e, rest⟩
  · rcases h : Schedule.next s.queryFailures with ⟨_ | e, rest⟩ <;> simp [h, ServerCall.closed?]
  · simp

theorem closePool_closes (s : Server) (pool : Nat) :
    (s.closePool pool).2.opened = s.opened ∧
      (s.closePool pool).2.closed = s.closed ++ [pool] := by
  unfold closePool closed
  rcases Schedule.next s.closeFailures with ⟨_ | e, rest⟩ <;> simp [ServerCall.closed?]

end Server

/-! ### Holdings -/

/-- What an executor has of the pools of its server: the one in use, whether it counts as
connected, how many were opened, and which were closed. -/
structure Holdings where
  inUse : Option Nat
  isConnected : Bool
  opened : Nat
  closed : List Nat

namespace Holdings

/-- Being connected is having a pool in use, and any other pool is closed. -/
structure Tidy (h : Holdings) : Prop where
  isConnected_iff : h.isConnected = true ↔ h.inUse.isSome = true
  settled : ∀ n < h.opened, h.inUse = some n ∨ n ∈ h.closed

theorem tidy_empty : Tidy ⟨none, false, 0, []⟩ where
  isConnected_iff := by simp
  settled := by simp

/-- Who is connected has a pool in use, and every pool is in use or closed or among those that were
given up, each in one way and once. -/
structure Accounted (h : Holdings) (givenUp : List Nat) : Prop where
  inUse_of_isConnected : h.isConnected = true → h.inUse.isSome = true
  perm : (h.inUse.toList ++ h.closed ++ givenUp).Perm (List.range h.opened)

theorem accounted_empty : Accounted ⟨none, false, 0, []⟩ [] where
  inUse_of_isConnected := by simp
  perm := by simp

end Holdings

namespace Pool

/-- What the executor has of its server's pools. -/
def holdings (p : Pool) : Holdings where
  inUse := p.pool
  isConnected := p.isConnected
  opened := p.server.opened
  closed := p.server.closed

/-- Whether a connect would open a pool. -/
def Reaches (p : Pool) : Prop :=
  p.isConnected = false ∧ p.server.Opens

/-- Whether a connect would open a pool and get no answer on it. -/
def Stumbles (p : Pool) : Prop :=
  p.Reaches ∧ ¬ p.server.Answers

instance (p : Pool) : Decidable p.Reaches :=
  inferInstanceAs (Decidable (_ ∧ _))

instance (p : Pool) : Decidable p.Stumbles :=
  inferInstanceAs (Decidable (_ ∧ _))

theorem connect_of_reaches {p : Pool} (reaches : p.Reaches) :
    (p.connect.1 = .ok () ↔ p.server.Answers) ∧
      p.connect.2.holdings =
        { p.holdings with
          inUse := some p.server.opened
          isConnected := decide p.server.Answers
          opened := p.server.opened + 1 } := by
  obtain ⟨apart, opens⟩ := reaches
  obtain ⟨number, opened, closed, answers⟩ := Server.openPool_of_opens opens
  have asked := p.server.openPool.2.query_eq_ok_iff pingQuery []
  obtain ⟨opened', closed'⟩ := p.server.openPool.2.query_keeps pingQuery []
  rw [opened] at opened'
  rw [closed] at closed'
  rw [answers] at asked
  rcases new : p.server.openPool with ⟨result, server⟩
  rw [new] at number asked opened' closed'
  cases number
  rcases asked' : server.query pingQuery [] with ⟨e | ⟨⟩, server'⟩ <;>
    · rw [asked'] at asked opened' closed'
      simpa [connect, apart, new, ping, asked', holdings, closed', ← asked] using opened'

theorem connect_of_not_reaches {p : Pool} (settled : ¬ p.Reaches) :
    (p.connect.1 = .ok () ↔ p.isConnected = true) ∧ p.connect.2.holdings = p.holdings := by
  cases connected : p.isConnected with
  | true => simp [connect, connected]
  | false =>
    obtain ⟨⟨e, failure⟩, opened, closed⟩ :=
      Server.openPool_of_not_opens fun opens => settled ⟨connected, opens⟩
    rcases new : p.server.openPool with ⟨result, server⟩
    rw [new] at failure opened closed
    cases failure
    exact ⟨by simp [connect, connected, new],
      by simpa [connect, connected, new, holdings] using And.intro opened closed⟩

theorem connect_eq_ok_iff (p : Pool) :
    p.connect.1 = .ok () ↔ p.isConnected = true ∨ p.server.Opens ∧ p.server.Answers := by
  by_cases reaches : p.Reaches
  · rw [(connect_of_reaches reaches).1]
    simp [reaches.1, reaches.2]
  · rw [(connect_of_not_reaches reaches).1]
    cases connected : p.isConnected with
    | true => simp
    | false => simpa using fun opens _ => reaches ⟨connected, opens⟩

theorem holdings_disconnect (p : Pool) :
    p.disconnect.2.holdings =
      if p.pool.isSome then
        { p.holdings with
          inUse := none
          isConnected := false
          closed := p.server.closed ++ p.pool.toList }
      else p.holdings := by
  cases used : p.pool with
  | none => simp [disconnect, used]
  | some n =>
    obtain ⟨opened, closed⟩ := p.server.closePool_closes n
    simp [disconnect, used, holdings, opened, closed]

theorem holdings_testConnection (p : Pool) : p.testConnection.2.holdings = p.holdings := by
  cases used : p.pool with
  | none => simp [testConnection, used]
  | some n =>
    obtain ⟨opened, closed⟩ := p.server.query_keeps pingQuery []
    rcases asked : p.server.query pingQuery [] with ⟨e | ⟨⟩, server⟩ <;>
      · rw [asked] at opened closed
        simpa [testConnection, used, ping, asked, holdings] using And.intro opened closed

theorem holdings_execute (p : Pool) (sql : String) (parameters : List Value) :
    (p.execute sql parameters).2.holdings = p.holdings := by
  cases used : p.pool with
  | none => simp [execute, used]
  | some n =>
    obtain ⟨opened, closed⟩ := p.server.query_keeps (numbered sql) parameters
    simpa [execute, used, holdings] using And.intro opened closed

/-! ### Calls and holdings -/

/-- The pool that a call gives up: the one in use where a connect opens another. -/
def givesUp (p : Pool) : ExecutorCall → Option Nat
  | .connect => if p.Reaches then p.pool else none
  | .disconnect | .testConnection | .execute _ _ => none

/-- The pools that calls in order give up. -/
def givenUp (p : Pool) : List ExecutorCall → List Nat
  | [] => []
  | call :: rest => (p.givesUp call).toList ++ (executor.step p call).givenUp rest

theorem accounted_step {p : Pool} {lost : List Nat} (h : p.holdings.Accounted lost)
    (call : ExecutorCall) :
    (executor.step p call).holdings.Accounted (lost ++ (p.givesUp call).toList) := by
  have counts := fun n => h.perm.count_eq n
  simp only [holdings, List.count_append] at counts
  cases call with
  | connect =>
    by_cases reaches : p.Reaches
    · simp only [Executor.step, executor, (connect_of_reaches reaches).2, givesUp, if_pos reaches]
      refine ⟨fun _ => rfl, List.perm_iff_count.2 fun n => ?_⟩
      simp only [holdings, List.range_succ, List.count_append, ← counts, Option.toList_some]
      omega
    · simp only [Executor.step, executor, (connect_of_not_reaches reaches).2, givesUp,
        if_neg reaches]
      simpa using h
  | disconnect =>
    simp only [Executor.step, executor, holdings_disconnect, givesUp]
    split_ifs
    · refine ⟨fun connected => by simp at connected, List.perm_iff_count.2 fun n => ?_⟩
      simp only [holdings, List.count_append, ← counts, Option.toList_none, List.count_nil]
      omega
    · simpa using h
  | testConnection => simpa [Executor.step, executor, holdings_testConnection, givesUp] using h
  | execute sql parameters => simpa [Executor.step, executor, holdings_execute, givesUp] using h

theorem accounted_after {p : Pool} {lost : List Nat} (h : p.holdings.Accounted lost)
    (calls : List ExecutorCall) :
    (executor.after p calls).holdings.Accounted (lost ++ p.givenUp calls) := by
  induction calls generalizing p lost with
  | nil => simpa [Executor.after, givenUp] using h
  | cons call rest ih =>
    rw [givenUp, ← List.append_assoc]
    exact ih (accounted_step h call)

theorem tidy_step {p : Pool} (h : p.holdings.Tidy) {call : ExecutorCall}
    (sound : call = .connect → ¬ p.Stumbles) : (executor.step p call).holdings.Tidy := by
  cases call with
  | connect =>
    by_cases reaches : p.Reaches
    · have answers : p.server.Answers := by_contra fun silent => sound rfl ⟨reaches, silent⟩
      have unused : p.pool = none := by
        simpa [holdings, reaches.1] using h.isConnected_iff
      simp only [Executor.step, executor, (connect_of_reaches reaches).2]
      refine ⟨by simp [answers], fun n bound => ?_⟩
      rcases Nat.lt_succ_iff_lt_or_eq.1 bound with older | rfl
      · exact .inr <| (h.settled n older).resolve_left (by simp [holdings, unused])
      · exact .inl rfl
    · simpa only [Executor.step, executor, (connect_of_not_reaches reaches).2] using h
  | disconnect =>
    simp only [Executor.step, executor, holdings_disconnect]
    split_ifs
    · refine ⟨by simp, fun n bound => .inr ?_⟩
      rcases h.settled n bound with used | closed
      · exact List.mem_append_right _ (Option.mem_toList.2 used)
      · exact List.mem_append_left _ closed
    · exact h
  | testConnection => simpa only [Executor.step, executor, holdings_testConnection] using h
  | execute sql parameters => simpa only [Executor.step, executor, holdings_execute] using h

theorem not_tidy_of_stumbles {p : Pool} (stumbles : p.Stumbles) :
    ¬ (executor.step p .connect).holdings.Tidy := by
  intro tidy
  have := tidy.isConnected_iff
  simp [Executor.step, executor, (connect_of_reaches stumbles.1).2, stumbles.2] at this

theorem tidy_after_iff {p : Pool} (h : p.holdings.Tidy) (calls : List ExecutorCall) :
    (∀ earlier later, calls = earlier ++ later → (executor.after p earlier).holdings.Tidy) ↔
      ∀ earlier later, calls = earlier ++ .connect :: later →
        ¬ (executor.after p earlier).Stumbles := by
  constructor
  · intro tidy earlier later split stumbles
    refine not_tidy_of_stumbles stumbles ?_
    have behind := tidy (earlier ++ [.connect]) later (by simpa using split)
    rwa [Executor.after_append] at behind
  · intro sound earlier
    induction earlier using List.reverseRecOn with
    | nil => exact fun _ _ => h
    | append_singleton earlier call ih =>
      intro later split
      rw [List.append_assoc, List.singleton_append] at split
      rw [Executor.after_append]
      refine tidy_step (ih _ split) ?_
      rintro rfl
      exact sound earlier later split

/-- A connect that fails leaves the pool in place that it opened, or else what was there before. -/
theorem pool_connect_of_error {p : Pool} {e : Failure} (failed : p.connect.1 = .error e) :
    p.connect.2.pool = if p.Stumbles then some p.server.opened else p.pool := by
  have refused : ¬ p.connect.1 = .ok () := by simp [failed]
  by_cases reaches : p.Reaches
  · obtain ⟨ok, kept⟩ := connect_of_reaches reaches
    rw [if_pos ⟨reaches, mt ok.2 refused⟩]
    exact congrArg Holdings.inUse kept
  · rw [if_neg fun stumbles => reaches stumbles.1]
    exact congrArg Holdings.inUse (connect_of_not_reaches reaches).2

theorem holdings_of_create {address : Value} {options : PoolOptions} {server : Server} {p : Pool}
    (created : create address options server = .ok p) :
    p.holdings = ⟨none, false, server.opened, server.closed⟩ := by
  unfold create at created
  split at created
  · split_ifs at created
    cases created
    rfl
  · cases created

end Pool

/-- Every pool that was opened is in use, or closed, or given up, in one of these ways and once.
The executor is tidy behind every call just if no connect opens a pool that gives no answer: then
the connect fails and leaves that pool in place, which the next one gives up. -/
theorem pools_accounted {address : Value} {options : PoolOptions} {server : Server} {p : Pool}
    (created : Pool.create address options server = .ok p) (opened : server.opened = 0)
    (uncalled : server.calls = []) (calls : List ExecutorCall) :
    let q := Pool.executor.after p calls
    q.holdings.Accounted (p.givenUp calls) ∧
    ((∀ earlier later, calls = earlier ++ later →
        (Pool.executor.after p earlier).holdings.Tidy) ↔
      ∀ earlier later, calls = earlier ++ .connect :: later →
        ¬ (Pool.executor.after p earlier).Stumbles) ∧
    ∀ e, q.connect.1 = .error e →
      q.connect.2.pool = if q.Stumbles then some q.server.opened else q.pool := by
  intro q
  have holdings : p.holdings = ⟨none, false, 0, []⟩ := by
    rw [Pool.holdings_of_create created, opened, Server.closed, uncalled]
    rfl
  have accounted : p.holdings.Accounted [] := holdings ▸ Holdings.accounted_empty
  have tidy : p.holdings.Tidy := holdings ▸ Holdings.tidy_empty
  exact ⟨Pool.accounted_after accounted calls, Pool.tidy_after_iff tidy calls,
    fun e => Pool.pool_connect_of_error⟩

namespace Orders

/-- A server that has no connection for the first query. -/
def server : Server where
  acquireFailures := [some (.ofKind .system)]

/-- An executor on the database of the orders. -/
def pool : Pool where
  address := "postgresql://localhost/orders"
  options := Destination.poolOptions {}
  server := server

end Orders

/-- The first of two pools is given up. -/
theorem pools_accounted_orders :
    let calls := [ExecutorCall.connect, .connect, .disconnect]
    Pool.create (.text "postgresql://localhost/orders") (Destination.poolOptions {}) Orders.server =
      .ok Orders.pool ∧ Orders.server.opened = 0 ∧ Orders.server.calls = [] ∧
    (Pool.executor.after Orders.pool calls).holdings.Accounted [0] := by
  intro calls
  have created : Pool.create (.text "postgresql://localhost/orders") (Destination.poolOptions {})
      Orders.server = .ok Orders.pool := rfl
  exact ⟨created, rfl, rfl, (pools_accounted created rfl rfl calls).1⟩

/-- A connect without an answer leaves a pool in place, which nothing closes once another connect
has opened a second one. -/
theorem pools_not_tidy :
    Pool.create (.text "postgresql://localhost/orders") (Destination.poolOptions {}) Orders.server =
      .ok Orders.pool ∧
    Orders.pool.connect.1 = .error (.ofKind .system) ∧
    Orders.pool.connect.2.holdings = ⟨some 0, false, 1, []⟩ ∧
    ¬ Orders.pool.connect.2.holdings.Tidy ∧
    (Pool.executor.after Orders.pool [.connect, .connect, .disconnect]).holdings =
      ⟨none, false, 2, [1]⟩ ∧
    ¬ (Pool.executor.after Orders.pool [.connect, .connect, .disconnect]).holdings.Tidy := by
  refine ⟨rfl, rfl, rfl, fun tidy => ?_, rfl, fun tidy => ?_⟩
  · exact Bool.false_ne_true (tidy.isConnected_iff.2 rfl)
  · exact absurd (tidy.settled 0 (by decide)) (by decide)

end Changefeed
