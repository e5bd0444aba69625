import Changefeed.Executor.Pool
import Changefeed.Proofs.Sink.Execution
import Changefeed.Proofs.Statement.Numbered

/-!
# Dry runs are faithful

A dry run keeps the statements that a server would be asked to execute.  On a pool whose server
never fails, a run takes the same course as the dry run, and the queries that reach the server are
the statements kept, with their placeholders numbered (`run_dryRun_faithful`).
-/

namespace Changefeed

theorem Schedule.next_of_none {s : Schedule} (h : ∀ failure ∈ s, failure = none) :
    (Schedule.next s).1 = none ∧ ∀ failure ∈ (Schedule.next s).2, failure = none := by
  cases s with
  | nil => exact ⟨rfl, h⟩
  | cons failure rest => exact List.forall_mem_cons.1 h

/-- There is a pool in use, whose server never fails to run a query. -/
structure Pool.Serves (p : Pool) : Prop where
  inUse : p.pool.isSome
  acquires : ∀ failure ∈ p.server.acquireFailures, failure = none
  answers : ∀ failure ∈ p.server.queryFailures, failure = none

/-- The call of a server for a statement that was kept. -/
def Recorded.call (r : Recorded) : ServerCall :=
  .query (numbered r.sql) r.parameters

theorem Pool.Serves.execute {p : Pool} (h : p.Serves) (sql : String) (parameters : List Value) :
    (p.execute sql parameters).1 = .ok () ∧ (p.execute sql parameters).2.Serves ∧
      (p.execute sql parameters).2.server.calls =
        p.server.calls ++ [Recorded.call ⟨sql, parameters⟩] := by
  obtain ⟨acquired, acquires⟩ := Schedule.next_of_none h.acquires
  obtain ⟨answered, answers⟩ := Schedule.next_of_none h.answers
  obtain ⟨n, inUse⟩ := Option.isSome_iff_exists.1 h.inUse
  simp only [Pool.execute, inUse, Server.query, acquired, answered]
  exact ⟨trivial, ⟨inUse ▸ h.inUse, acquires, answers⟩, rfl⟩

namespace DryRun

/-- Since a dry run had kept `old` and a server had got `calls`, the server has got the statements
that were kept, which are bound; it has not failed and is not going to. -/
structure Rehearses (old : List Recorded) (calls : List ServerCall) (d : DryRun) (p : Pool) :
    Prop where
  serves : p.Serves
  same : ∃ later, d.statements = old ++ later ∧
    p.server.calls = calls ++ later.map Recorded.call ∧
    ∀ r ∈ later, placeholderCount r.sql = r.parameters.length

theorem simulates (old : List Recorded) (calls : List ServerCall) :
    Pool.executor.Simulates executor (Rehearses old calls) := by
  rintro d p sql parameters ⟨serves, later, kept, asked, bound⟩ count
  obtain ⟨done, serves', calls'⟩ := serves.execute sql parameters
  refine ⟨done, serves', later ++ [⟨sql, parameters⟩], ?_, ?_, ?_⟩
  · rw [← List.append_assoc, ← kept]
    rfl
  · rw [List.map_append, ← List.append_assoc, ← asked]
    exact calls'
  · exact List.forall_mem_append.2 ⟨bound, List.forall_mem_singleton.2 count⟩

end DryRun

/-- A run on a pool whose server never fails is the dry run: it ends the same way and leaves the
same sink but for the executor, and what it asks of the server are the statements that the dry run
keeps, each with its placeholders numbered and with its values. -/
theorem run_dryRun_faithful (s : Sink DryRun) (p : Pool) (serves : p.Serves)
    (records : List Record) :
    let dry := s.run DryRun.executor records
    let live := (s.on p).run Pool.executor records
    live.1 = dry.1 ∧ live.2 = dry.2.on live.2.executor ∧
      ∃ later : List Recorded, dry.2.executor.statements = s.executor.statements ++ later ∧
        live.2.executor.server.calls = p.server.calls ++
          later.map (fun r => .query (numbered r.sql) r.parameters) ∧
        ∀ r ∈ later, Numbers r.parameters.length r.sql (numbered r.sql) := by
  intro dry live
  have start : DryRun.Rehearses s.executor.statements p.server.calls s.executor p :=
    ⟨serves, [], by simp, by simp, by simp⟩
  obtain ⟨p', same, -, later, kept, asked, bound⟩ :=
    Sink.run_on (DryRun.simulates _ _) start records
  have same : live = (dry.1, dry.2.on p') := same
  rw [same]
  refine ⟨rfl, rfl, later, kept, asked, fun r hr => ?_⟩
  rw [← bound r hr]
  exact numbers_numbered r.sql

/-- On a pool that has just been opened, the second of three records fails in both runs. -/
theorem run_dryRun_faithful_orders :
    let s : Sink DryRun := .create Iso.reader {} {} none
    let p := (Pool.connect { address := "db", options := default }).2
    let records := [Orders.arrival "db.orders" "u" [("id", .int 1)],
      Orders.arrival "db.no-name" "c" [("id", .int 2)],
      Orders.arrival "db.orders" "d" [("id", .null)]]
    p.isConnected ∧ p.Serves ∧
      (s.run DryRun.executor records).1.toOption = some ⟨3, 2, 0, 1⟩ ∧
      ((s.on p).run Pool.executor records).1 = (s.run DryRun.executor records).1 ∧
      ∃ later : List Recorded,
        later.map (fun r => (r.sql, numbered r.sql, r.parameters.length)) =
          [("UPDATE orders SET id = ? WHERE id = ?", "UPDATE orders SET id = $1 WHERE id = $2", 2),
            ("DELETE FROM orders WHERE id IS NULL", "DELETE FROM orders WHERE id IS NULL", 0)] ∧
        ((s.on p).run Pool.executor records).2.executor.server.calls =
          p.server.calls ++ later.map (fun r => .query (numbered r.sql) r.parameters) := by
  intro s p records
  have serves : p.Serves := ⟨rfl, by decide, by decide⟩
  obtain ⟨same, -, later, kept, asked, -⟩ := run_dryRun_faithful s p serves records
  have kept : later = (s.run DryRun.executor records).2.executor.statements := kept.symm
  refine ⟨rfl, serves, by decide +kernel, same, later, ?_, asked⟩
  rw [kept]
  decide +kernel

end Changefeed
