import Changefeed.Executor.Basic
import Changefeed.Statement.Numbered

/-!
# Pooled connections

An executor on a pool of connections to a database server.  A `Pool` keeps the pool that is in use
and what was asked of the server; the failures of the server are given as schedules, of which each
call takes the next entry.
-/

namespace Changefeed

/-- The settings of a pool, as they are handed to the server. -/
structure PoolOptions where
  minSize : Value
  maxSize : Value
  timeout : Value
  commandTimeout : Value
deriving BEq, Repr, Inhabited

/-- A call of the server. -/
inductive ServerCall where
  /-- A pool is opened, whether or not that succeeds. -/
  | opening
  | query (sql : String) (parameters : List Value)
  | close (pool : Nat)
deriving BEq, Repr, Inhabited

/-- The failures that are to come; `none` stands for a call that succeeds, and so does the end. -/
abbrev Schedule := List (Option Failure)

/-- The next failure of a schedule, and the rest. -/
def Schedule.next : Schedule → Option Failure × Schedule
  | [] => (none, [])
  | e :: rest => (e, rest)

/-- A database server as an executor meets it. -/
structure Server where
  calls : List ServerCall := []
  /-- The number of pools that were opened. -/
  opened : Nat := 0
  openFailures : Schedule := []
  acquireFailures : Schedule := []
  queryFailures : Schedule := []
  closeFailures : Schedule := []
deriving Inhabited

namespace Server

/-- Opens a pool, which gets the next number. -/
def openPool (s : Server) : Outcome Server Nat :=
  let (failure, rest) := Schedule.next s.openFailures
  let s := { s with calls := s.calls ++ [.opening], openFailures := rest }
  match failure with
  | some e => (.error e, s)
  | none => (.ok s.opened, { s with opened := s.opened + 1 })

/-- Runs a query on a connection of a pool. -/
def query (sql : String) (parameters : List Value) (s : Server) : Outcome Server Unit :=
  let (failure, rest) := Schedule.next s.acquireFailures
  let s := { s with acquireFailures := rest }
  match failure with
  | some e => (.error e, s)
  | none =>
    let (failure, rest) := Schedule.next s.queryFailures
    let s := { s with calls := s.calls ++ [.query sql parameters], queryFailures := rest }
    match failure with
    | some e => (.error e, s)
    | none => (.ok (), s)

/-- Closes a pool. -/
def closePool (pool : Nat) (s : Server) : Outcome Server Unit :=
  let (failure, rest) := Schedule.next s.closeFailures
  let s := { s with calls := s.calls ++ [.close pool], closeFailures := rest }
  match failure with
  | some e => (.error e, s)
  | none => (.ok (), s)

end Server

/-- An executor on a pool: the address of the database, the settings, the number of the pool in
use, and the server. -/
structure Pool where
  address : String
  options : PoolOptions
  pool : Option Nat := none
  isConnected : Bool := false
  server : Server := {}
deriving Inhabited

namespace Pool

/-- The query that shows whether the server answers. -/
def pingQuery : String := "SELECT 1"

/-- An executor for a database; it needs an address. -/
def create (address : Value) (options : PoolOptions) (server : Server) : Except Failure Pool :=
  match address with
  | .text s =>
    if s.isEmpty then
      .error (.fault ⟨.invalidValue, some "connection_string is required for PostgreSQL"⟩)
    else .ok { address := s, options, server }
  | _ => .error (.fault ⟨.invalidValue, some "connection_string is required for PostgreSQL"⟩)

/-- Asks the server for an answer. -/
def ping (p : Pool) : Outcome Pool Unit :=
  let (result, server) := p.server.query pingQuery []
  (result, { p with server })

/-- Opens a pool, unless connected, and asks the server for an answer.  A pool that gives none
stays in place. -/
def connect (p : Pool) : Outcome Pool Unit :=
  if p.isConnected then (.ok (), p)
  else
    match p.server.openPool with
    | (.error e, server) => (.error e, { p with server })
    | (.ok n, server) =>
      match ping { p with pool := some n, server } with
      | (.error e, p) => (.error e, p)
      | (.ok (), p) => (.ok (), { p with isConnected := true })

/-- Closes the pool in use. -/
def disconnect (p : Pool) : Outcome Pool Unit :=
  match p.pool with
  | none => (.ok (), p)
  | some n =>
    let (result, server) := p.server.closePool n
    (result, { p with pool := none, isConnected := false, server })

/-- The failures that a test of the connection reports as an answer: those of the server and of the
system, of which a missing file is one. -/
def isOutage : Failure → Bool
  | .fault f => f.kind = .system || f.kind = .fileNotFound || f.kind = .server
  | _ => false

/-- Whether the server answers.  Failures of other kinds than an outage are passed on. -/
def testConnection (p : Pool) : Outcome Pool Bool :=
  match p.pool with
  | none => (.ok false, p)
  | some _ =>
    match p.ping with
    | (.ok (), p) => (.ok true, p)
    | (.error e, p) => (if isOutage e then .ok false else .error e, p)

/-- Runs a statement with its placeholders numbered. -/
def execute (sql : String) (parameters : List Value) (p : Pool) : Outcome Pool Unit :=
  match p.pool with
  | none =>
    (.error (.fault
      ⟨.runtime, some "Connection pool not initialized. Call connect() first."⟩), p)
  | some _ =>
    let (result, server) := p.server.query (numbered sql) parameters
    (result, { p with server })

/-- The executor on a pool. -/
def executor : Executor Pool where
  connect := connect
  disconnect := disconnect
  testConnection := testConnection
  execute := execute
  isConnected := Pool.isConnected

end Pool
end Changefeed
