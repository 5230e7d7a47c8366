import PgDoorman.Lru
import PgDoorman.Transition.Run

/-!
# A server connection's prepared statements

A server connection keeps track of the prepared statements it has created on its PostgreSQL
backend, all named `DOORMAN_n`. Four pieces of state do it, each updated at its own moment:

* the LRU `prepared_statement_cache` of names, which `has_prepared_statement` consults, together
  with `deferred_eviction_closes`, the names evicted from it in the current batch whose Close
  waits until the batch has been sent;
* `registering_prepared_statement`, the queue of names registered but not yet confirmed: a
  ParseComplete pops its head, an ErrorResponse rolls every name in it back out of the LRU;
* `has_pending_cache_entries`, set when a name is registered while its Parse waits unsent in the
  client's buffer, so that `checkin_cleanup` knows to `DEALLOCATE ALL` if it never goes out.

A client's Parse is registered without being sent, and its frame waits in the client's buffer
until Sync. A Bind or Describe of a statement the client prepared before makes sure the server
has it (`ensure_prepared_statement_is_on_server`); if it does not, `register_prepared_statement`
sends that Parse at once with a Sync of its own and reads the answers, while the buffer still
waits.

## The model

The server connection's bookkeeping (`Server σ`, whose LRU is a state `σ` of any `LruCache`),
the client's buffer, and PostgreSQL's side (`Postgres`): the names it holds, whether it is skipping frames after an error until the next
Sync, and, as a record kept for the statement of soundness, the statements it was asked to use
after pg_doorman had vouched for them and did not hold. A Parse frame carries whether PostgreSQL
accepts its query, an Execute what its statement does. A Sync runs the whole exchange: every
frame of the buffer answered in order, every answer read by `recv`, then the deferred Closes.

## Main definitions

* `Postgres.process`: PostgreSQL's answer to one frame
* `Server.recv`: the handlers of `recv` for those answers
* `Server.registerPreparedStatement`, `Session.step`: the client's messages
-/

namespace PgDoorman.Backend

open Transition Lru

/-! ## PostgreSQL's side -/

/-- What the statement of an Execute does to the prepared statements. -/
inductive ExecuteEffect where
  /-- It runs and leaves them alone. -/
  | ok
  /-- It raises an error. -/
  | fails
  /-- It is `DEALLOCATE ALL`. -/
  | deallocateAll
  /-- It is `DISCARD ALL`. -/
  | discardAll
  deriving Repr, DecidableEq

/-- A Bind or a Describe of a statement. -/
inductive Reference where
  | bind
  | describe
  deriving Repr, DecidableEq

/-- A frame pg_doorman writes to PostgreSQL. A Parse carries whether PostgreSQL accepts its
query; a Bind or Describe whether pg_doorman vouched for the statement, that is whether
`has_prepared_statement` held when the frame was forwarded. -/
inductive Frame where
  | parse (name : String) (accepted : Bool)
  | reference (kind : Reference) (name : String) (vouched : Bool)
  | execute (effect : ExecuteEffect)
  | close (name : String)
  | sync
  deriving Repr, DecidableEq

/-- The CommandComplete tags the bookkeeping tells apart. -/
inductive CommandTag where
  | deallocateAll
  | discardAll
  | other
  deriving Repr, DecidableEq

/-- The backend messages the bookkeeping reads; a Describe's RowDescription changes nothing and
is left out. -/
inductive BackendMessage where
  | parseComplete
  | bindComplete
  | parameterDescription
  | commandComplete (tag : CommandTag)
  | closeComplete
  | errorResponse
  | readyForQuery
  deriving Repr, DecidableEq

/-- The first answer to a Bind or a Describe of a statement. -/
def Reference.response : Reference → BackendMessage
  | .bind => .bindComplete
  | .describe => .parameterDescription

/-- PostgreSQL's side of the session: the names of its prepared statements, whether it is
skipping frames after an error, and the vouched-for references it could not serve. -/
structure Postgres where
  prepared : List String
  aborted : Bool
  danglingReferences : List String
  deriving Repr, DecidableEq

namespace Postgres

/-- What an Execute does, and its answer. -/
def executeStatement (pg : Postgres) : ExecuteEffect → Postgres × List BackendMessage
  | .ok => (pg, [.commandComplete .other])
  | .fails => ({ pg with aborted := true }, [.errorResponse])
  | .deallocateAll => ({ pg with prepared := [] }, [.commandComplete .deallocateAll])
  | .discardAll => ({ pg with prepared := [] }, [.commandComplete .discardAll])

/-- A frame outside an aborted stretch. A Parse of a name already held is an error, as is a
reference to a name not held. -/
def serve (pg : Postgres) : Frame → Postgres × List BackendMessage
  | .parse name accepted =>
    if accepted ∧ name ∉ pg.prepared then ({ pg with prepared := name :: pg.prepared }, [.parseComplete])
    else ({ pg with aborted := true }, [.errorResponse])
  | .reference kind name vouched =>
    if name ∈ pg.prepared then (pg, [kind.response])
    else
      ({ pg with
        aborted := true
        danglingReferences := if vouched then pg.danglingReferences ++ [name]
          else pg.danglingReferences }, [.errorResponse])
  | .execute effect => pg.executeStatement effect
  | .close name => ({ pg with prepared := pg.prepared.erase name }, [.closeComplete])
  | .sync => ({ pg with aborted := false }, [.readyForQuery])

/-- PostgreSQL's answer to a frame: after an error, everything up to the next Sync is skipped. -/
def process (pg : Postgres) (f : Frame) : Postgres × List BackendMessage :=
  if pg.aborted ∧ f ≠ .sync then (pg, []) else pg.serve f

end Postgres

/-! ## The server connection's bookkeeping -/

/-- The bookkeeping of a `Server`: `prepared_statement_cache`, `deferred_eviction_closes`,
`registering_prepared_statement`, `has_pending_cache_entries`, and of `cleanup_state` the
`needs_cleanup_prepare` flag; its other flags only decide whether the checkin query runs at all,
not whether it deallocates. The LRU is a state `σ` of the `lru` crate's cache. -/
structure Server (σ : Type) where
  preparedStatementCache : σ
  deferredEvictionCloses : List String
  registeringPreparedStatement : List String
  hasPendingCacheEntries : Bool
  needsCleanupPrepare : Bool

section Bookkeeping

variable {σ : Type} [LruCache σ String]

namespace Server

/-- `has_prepared_statement`: a deferred Close still to send, or a name in the LRU, which `get`
promotes. -/
def hasPreparedStatement (s : Server σ) (name : String) : Bool × Server σ :=
  if name ∈ s.deferredEvictionCloses then (true, s)
  else
    let r := LruCache.get s.preparedStatementCache name
    (r.1, { s with preparedStatementCache := r.2 })

/-- `add_prepared_statement_to_cache`: `push`, and the name it evicted, unless that is the name
itself. -/
def addPreparedStatementToCache (s : Server σ) (name : String) : Option String × Server σ :=
  let r := LruCache.push s.preparedStatementCache name
  (r.1.filter (· ≠ name), { s with preparedStatementCache := r.2 })

/-- `remove_prepared_statement_from_cache`: `pop`. -/
def removePreparedStatementFromCache (s : Server σ) (name : String) : Server σ :=
  { s with preparedStatementCache := LruCache.pop s.preparedStatementCache name }

/-- `handle_error_response`, its part in the bookkeeping: the cleanup flag is armed, and every
name in the registering queue is rolled back out of the LRU. -/
def handleErrorResponse (s : Server σ) : Server σ :=
  let s := { s with needsCleanupPrepare := true }
  if s.registeringPreparedStatement = [] then s
  else
    { s.registeringPreparedStatement.foldl removePreparedStatementFromCache s with
      registeringPreparedStatement := []
      hasPendingCacheEntries := false }

/-- `drop_prepared_statement_cache_on_reset`. -/
def dropPreparedStatementCacheOnReset (s : Server σ) : Server σ :=
  { s with
    registeringPreparedStatement := []
    preparedStatementCache := LruCache.clear s.preparedStatementCache }

/-- The handlers of `recv`, for the answers the bookkeeping reads. A ParseComplete pops the head
of the registering queue, whichever Parse it answers. -/
def recv (s : Server σ) : BackendMessage → Server σ
  | .parseComplete =>
    { s with registeringPreparedStatement := s.registeringPreparedStatement.tail }
  | .errorResponse => s.handleErrorResponse
  | .commandComplete .deallocateAll =>
    { s with needsCleanupPrepare := false }.dropPreparedStatementCacheOnReset
  | .commandComplete .discardAll =>
    { s with needsCleanupPrepare := false }.dropPreparedStatementCacheOnReset
  | _ => s

end Server

/-- Frames sent to PostgreSQL, each answered in turn and each answer read by `recv`. -/
def exchange (s : Server σ) (pg : Postgres) : List Frame → Server σ × Postgres
  | [] => (s, pg)
  | f :: fs =>
    let r := pg.process f
    exchange (r.2.foldl Server.recv s) r.1 fs

namespace Server

/-- The registration of a name the server does not have: queued as registering, marked pending
if its Parse waits in the client's buffer, pushed into the LRU, and the name that push evicted
taken out of it and deferred. -/
def registerNew (s : Server σ) (name : String) (shouldSendParseToServer : Bool) : Server σ :=
  let s := { s with
    registeringPreparedStatement := s.registeringPreparedStatement ++ [name]
    hasPendingCacheEntries := s.hasPendingCacheEntries || !shouldSendParseToServer }
  let added := s.addPreparedStatementToCache name
  match added.1 with
  | some evictedName =>
    { added.2.removePreparedStatementFromCache evictedName with
      deferredEvictionCloses := added.2.deferredEvictionCloses ++ [evictedName] }
  | none => added.2

/-- `Server::register_prepared_statement(parse, server_name, should_send_parse_to_server)`: with
`should_send_parse_to_server` the Parse goes out at once with a Sync of its own and the answers
are read. The result is whether it returned `Ok`: whether the server has the name afterwards. -/
def registerPreparedStatement (s : Server σ) (pg : Postgres) (name : String) (accepted : Bool)
    (shouldSendParseToServer : Bool) : Bool × Server σ × Postgres :=
  let has := s.hasPreparedStatement name
  let sent : Server σ × Postgres :=
    if has.1 then (has.2, pg)
    else if shouldSendParseToServer then
      exchange (has.2.registerNew name true) pg [.parse name accepted, .sync]
    else (has.2.registerNew name false, pg)
  let final := sent.1.hasPreparedStatement name
  (final.1, final.2, sent.2)

/-- `send_deferred_eviction_closes`: a Close for every deferred name, and a Sync. -/
def sendDeferredEvictionCloses (s : Server σ) (pg : Postgres) : Server σ × Postgres :=
  if s.deferredEvictionCloses = [] then (s, pg)
  else
    exchange { s with deferredEvictionCloses := [] } pg
      (s.deferredEvictionCloses.map .close ++ [.sync])

end Server

end Bookkeeping

/-! ## The session: the client's messages -/

/-- A server connection, its PostgreSQL backend, and the client's buffer of frames not yet
sent. -/
structure Session (σ : Type) where
  server : Server σ
  postgres : Postgres
  buffer : List Frame

/-- What a client sends, as the server connection sees it. A Parse or a reference carries the
server-side name the pool cache gave its statement and whether PostgreSQL accepts its query; a
Close names whatever the client chose; `checkin` returns the server to the pool, with the buffer
dropped if the client disconnected before Sync. -/
inductive ClientMessage where
  | parse (name : String) (accepted : Bool)
  | reference (kind : Reference) (name : String) (accepted : Bool)
  | execute (effect : ExecuteEffect)
  | close (name : String)
  | sync
  | checkin
  deriving Repr, DecidableEq

section Client

variable {σ : Type} [LruCache σ String]

/-- A fresh server connection whose LRU holds `cap` names. -/
def Session.init (cap : Nat) (h : 0 < cap) : Session σ :=
  ⟨⟨LruCache.new cap h, [], [], false, false⟩, ⟨[], false, []⟩, []⟩

namespace Session

/-- `process_parse_immediate` for a Parse the pool cache named `name`: a statement the server
has is skipped, with a synthetic ParseComplete for the client; another is registered without
being sent, and its Parse waits in the buffer. -/
def processParse (s : Session σ) (name : String) (accepted : Bool) : Session σ :=
  let has := s.server.hasPreparedStatement name
  if has.1 then { s with server := has.2 }
  else
    let r := has.2.registerPreparedStatement s.postgres name accepted false
    -- an `Err` from the registration returns before the Parse is buffered
    { s with
      server := r.2.1
      postgres := r.2.2
      buffer := if r.1 then s.buffer ++ [.parse name accepted] else s.buffer }

/-- `process_bind_immediate` or `process_describe_immediate` for a statement in the client's
cache: `ensure_prepared_statement_is_on_server`, whose `PreparedStatementError` is only logged,
then the frame is buffered. -/
def processReference (s : Session σ) (kind : Reference) (name : String) (accepted : Bool) :
    Session σ :=
  let r := s.server.registerPreparedStatement s.postgres name accepted true
  { s with server := r.2.1, postgres := r.2.2, buffer := s.buffer ++ [.reference kind name r.1] }

/-- A Sync: the buffer and the Sync go out (`execute_server_roundtrip`), then the deferred
Closes, then `has_pending_cache_entries` is cleared. -/
def flush (s : Session σ) : Session σ :=
  let sent := exchange s.server s.postgres (s.buffer ++ [.sync])
  let closed := sent.1.sendDeferredEvictionCloses sent.2
  ⟨{ closed.1 with hasPendingCacheEntries := false }, closed.2, []⟩

/-- `checkin_cleanup`, the buffer of a client that left before Sync being dropped. Pending
registrations or deferred Closes arm the cleanup; with `cleanup_server_connections` it runs the
checkin query, whose `DEALLOCATE ALL` PostgreSQL answers like any other. -/
def checkin (cleanupServerConnections : Bool) (s : Session σ) : Session σ :=
  let srv := if s.server.hasPendingCacheEntries then
      { s.server with needsCleanupPrepare := true, hasPendingCacheEntries := false }
    else s.server
  let srv := if srv.deferredEvictionCloses = [] then srv
    else { srv with needsCleanupPrepare := true, deferredEvictionCloses := [] }
  if srv.needsCleanupPrepare ∧ cleanupServerConnections then
    let reset := exchange srv s.postgres [.execute .deallocateAll, .sync]
    let srv := if reset.1.needsCleanupPrepare then reset.1.dropPreparedStatementCacheOnReset
      else reset.1
    ⟨{ srv with needsCleanupPrepare := false }, reset.2, []⟩
  else ⟨srv, s.postgres, []⟩

/-- One client message, with the pool's `cleanup_server_connections`. -/
def step (cleanupServerConnections : Bool) (s : Session σ) : ClientMessage → Option (Session σ)
  | .parse name accepted => some (s.processParse name accepted)
  | .reference kind name accepted => some (s.processReference kind name accepted)
  | .execute effect => some { s with buffer := s.buffer ++ [.execute effect] }
  | .close name => some { s with buffer := s.buffer ++ [.close name] }
  | .sync => some s.flush
  | .checkin => some (s.checkin cleanupServerConnections)

end Session

end Client

/-! ## A ParseComplete confirms the wrong name -/

/-- Two batches on one server connection. In the first, a Parse of `DOORMAN_1`, whose query
PostgreSQL rejects, waits in the buffer while a Bind of `DOORMAN_0`, a statement the client
prepared on another connection, sends its own Parse at once; its ParseComplete pops `DOORMAN_1`,
the head of the registering queue. In the second, the client parses and binds `DOORMAN_1`
again. -/
def misconfirmedParseTrace : List ClientMessage :=
  [.parse "DOORMAN_1" false, .reference .bind "DOORMAN_0" true, .sync,
   .parse "DOORMAN_1" false, .reference .bind "DOORMAN_1" false, .sync]

/-- **A Bind pg_doorman vouched for finds no statement.** The first Sync's ErrorResponse, for
the rejected Parse of `DOORMAN_1`, rolls back what the registering queue still holds, which is
`DOORMAN_0`, and `DOORMAN_1` stays in the LRU. In the second batch `has_prepared_statement`
holds for `DOORMAN_1`: its Parse is skipped and its Bind forwarded, and PostgreSQL does not have
it. -/
theorem vouched_bind_finds_no_statement :
    ∃ s, Reachable (Session.step true) (Session.init 2 (by decide) : Session (Lru.Cache String)) s ∧
      s.postgres.danglingReferences = ["DOORMAN_1"] :=
  exists_reachable_of_run misconfirmedParseTrace (by decide)

end PgDoorman.Backend
