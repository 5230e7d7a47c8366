import PgDoorman.Client.BatchHandling

/-!
# Session state cleanup at checkin

A server connection goes back to the pool after every client, and the next client must not
inherit what the last one did to the session: the settings it changed, the cursors it left
open. Rather than reset every connection, pg_doorman watches the CommandComplete tags that
`recv` reads: a `SET` arms `needs_cleanup_set`, a `DECLARE CURSOR` arms
`needs_cleanup_declare`, and a `RESET`, `CLOSE CURSOR ALL`, `DEALLOCATE ALL` or `DISCARD ALL`
disarms the flags it makes redundant. At checkin, `checkin_cleanup` sends
`RESET ROLE;` followed by `RESET ALL;`, `DEALLOCATE ALL;` and `CLOSE ALL;` for the flags that
are armed, and only when one is.

## The model

The server connection (`Server`) keeps the fields the handlers of `recv` and
`checkin_cleanup` read and write. PostgreSQL's side (`Postgres`) is the part of the session the
cleanup is for: the settings changed from their defaults and the open cursors; `RESET ALL`
leaves the role and the session authorization alone, which is why the checkin query starts
with `RESET ROLE`. A client sends one statement a query; PostgreSQL answers each with its
messages and a ReadyForQuery, and the server connection reads them with `recv` until no data
is left. Explicit transactions are not modelled: every answer ends idle.

The flags are a bound from above, `Covers`: a changed setting arms `needs_cleanup_set`, an open
cursor `needs_cleanup_declare`. Every statement whose tag says what it did keeps the bound, and
a checkin from a bound state leaves a clean session. Two statements break it: a `RESET` of one
setting disarms the flag while other settings stay changed, and a `RESET ALL` disarms it while
the role stays changed.

## Main definitions

* `classifyCommandComplete`, `handleCommandComplete`, `handleErrorResponse`,
  `handleReadyForQuery`: the handlers of `recv`
* `recvWhileDataAvailable`: `recv`, called again while data is available
* `checkinCleanup`: `checkin_cleanup`
* `Postgres.simpleQuery`: PostgreSQL's answer to a simple query
* `Covers`, `Quiescent`: the flags bound the session; the connection is between queries

## Main results

* `covers_query`: a tracked statement keeps the bound
* `covers_run`: so does every run of them
* `checkinCleanup_clean`: from a bound state, checkin leaves a clean session
-/

namespace PgDoorman.Cleanup

open Wire Client

/-! ## The cleanup flags -/

/-- `CleanupState`: whether the checkin query needs `RESET ALL`, `DEALLOCATE ALL` and
`CLOSE ALL`. -/
structure CleanupState where
  needsCleanupSet : Bool
  needsCleanupPrepare : Bool
  needsCleanupDeclare : Bool
  deriving Repr, DecidableEq

namespace CleanupState

/-- `CleanupState::new`: nothing to clean. -/
def new : CleanupState := ⟨false, false, false⟩

/-- `needs_cleanup`: some flag is armed. -/
def needsCleanup (c : CleanupState) : Bool :=
  c.needsCleanupSet || c.needsCleanupPrepare || c.needsCleanupDeclare

/-- `set_true`: every flag armed. -/
def setTrue (_ : CleanupState) : CleanupState := ⟨true, true, true⟩

/-- `reset`: every flag disarmed. -/
def reset (_ : CleanupState) : CleanupState := new

end CleanupState

/-! ## CommandComplete tags -/

/-- `COMMAND_COMPLETE_BY_SET`. -/
def commandCompleteBySet : List UInt8 := utf8Bytes "SET\x00"

/-- `COMMAND_COMPLETE_BY_RESET`: `RESET ALL` and the `RESET` of one setting alike. -/
def commandCompleteByReset : List UInt8 := utf8Bytes "RESET\x00"

/-- `COMMAND_COMPLETE_BY_DECLARE`. -/
def commandCompleteByDeclare : List UInt8 := utf8Bytes "DECLARE CURSOR\x00"

/-- `COMMAND_COMPLETE_BY_CLOSE_CURSOR_ALL`. -/
def commandCompleteByCloseCursorAll : List UInt8 := utf8Bytes "CLOSE CURSOR ALL\x00"

/-- `COMMAND_COMPLETE_BY_DEALLOCATE_ALL`. -/
def commandCompleteByDeallocateAll : List UInt8 := utf8Bytes "DEALLOCATE ALL\x00"

/-- `COMMAND_COMPLETE_BY_DISCARD_ALL`. -/
def commandCompleteByDiscardAll : List UInt8 := utf8Bytes "DISCARD ALL\x00"

/-- `CommandCompleteEffect`: what a tag does to the flags. -/
inductive CommandCompleteEffect where
  | none
  | armSet
  | armDeclare
  | disarmSet
  | disarmDeclare
  | disarmPrepare
  | disarmAll
  deriving Repr, DecidableEq

/-- `classify_command_complete`: the tag compared byte for byte with each constant in turn. -/
def classifyCommandComplete (tag : List UInt8) : CommandCompleteEffect :=
  if tag = commandCompleteBySet then .armSet
  else if tag = commandCompleteByReset then .disarmSet
  else if tag = commandCompleteByDeclare then .armDeclare
  else if tag = commandCompleteByCloseCursorAll then .disarmDeclare
  else if tag = commandCompleteByDeallocateAll then .disarmPrepare
  else if tag = commandCompleteByDiscardAll then .disarmAll
  else .none

/-! ## The server connection -/

/-- The fields of a `Server` that the handlers of `recv` and `checkin_cleanup` read and write.
The prepared statement cache is the names it holds, `none` when the pool keeps no cache;
`last_sql_error` is whether an ErrorResponse was captured, its SQLSTATE and text left out.
`cleanup_connections`, set from the pool's configuration and never changed, is a parameter of
the checkin. -/
structure Server where
  cleanupState : CleanupState
  inTransaction : Bool
  inCopyMode : Bool
  dataAvailable : Bool
  asyncMode : Bool
  sessionMode : Bool
  expectedResponses : Nat
  bad : Bool
  lastSqlError : Bool
  preparedStatementCache : Option (List String)
  registeringPreparedStatement : List String
  hasPendingCacheEntries : Bool
  deferredEvictionCloses : List String
  deriving Repr, DecidableEq

namespace Server

/-- `mark_bad`. -/
def markBad (s : Server) : Server := { s with bad := true }

/-- `decrement_expected`: a saturating decrement. -/
def decrementExpected (s : Server) : Server :=
  { s with expectedResponses := s.expectedResponses - 1 }

/-- `reset_expected_responses`. -/
def resetExpectedResponses (s : Server) : Server := { s with expectedResponses := 0 }

/-- `mark_dirty`: every flag armed, for a named Parse forwarded with prepared statements
disabled. -/
def markDirty (s : Server) : Server :=
  { s with cleanupState := s.cleanupState.setTrue }

/-- `remove_prepared_statement_from_cache`. -/
def removePreparedStatementFromCache (s : Server) (name : String) : Server :=
  { s with preparedStatementCache := s.preparedStatementCache.map (·.erase name) }

/-- `drop_prepared_statement_cache_on_reset`. -/
def dropPreparedStatementCacheOnReset (s : Server) : Server :=
  { s with
    registeringPreparedStatement := []
    preparedStatementCache := s.preparedStatementCache.map fun _ => [] }

/-- The connection `Server::startup` returns: nothing to clean, no transaction, no copy, no data
pending, synchronous; with an empty prepared statement cache unless its size is zero. -/
def startup (serverPreparedStatementCacheSize : Nat) (sessionMode : Bool) : Server where
  cleanupState := .new
  inTransaction := false
  inCopyMode := false
  dataAvailable := false
  asyncMode := false
  sessionMode := sessionMode
  expectedResponses := 0
  bad := false
  lastSqlError := false
  preparedStatementCache := if serverPreparedStatementCacheSize = 0 then none else some []
  registeringPreparedStatement := []
  hasPendingCacheEntries := false
  deferredEvictionCloses := []

end Server

open PgDoorman.Cleanup.Server

/-- `handle_ready_for_query`, on the message's body: the transaction status, or `Err` with the
connection marked bad on an unknown one. `get_u8` panics on an empty body; the model ends the
call there as an `Err`. -/
def handleReadyForQuery (s : Server) (message : List UInt8) : Except Server Server :=
  match message with
  | [] => .error s
  | status :: _ =>
    match latin1Char status with
    | 'T' => .ok { s with inTransaction := true, dataAvailable := false }
    | 'I' => .ok { s with inTransaction := false, dataAvailable := false }
    | 'E' => .ok { s with inTransaction := true, dataAvailable := false }
    | _ => .error s.markBad

/-- `handle_error_response`: the error captured, copy mode left, `needs_cleanup_prepare` armed
when there is a cache, the names still registering rolled back out of it; in async mode the
connection has no more data, and is marked bad outside session mode. The `needs_cleanup()` it
calls in async mode only reads the flags. -/
def handleErrorResponse (s : Server) : Server :=
  let s := { s with lastSqlError := true, inCopyMode := false }
  let s := if s.preparedStatementCache.isSome then
      { s with cleanupState := { s.cleanupState with needsCleanupPrepare := true } }
    else s
  let s := if s.registeringPreparedStatement = [] then s
    else
      { s.registeringPreparedStatement.foldl removePreparedStatementFromCache s with
        registeringPreparedStatement := []
        hasPendingCacheEntries := false }
  if s.asyncMode then
    let s := { s with dataAvailable := false }
    if s.sessionMode then s else s.markBad
  else s

/-- `handle_command_complete`, on the message's body, the tag: copy mode left, and the flags
set as the tag's effect says. -/
def handleCommandComplete (s : Server) (message : List UInt8) : Server :=
  let s := { s with inCopyMode := false }
  let c := s.cleanupState
  match classifyCommandComplete message with
  | .none => s
  | .armSet => { s with cleanupState := { c with needsCleanupSet := true } }
  | .armDeclare => { s with cleanupState := { c with needsCleanupDeclare := true } }
  | .disarmSet => { s with cleanupState := { c with needsCleanupSet := false } }
  | .disarmDeclare => { s with cleanupState := { c with needsCleanupDeclare := false } }
  | .disarmPrepare =>
    dropPreparedStatementCacheOnReset { s with cleanupState := { c with needsCleanupPrepare := false } }
  | .disarmAll => dropPreparedStatementCacheOnReset { s with cleanupState := c.reset }

/-- The arms of `recv`'s `match code` for every message but ReadyForQuery, the one that can
fail. A ParameterStatus updates the parameters, which this model does not keep; notices and the
rest are only buffered. -/
def handleMessage (s : Server) (f : Frame) : Server :=
  match latin1Char f.tag with
  | 'E' =>
    let s := handleErrorResponse s
    if s.asyncMode then s.resetExpectedResponses else s
  | 'C' =>
    let s := handleCommandComplete s f.body
    if s.asyncMode then s.decrementExpected else s
  | 'D' => { s with dataAvailable := true }
  | 'G' => { s with inCopyMode := true }
  | 'H' => { s with inCopyMode := true, dataAvailable := true }
  | '1' =>
    let s := { s with registeringPreparedStatement := s.registeringPreparedStatement.tail }
    if s.asyncMode then s.decrementExpected else s
  | '2' | '3' | 't' | 's' | 'n' | 'T' | 'I' => if s.asyncMode then s.decrementExpected else s
  | _ => s

/-- `recv`, called again while `is_data_available()` holds, over the messages the server sends:
each is handled in turn. A `recv` call ends at a ReadyForQuery, CopyInResponse or
CopyOutResponse, and the calls stop there unless data is still available; in async mode a call
ends before reading once no response is expected. The messages left unread are returned. A
DataRow or CopyData also ends a call once 8 KiB are buffered, which only splits the answer
between calls and is left out; where the server has sent everything, the model stops where
`recv` would wait. -/
def recvWhileDataAvailable (s : Server) (fs : List Frame) : Except Server (Server × List Frame) :=
  if s.asyncMode && s.expectedResponses == 0 then .ok ({ s with dataAvailable := false }, fs)
  else
    match fs with
    | [] => .ok (s, [])
    | f :: fs =>
      if latin1Char f.tag = 'Z' then (handleReadyForQuery s f.body).map (·, fs)
      else
        let s := handleMessage s f
        if (latin1Char f.tag == 'G' || latin1Char f.tag == 'H') && !s.dataAvailable then .ok (s, fs)
        else recvWhileDataAvailable s fs

/-! ## PostgreSQL's side -/

/-- The part of a session the cleanup is for: the settings changed from their defaults, and
the open cursors, which outlive their query only when declared `WITH HOLD`. -/
structure Postgres where
  settings : List String
  cursors : List String
  deriving Repr, DecidableEq

/-- The settings `RESET ALL` leaves alone (`GUC_NO_RESET_ALL`). -/
def noResetAll : List String := ["role", "session_authorization"]

/-- The statements a client sends, as far as the session is concerned. `setConfig` is
`SELECT set_config(name, value, false)`, `select` any other query that returns a row, and
`fails` one that PostgreSQL rejects. `ROLLBACK` is only sent outside a transaction. -/
inductive Statement where
  | set (name : String)
  | setConfig (name : String)
  | reset (name : String)
  | resetAll
  | declare (cursor : String)
  | close (cursor : String)
  | closeAll
  | deallocateAll
  | discardAll
  | select
  | rollback
  | fails
  deriving Repr, DecidableEq

/-- A CommandComplete with the tag `text`. -/
def tagged (text : String) : Frame := commandComplete (utf8Bytes text ++ [0])

/-- A RowDescription, its fields left empty: `recv` does not read them. -/
def rowDescription : Frame := ⟨'T'.toUInt8, []⟩

/-- A DataRow, its columns left empty. -/
def dataRow : Frame := ⟨'D'.toUInt8, []⟩

/-- An ErrorResponse, its fields left empty: every field `recv` reads falls back to a
default. -/
def errorResponse : Frame := ⟨'E'.toUInt8, []⟩

/-- The answer to a query returning one row, tagged `SELECT 1`. -/
def selectAnswer : List Frame := [rowDescription, dataRow, tagged "SELECT 1"]

/-- The messages PostgreSQL answers a statement that succeeded with: its CommandComplete, after
the row of a query that returns one. `fails` never completes. -/
def Statement.answer : Statement → List Frame
  | .set _ => [tagged "SET"]
  | .setConfig _ => selectAnswer
  | .reset _ => [tagged "RESET"]
  | .resetAll => [tagged "RESET"]
  | .declare _ => [tagged "DECLARE CURSOR"]
  | .close _ => [tagged "CLOSE CURSOR"]
  | .closeAll => [tagged "CLOSE CURSOR ALL"]
  | .deallocateAll => [tagged "DEALLOCATE ALL"]
  | .discardAll => [tagged "DISCARD ALL"]
  | .select => selectAnswer
  | .rollback => [tagged "ROLLBACK"]
  | .fails => []

namespace Postgres

/-- What a statement does to the session; `none` when PostgreSQL raises an error. A cursor's
name must be new to `DECLARE` and open to `CLOSE`. -/
def apply (pg : Postgres) : Statement → Option Postgres
  | .set name => some { pg with settings := pg.settings.insert name }
  | .setConfig name => some { pg with settings := pg.settings.insert name }
  | .reset name => some { pg with settings := pg.settings.erase name }
  | .resetAll => some { pg with settings := pg.settings.filter (· ∈ noResetAll) }
  | .declare cursor =>
    if cursor ∈ pg.cursors then none else some { pg with cursors := cursor :: pg.cursors }
  | .close cursor =>
    if cursor ∈ pg.cursors then some { pg with cursors := pg.cursors.erase cursor } else none
  | .closeAll => some { pg with cursors := [] }
  | .deallocateAll => some pg
  | .discardAll => some ⟨[], []⟩
  | .select => some pg
  | .rollback => some pg
  | .fails => none

/-- The statements of one query, in order, until one fails: the session after them, `none` if
one failed, and the messages so far. -/
def runStatements (pg : Postgres) : List Statement → Option Postgres × List Frame
  | [] => (some pg, [])
  | st :: sts =>
    match pg.apply st with
    | none => (none, [errorResponse])
    | some pg' =>
      let r := pg'.runStatements sts
      (r.1, st.answer ++ r.2)

/-- A simple query: its statements form one transaction, undone if one fails; the answer ends
with ReadyForQuery, idle. -/
def simpleQuery (pg : Postgres) (query : List Statement) : Postgres × List Frame :=
  let r := pg.runStatements query
  (r.1.getD pg, r.2 ++ [readyForQuery 'I'.toUInt8])

end Postgres

/-! ## Queries and checkin -/

/-- A client's query on the connection: PostgreSQL answers it and `recv` reads the answer while
data is available; errors go to the client, and only a protocol error fails the call. -/
def query (s : Server) (pg : Postgres) (st : Statement) : Except Server Server × Postgres :=
  let r := pg.simpleQuery [st]
  ((recvWhileDataAvailable s r.2).map Prod.fst, r.1)

/-- The client's statements, one query each, until a call fails. -/
def run (s : Server) (pg : Postgres) : List Statement → Except Server Server × Postgres
  | [] => (.ok s, pg)
  | st :: sts =>
    match query s pg st with
    | (.ok s, pg) => run s pg sts
    | (.error s, pg) => (.error s, pg)

/-- `small_simple_query`: the query goes out, `recv` reads the answer, and a captured
ErrorResponse makes the call an `Err`. -/
def smallSimpleQuery (s : Server) (pg : Postgres) (statements : List Statement) :
    Except Server Server × Postgres :=
  let r := pg.simpleQuery statements
  let read := recvWhileDataAvailable { s with lastSqlError := false } r.2
  (match read with
   | .ok (s, _) => if s.lastSqlError then .error { s with lastSqlError := false } else .ok s
   | .error s => .error s, r.1)

/-- The statements of the checkin query `reset_string`: `RESET ROLE;`, then `RESET ALL;`,
`DEALLOCATE ALL;` and `CLOSE ALL;` for the flags that are armed. -/
def resetStatements (c : CleanupState) : List Statement :=
  .reset "role" :: ((if c.needsCleanupSet then [.resetAll] else []) ++
    (if c.needsCleanupPrepare then [.deallocateAll] else []) ++
    (if c.needsCleanupDeclare then [.closeAll] else []))

/-- The end of `checkin_cleanup`, once nothing failed: no transaction, no copy. -/
def leaveIdle (s : Server) : Server := { s with inTransaction := false, inCopyMode := false }

/-- Pending cache entries, whose Parse never reached PostgreSQL, and deferred Closes, never sent,
arm `needs_cleanup_prepare`, and are dropped. -/
def armPendingCleanup (s : Server) : Server :=
  let s := if s.hasPendingCacheEntries then
      { s with
        cleanupState := { s.cleanupState with needsCleanupPrepare := true }
        hasPendingCacheEntries := false }
    else s
  if s.deferredEvictionCloses = [] then s
  else
    { s with
      cleanupState := { s.cleanupState with needsCleanupPrepare := true }
      deferredEvictionCloses := [] }

/-- The cleanup of `checkin_cleanup` proper, after its checks and the `ROLLBACK`: with an armed
flag and `cleanup_server_connections`, the checkin query runs, the cache is dropped if
`needs_cleanup_prepare` is still armed after it, and the flags are reset. -/
def resetSession (cleanupConnections : Bool) (s : Server) (pg : Postgres) :
    Except Server Server × Postgres :=
  let s := armPendingCleanup s
  if s.cleanupState.needsCleanup && cleanupConnections then
    match smallSimpleQuery s pg (resetStatements s.cleanupState) with
    | (.error s, pg) => (.error s, pg)
    | (.ok s, pg) =>
      let s := if s.cleanupState.needsCleanupPrepare then
          { s with
            registeringPreparedStatement := []
            preparedStatementCache := s.preparedStatementCache.map fun _ => [] }
        else s
      (.ok (leaveIdle { s with cleanupState := s.cleanupState.reset }), pg)
  else (.ok (leaveIdle s), pg)

/-- `checkin_cleanup`: a connection still in copy mode or with data available is marked bad and
refused; one in a transaction gets a `ROLLBACK`; then `resetSession`. The check for a non-empty
buffer is left out: `recv` empties the buffer it returns. -/
def checkinCleanup (cleanupConnections : Bool) (s : Server) (pg : Postgres) :
    Except Server Server × Postgres :=
  if s.inCopyMode then (.error s.markBad, pg)
  else if s.dataAvailable then (.error s.markBad, pg)
  else if s.inTransaction then
    match smallSimpleQuery s pg [.rollback] with
    | (.error s, pg) => (.error s, pg)
    | (.ok s, pg) => resetSession cleanupConnections s pg
  else resetSession cleanupConnections s pg

/-- One client on the connection: its statements, one query each, then the checkin. -/
def serveClient (cleanupConnections : Bool) (s : Server) (pg : Postgres)
    (client : List Statement) : Except Server Server × Postgres :=
  match run s pg client with
  | (.ok s, pg) => checkinCleanup cleanupConnections s pg
  | (.error s, pg) => (.error s, pg)

/-- The connection serving clients one after another, until a call fails. -/
def serveClients (cleanupConnections : Bool) (s : Server) (pg : Postgres) :
    List (List Statement) → Except Server Server × Postgres
  | [] => (.ok s, pg)
  | client :: clients =>
    match serveClient cleanupConnections s pg client with
    | (.ok s, pg) => serveClients cleanupConnections s pg clients
    | (.error s, pg) => (.error s, pg)

/-! ## The handlers, field by field -/

/-- The flags as a tag's effect leaves them: the part of `handle_command_complete` that sets
them. -/
def CleanupState.apply (c : CleanupState) : CommandCompleteEffect → CleanupState
  | .none => c
  | .armSet => { c with needsCleanupSet := true }
  | .armDeclare => { c with needsCleanupDeclare := true }
  | .disarmSet => { c with needsCleanupSet := false }
  | .disarmDeclare => { c with needsCleanupDeclare := false }
  | .disarmPrepare => { c with needsCleanupPrepare := false }
  | .disarmAll => c.reset

section Handlers

variable (s : Server)

@[simp] theorem cleanupState_handleCommandComplete (message : List UInt8) :
    (handleCommandComplete s message).cleanupState =
      s.cleanupState.apply (classifyCommandComplete message) := by
  unfold handleCommandComplete
  cases classifyCommandComplete message <;> rfl

@[simp] theorem inCopyMode_handleCommandComplete (message : List UInt8) :
    (handleCommandComplete s message).inCopyMode = false := by
  unfold handleCommandComplete
  cases classifyCommandComplete message <;> rfl

@[simp] theorem asyncMode_handleCommandComplete (message : List UInt8) :
    (handleCommandComplete s message).asyncMode = s.asyncMode := by
  unfold handleCommandComplete
  cases classifyCommandComplete message <;> rfl

@[simp] theorem dataAvailable_handleCommandComplete (message : List UInt8) :
    (handleCommandComplete s message).dataAvailable = s.dataAvailable := by
  unfold handleCommandComplete
  cases classifyCommandComplete message <;> rfl

@[simp] theorem lastSqlError_handleCommandComplete (message : List UInt8) :
    (handleCommandComplete s message).lastSqlError = s.lastSqlError := by
  unfold handleCommandComplete
  cases classifyCommandComplete message <;> rfl

@[simp] theorem hasPendingCacheEntries_handleCommandComplete (message : List UInt8) :
    (handleCommandComplete s message).hasPendingCacheEntries = s.hasPendingCacheEntries := by
  unfold handleCommandComplete
  cases classifyCommandComplete message <;> rfl

@[simp] theorem deferredEvictionCloses_handleCommandComplete (message : List UInt8) :
    (handleCommandComplete s message).deferredEvictionCloses = s.deferredEvictionCloses := by
  unfold handleCommandComplete
  cases classifyCommandComplete message <;> rfl

/-- Rolling names back out of the cache touches the cache only. -/
theorem foldl_removePreparedStatementFromCache (names : List String) :
    names.foldl removePreparedStatementFromCache s =
      { s with preparedStatementCache := s.preparedStatementCache.map (names.foldl List.erase) } := by
  induction names generalizing s with
  | nil => cases s; simp
  | cons name names ih =>
    rw [List.foldl_cons, ih]
    simp [removePreparedStatementFromCache, Option.map_map, Function.comp_def]

/-- `handle_error_response`: the error captured, copy mode left, the cache marked for
`DEALLOCATE ALL` and rid of the names still registering; then, in async mode, no more data, and
outside session mode a bad connection. -/
theorem handleErrorResponse_eq :
    handleErrorResponse s =
      let s' := { s with
        lastSqlError := true
        inCopyMode := false
        cleanupState := if s.preparedStatementCache.isSome then
            { s.cleanupState with needsCleanupPrepare := true }
          else s.cleanupState
        preparedStatementCache :=
          s.preparedStatementCache.map (s.registeringPreparedStatement.foldl List.erase)
        registeringPreparedStatement := []
        hasPendingCacheEntries :=
          if s.registeringPreparedStatement = [] then s.hasPendingCacheEntries else false }
      if s.asyncMode then
        if s.sessionMode then { s' with dataAvailable := false }
        else { s' with dataAvailable := false, bad := true }
      else s' := by
  unfold handleErrorResponse
  by_cases hc : s.preparedStatementCache.isSome <;> by_cases hr : s.registeringPreparedStatement = [] <;>
    simp [hc, hr, foldl_removePreparedStatementFromCache, markBad]

theorem handleErrorResponse_sync (hs : s.asyncMode = false) :
    handleErrorResponse s =
      { s with
        lastSqlError := true
        inCopyMode := false
        cleanupState := if s.preparedStatementCache.isSome then
            { s.cleanupState with needsCleanupPrepare := true }
          else s.cleanupState
        preparedStatementCache :=
          s.preparedStatementCache.map (s.registeringPreparedStatement.foldl List.erase)
        registeringPreparedStatement := []
        hasPendingCacheEntries :=
          if s.registeringPreparedStatement = [] then s.hasPendingCacheEntries else false } := by
  rw [handleErrorResponse_eq, hs, if_neg Bool.false_ne_true]

@[simp] theorem asyncMode_handleErrorResponse : (handleErrorResponse s).asyncMode = s.asyncMode := by
  rw [handleErrorResponse_eq]
  split_ifs <;> rfl

@[simp] theorem inCopyMode_handleErrorResponse : (handleErrorResponse s).inCopyMode = false := by
  rw [handleErrorResponse_eq]
  split_ifs <;> rfl

end Handlers

/-! ## Reading an answer -/

section Reading

variable {s : Server}

/-- The messages at which neither a `recv` call nor the calls end: all but ReadyForQuery,
CopyInResponse and CopyOutResponse. -/
def passive (f : Frame) : Bool :=
  !(latin1Char f.tag == 'Z' || latin1Char f.tag == 'G' || latin1Char f.tag == 'H')

@[simp] theorem asyncMode_handleMessage (f : Frame) :
    (handleMessage s f).asyncMode = s.asyncMode := by
  unfold handleMessage
  split <;> (try dsimp only) <;> (try split_ifs) <;> simp [decrementExpected, resetExpectedResponses]

@[simp] theorem asyncMode_foldl_handleMessage (fs : List Frame) :
    (fs.foldl handleMessage s).asyncMode = s.asyncMode := by
  induction fs generalizing s with
  | nil => rfl
  | cons f fs ih => rw [List.foldl_cons, ih, asyncMode_handleMessage]

/-- Outside async mode, messages that end no call are handled one after another. -/
theorem recvWhileDataAvailable_append (hs : s.asyncMode = false) {fs : List Frame}
    (hfs : ∀ f ∈ fs, passive f = true) (rest : List Frame) :
    recvWhileDataAvailable s (fs ++ rest) =
      recvWhileDataAvailable (fs.foldl handleMessage s) rest := by
  induction fs generalizing s with
  | nil => rfl
  | cons f fs ih =>
    have hf := hfs f List.mem_cons_self
    simp only [passive, Bool.not_or, Bool.and_eq_true, Bool.not_eq_true', beq_eq_false_iff_ne,
      ne_eq] at hf
    obtain ⟨⟨hz, hg⟩, hh⟩ := hf
    rw [List.cons_append, recvWhileDataAvailable]
    simp only [hs, Bool.false_and, Bool.false_eq_true, ↓reduceIte, hz]
    rw [if_neg (by simp [hg, hh]), List.foldl_cons]
    refine ih ?_ fun g hg => hfs g (List.mem_cons_of_mem f hg)
    rw [asyncMode_handleMessage, hs]

/-- Outside async mode, an idle ReadyForQuery ends the calls. -/
theorem recvWhileDataAvailable_idle (hs : s.asyncMode = false) (rest : List Frame) :
    recvWhileDataAvailable s (readyForQuery 'I'.toUInt8 :: rest) =
      .ok ({ s with inTransaction := false, dataAvailable := false }, rest) := by
  have hz : latin1Char (readyForQuery 'I'.toUInt8).tag = 'Z' := rfl
  rw [recvWhileDataAvailable, if_neg (by simp [hs]), if_pos hz]
  rfl

theorem handleMessage_tagged (hs : s.asyncMode = false) (text : String) :
    handleMessage s (tagged text) = handleCommandComplete s (utf8Bytes text ++ [0]) := by
  simp only [handleMessage, tagged, commandComplete, asyncMode_handleCommandComplete, hs]
  rfl

theorem handleMessage_errorResponse (hs : s.asyncMode = false) :
    handleMessage s errorResponse = handleErrorResponse s := by
  simp only [handleMessage, errorResponse, handleErrorResponse_sync s hs, hs]
  rfl

theorem handleMessage_rowDescription (hs : s.asyncMode = false) :
    handleMessage s rowDescription = s := by
  simp only [handleMessage, rowDescription, hs]
  rfl

theorem handleMessage_dataRow : handleMessage s dataRow = { s with dataAvailable := true } := rfl

end Reading

/-! ## Queries outside async mode -/

section Queries

variable {s : Server}

theorem passive_answer (st : Statement) : ∀ f ∈ st.answer, passive f = true := by
  cases st <;> simp [Statement.answer, selectAnswer] <;> decide

theorem passive_runStatements (pg : Postgres) (sts : List Statement) :
    ∀ f ∈ (pg.runStatements sts).2, passive f = true := by
  induction sts generalizing pg with
  | nil => intro f hf; cases hf
  | cons st sts ih =>
    simp only [Postgres.runStatements]
    split
    · decide
    · rintro f hf
      rcases List.mem_append.1 hf with hf | hf
      exacts [passive_answer st f hf, ih _ f hf]

/-- Outside async mode a client's query is read to its end: every message of the answer
handled, then the ReadyForQuery leaves the connection idle. -/
theorem query_sync (hs : s.asyncMode = false) (pg : Postgres) (st : Statement) :
    query s pg st =
      (.ok { (pg.runStatements [st]).2.foldl handleMessage s with
          inTransaction := false, dataAvailable := false },
        (pg.simpleQuery [st]).1) := by
  simp only [query, Postgres.simpleQuery]
  rw [recvWhileDataAvailable_append hs (passive_runStatements pg [st]),
    recvWhileDataAvailable_idle (by rw [asyncMode_foldl_handleMessage, hs])]
  rfl

/-- Outside async mode `small_simple_query` reads the answer to its end, and fails when it
held an ErrorResponse. -/
theorem smallSimpleQuery_sync (hs : s.asyncMode = false) (pg : Postgres)
    (statements : List Statement) :
    smallSimpleQuery s pg statements =
      (let s' := { (pg.runStatements statements).2.foldl handleMessage
          { s with lastSqlError := false } with inTransaction := false, dataAvailable := false }
        if s'.lastSqlError then .error { s' with lastSqlError := false } else .ok s',
        (pg.simpleQuery statements).1) := by
  have hs' : ({ s with lastSqlError := false } : Server).asyncMode = false := hs
  simp only [smallSimpleQuery, Postgres.simpleQuery]
  rw [recvWhileDataAvailable_append hs' (passive_runStatements pg statements),
    recvWhileDataAvailable_idle (by rw [asyncMode_foldl_handleMessage, hs'])]

end Queries

/-! ## The flags bound the session -/

/-- What each statement's tag tells `classify_command_complete`: a `SET` arms the set flag, any
`RESET` disarms it, a `DECLARE` arms the declare flag, `CLOSE ALL` disarms it, and
`DEALLOCATE ALL` and `DISCARD ALL` disarm the prepare flag and every flag; a single `CLOSE`,
a query and `set_config` leave them. -/
def Statement.effect : Statement → CommandCompleteEffect
  | .set _ => .armSet
  | .reset _ | .resetAll => .disarmSet
  | .declare _ => .armDeclare
  | .closeAll => .disarmDeclare
  | .deallocateAll => .disarmPrepare
  | .discardAll => .disarmAll
  | _ => .none

/-- Reading the answer to a statement sets the flags as its effect says. -/
theorem cleanupState_foldl_answer {s : Server} (hs : s.asyncMode = false) (st : Statement) :
    (st.answer.foldl handleMessage s).cleanupState = s.cleanupState.apply st.effect := by
  cases st <;> simp +decide [Statement.answer, Statement.effect, selectAnswer, handleMessage_tagged,
    handleMessage_rowDescription, handleMessage_dataRow, hs, classifyCommandComplete,
    CleanupState.apply]

/-- The statements whose tags keep the flags a bound: all but the `RESET` of one setting, which
disarms the set flag while other settings may stay changed, `set_config`, whose `SELECT 1` tag
arms nothing, and a `SET` of a setting that `RESET ALL` leaves. -/
def Statement.tracked : Statement → Bool
  | .set name => decide (name ∉ noResetAll)
  | .setConfig _ | .reset _ => false
  | _ => true

/-- The flags bound the session: a changed setting arms `needs_cleanup_set`, an open cursor
`needs_cleanup_declare`, and `RESET ALL` resets every changed setting. -/
structure Covers (c : CleanupState) (pg : Postgres) : Prop where
  settings : pg.settings ≠ [] → c.needsCleanupSet = true
  cursors : pg.cursors ≠ [] → c.needsCleanupDeclare = true
  resettable : ∀ name ∈ pg.settings, name ∉ noResetAll

/-- The connection between two queries: synchronous, out of copy mode, its answer read to the
end, no transaction open. -/
structure Quiescent (s : Server) : Prop where
  sync : s.asyncMode = false
  notCopying : s.inCopyMode = false
  drained : s.dataAvailable = false
  idle : s.inTransaction = false

/-- A new connection is quiescent. -/
theorem quiescent_startup (serverPreparedStatementCacheSize : Nat) (sessionMode : Bool) :
    Quiescent (Server.startup serverPreparedStatementCacheSize sessionMode) :=
  ⟨rfl, rfl, rfl, rfl⟩

/-- The bound only looks at the set and declare flags. -/
theorem Covers.of_flags {c c' : CleanupState} {pg : Postgres} (h : Covers c pg)
    (hset : c'.needsCleanupSet = c.needsCleanupSet)
    (hdeclare : c'.needsCleanupDeclare = c.needsCleanupDeclare) : Covers c' pg :=
  ⟨hset ▸ h.settings, hdeclare ▸ h.cursors, h.resettable⟩

/-- A session where nothing is changed is bound by any flags. -/
theorem covers_clean (c : CleanupState) : Covers c ⟨[], []⟩ :=
  ⟨fun h => absurd rfl h, fun h => absurd rfl h, fun _ h => by cases h⟩

/-- **A tracked statement keeps the bound**: the session it leaves is bound by the flags as its
tag sets them. -/
theorem covers_apply {c : CleanupState} {pg pg' : Postgres} {st : Statement} (h : Covers c pg)
    (ht : st.tracked = true) (happly : pg.apply st = some pg') : Covers (c.apply st.effect) pg' := by
  cases st with
  | set name =>
    cases happly
    simp only [Statement.tracked, decide_eq_true_eq] at ht
    refine ⟨fun _ => rfl, h.cursors, fun x hx => ?_⟩
    rcases List.mem_insert_iff.1 hx with rfl | hx
    exacts [ht, h.resettable x hx]
  | setConfig name | reset name => cases ht
  | resetAll =>
    cases happly
    -- every changed setting is one `RESET ALL` resets
    have hnil : pg.settings.filter (· ∈ noResetAll) = [] :=
      List.filter_eq_nil_iff.2 fun x hx => by simpa using h.resettable x hx
    exact ⟨fun hne => absurd hnil (by simpa using hne), h.cursors, fun x hx => by simp_all⟩
  | declare cursor =>
    simp only [Postgres.apply] at happly
    split at happly
    · cases happly
    · cases happly
      exact ⟨h.settings, fun _ => rfl, h.resettable⟩
  | close cursor =>
    simp only [Postgres.apply] at happly
    split at happly
    · cases happly
      refine ⟨h.settings, fun hne => h.cursors fun hnil => hne ?_, h.resettable⟩
      simp [hnil]
    · cases happly
  | closeAll =>
    cases happly
    exact ⟨h.settings, fun hne => absurd rfl hne, h.resettable⟩
  | deallocateAll => cases happly; exact h.of_flags rfl rfl
  | discardAll => cases happly; exact covers_clean _
  | select | rollback => cases happly; exact h
  | fails => cases happly

section Run

variable {s : Server}

/-- No message of an answer puts the connection into copy mode. -/
theorem inCopyMode_handleMessage (hs : s.inCopyMode = false) {f : Frame} (hf : passive f = true) :
    (handleMessage s f).inCopyMode = false := by
  simp only [passive, Bool.not_or, Bool.and_eq_true, Bool.not_eq_true', beq_eq_false_iff_ne,
    ne_eq] at hf
  obtain ⟨⟨-, hg⟩, hh⟩ := hf
  unfold handleMessage
  split
  · dsimp only; split_ifs <;> simp [resetExpectedResponses]
  · dsimp only; split_ifs <;> simp [decrementExpected]
  -- CopyInResponse and CopyOutResponse are not passive; every other message leaves the mode
  all_goals first
    | exact absurd ‹_› hg
    | exact absurd ‹_› hh
    | ((try dsimp only); (try split_ifs) <;> exact hs)

theorem inCopyMode_foldl_handleMessage (hs : s.inCopyMode = false) {fs : List Frame}
    (hfs : ∀ f ∈ fs, passive f = true) : (fs.foldl handleMessage s).inCopyMode = false := by
  induction fs generalizing s with
  | nil => exact hs
  | cons f fs ih =>
    exact ih (inCopyMode_handleMessage hs (hfs f List.mem_cons_self))
      fun g hg => hfs g (List.mem_cons_of_mem f hg)

/-- The flags after a failed statement: the ErrorResponse only arms the prepare flag. -/
theorem flags_handleErrorResponse (hs : s.asyncMode = false) :
    (handleErrorResponse s).cleanupState.needsCleanupSet = s.cleanupState.needsCleanupSet ∧
      (handleErrorResponse s).cleanupState.needsCleanupDeclare =
        s.cleanupState.needsCleanupDeclare := by
  rw [handleErrorResponse_sync s hs]
  constructor <;> split_ifs <;> rfl

/-- **A query on a quiescent connection** returns, and leaves the connection quiescent and as
reading the answer left it. -/
theorem query_quiescent (pg : Postgres) (st : Statement) (hq : Quiescent s) :
    ∃ s', query s pg st = (.ok s', (pg.simpleQuery [st]).1) ∧ Quiescent s' ∧
      s' = { (pg.runStatements [st]).2.foldl handleMessage s with
        inTransaction := false, dataAvailable := false } := by
  rw [query_sync hq.sync]
  refine ⟨_, rfl, ⟨?_, ?_, rfl, rfl⟩, rfl⟩
  · rw [asyncMode_foldl_handleMessage, hq.sync]
  · exact inCopyMode_foldl_handleMessage hq.notCopying (passive_runStatements pg [st])

/-- **A query keeps the bound**: on a quiescent connection, the query of a tracked statement
returns, leaves the connection quiescent and the flags a bound of the session, whether the
statement succeeds or fails. -/
theorem covers_query {pg : Postgres} {st : Statement} (hq : Quiescent s)
    (hc : Covers s.cleanupState pg) (ht : st.tracked = true) :
    ∃ s', query s pg st = (.ok s', (pg.simpleQuery [st]).1) ∧ Quiescent s' ∧
      Covers s'.cleanupState (pg.simpleQuery [st]).1 := by
  obtain ⟨s', hquery, hq', rfl⟩ := query_quiescent pg st hq
  refine ⟨_, hquery, hq', ?_⟩
  simp only [Postgres.simpleQuery, Postgres.runStatements]
  cases happly : pg.apply st with
  | none =>
    -- the statement failed: the session is as it was, the ErrorResponse arms no bound flag
    obtain ⟨hset, hdeclare⟩ := flags_handleErrorResponse (s := s) hq.sync
    simpa [handleMessage_errorResponse hq.sync] using hc.of_flags hset hdeclare
  | some pg' =>
    simpa [cleanupState_foldl_answer hq.sync] using covers_apply hc ht happly

/-- **Every run keeps the bound**: on a quiescent connection bound by its flags, the queries of
tracked statements all return, and leave the connection quiescent and bound. -/
theorem covers_run {pg : Postgres} {sts : List Statement} (hq : Quiescent s)
    (hc : Covers s.cleanupState pg) (ht : ∀ st ∈ sts, st.tracked = true) :
    ∃ s' pg', run s pg sts = (.ok s', pg') ∧ Quiescent s' ∧ Covers s'.cleanupState pg' := by
  induction sts generalizing s pg with
  | nil => exact ⟨s, pg, rfl, hq, hc⟩
  | cons st sts ih =>
    obtain ⟨s₁, hquery, hq₁, hc₁⟩ := covers_query hq hc (ht st List.mem_cons_self)
    obtain ⟨s', pg', hrun, hq', hc'⟩ := ih hq₁ hc₁ fun st' h => ht st' (List.mem_cons_of_mem st h)
    refine ⟨s', pg', ?_, hq', hc'⟩
    simp only [run, hquery]
    exact hrun

end Run

/-! ## Checkin -/

section Checkin

variable {s : Server}

/-- The answer to a statement that succeeded holds no ErrorResponse. -/
theorem lastSqlError_foldl_answer (hs : s.asyncMode = false) (st : Statement) :
    (st.answer.foldl handleMessage s).lastSqlError = s.lastSqlError := by
  cases st <;> simp [Statement.answer, selectAnswer, handleMessage_tagged,
    handleMessage_rowDescription, handleMessage_dataRow, hs]

/-- Nor does it touch what is pending for the checkin. -/
theorem pending_foldl_answer (hs : s.asyncMode = false) (st : Statement) :
    (st.answer.foldl handleMessage s).hasPendingCacheEntries = s.hasPendingCacheEntries ∧
      (st.answer.foldl handleMessage s).deferredEvictionCloses = s.deferredEvictionCloses := by
  cases st <;> simp [Statement.answer, selectAnswer, handleMessage_tagged,
    handleMessage_rowDescription, handleMessage_dataRow, hs]

theorem lastSqlError_foldl_answers (hs : s.asyncMode = false) (sts : List Statement) :
    ((sts.flatMap Statement.answer).foldl handleMessage s).lastSqlError = s.lastSqlError := by
  induction sts generalizing s with
  | nil => rfl
  | cons st sts ih =>
    rw [List.flatMap_cons, List.foldl_append, ih (by rw [asyncMode_foldl_handleMessage, hs]),
      lastSqlError_foldl_answer hs]

/-- PostgreSQL accepts every statement of the checkin query: the role is reset, then every
setting `RESET ALL` resets if the set flag is armed, and every cursor is closed if the declare
flag is. -/
theorem runStatements_resetStatements (pg : Postgres) (c : CleanupState) :
    pg.runStatements (resetStatements c) =
      (some ⟨if c.needsCleanupSet then (pg.settings.erase "role").filter (· ∈ noResetAll)
          else pg.settings.erase "role",
        if c.needsCleanupDeclare then [] else pg.cursors⟩,
        (resetStatements c).flatMap Statement.answer) := by
  obtain ⟨_ | _, _ | _, _ | _⟩ := c <;>
    simp [resetStatements, Postgres.runStatements, Postgres.apply]

/-- From a bound session, the checkin query leaves nothing changed. -/
theorem simpleQuery_resetStatements {c : CleanupState} {pg : Postgres} (h : Covers c pg) :
    (pg.simpleQuery (resetStatements c)).1 = ⟨[], []⟩ := by
  simp only [Postgres.simpleQuery, runStatements_resetStatements, Option.getD_some]
  congr 1
  · split
    · -- `RESET ALL` resets every changed setting but the role, and `RESET ROLE` the role
      exact List.filter_eq_nil_iff.2 fun x hx => by
        simpa using h.resettable x (List.mem_of_mem_erase hx)
    · rename_i hset
      rw [Classical.not_not.1 (mt h.settings hset), List.erase_nil]
  · split
    · rfl
    · rename_i hdeclare
      exact Classical.not_not.1 (mt h.cursors hdeclare)

/-- Arming for pending entries and deferred Closes only touches the prepare flag. -/
theorem armPendingCleanup_eq :
    armPendingCleanup s =
      { s with
        cleanupState := { s.cleanupState with
          needsCleanupPrepare := s.cleanupState.needsCleanupPrepare || s.hasPendingCacheEntries ||
            !s.deferredEvictionCloses.isEmpty }
        hasPendingCacheEntries := false
        deferredEvictionCloses := [] } := by
  rcases s with ⟨c, _, _, _, _, _, _, _, _, _, _, pending, deferred⟩
  cases pending <;> cases deferred <;> simp [armPendingCleanup]

/-- **What checkin does to a quiescent connection**: with `cleanup_server_connections` it returns
`Ok` with the flags reset and the connection quiescent, and leaves the session as the checkin
query does, a query that runs only when a flag is armed. -/
theorem checkinCleanup_quiescent (pg : Postgres) (hq : Quiescent s) :
    ∃ s', checkinCleanup true s pg =
        (.ok s', if (armPendingCleanup s).cleanupState.needsCleanup then
          (pg.simpleQuery (resetStatements (armPendingCleanup s).cleanupState)).1 else pg) ∧
      s'.cleanupState = .new ∧ Quiescent s' := by
  rw [checkinCleanup, if_neg (by simp [hq.notCopying]), if_neg (by simp [hq.drained]),
    if_neg (by simp [hq.idle]), resetSession]
  -- arming for pending entries and deferred Closes keeps the quiescence
  have hsync : (armPendingCleanup s).asyncMode = false := by rw [armPendingCleanup_eq]; exact hq.sync
  have hdrained : (armPendingCleanup s).dataAvailable = false := by
    rw [armPendingCleanup_eq]; exact hq.drained
  generalize armPendingCleanup s = s₁ at hsync hdrained ⊢
  dsimp only
  rw [Bool.and_true]
  split
  · -- the checkin query runs, and PostgreSQL accepts all of it
    have herr := lastSqlError_foldl_answers (s := { s₁ with lastSqlError := false }) hsync
      (resetStatements s₁.cleanupState)
    rw [smallSimpleQuery_sync hsync]
    simp only [Postgres.simpleQuery, runStatements_resetStatements, herr, Bool.false_eq_true,
      ↓reduceIte]
    refine ⟨_, rfl, rfl, ⟨?_, rfl, ?_, rfl⟩⟩
    · split_ifs <;> simp [leaveIdle, hsync]
    · split_ifs <;> rfl
  · -- no flag is armed: nothing is sent
    rename_i hclean
    rcases hflags : s₁.cleanupState with ⟨set, prepare, declare⟩
    simp only [hflags, CleanupState.needsCleanup, Bool.or_eq_true, not_or, Bool.not_eq_true]
      at hclean
    obtain ⟨⟨rfl, rfl⟩, rfl⟩ := hclean
    exact ⟨leaveIdle s₁, rfl, by simp [leaveIdle, hflags, CleanupState.new],
      ⟨hsync, rfl, hdrained, rfl⟩⟩

/-- A session bound by disarmed set and declare flags has nothing changed. -/
theorem Covers.eq_clean {c : CleanupState} {pg : Postgres} (h : Covers c pg)
    (hset : c.needsCleanupSet = false) (hdeclare : c.needsCleanupDeclare = false) :
    pg = ⟨[], []⟩ := by
  have hsettings : pg.settings = [] := Classical.not_not.1 (mt h.settings (by simp [hset]))
  have hcursors : pg.cursors = [] := Classical.not_not.1 (mt h.cursors (by simp [hdeclare]))
  cases pg
  simp_all

/-- **Checkin leaves a clean session**: from a quiescent connection whose flags bound its
session, with `cleanup_server_connections`, `checkin_cleanup` returns `Ok` with no setting changed
and no cursor open, the flags reset and the connection quiescent. -/
theorem checkinCleanup_clean {pg : Postgres} (hq : Quiescent s) (hc : Covers s.cleanupState pg) :
    ∃ s', checkinCleanup true s pg = (.ok s', ⟨[], []⟩) ∧ s'.cleanupState = .new ∧ Quiescent s' := by
  obtain ⟨s', hcheckin, hnew, hq'⟩ := checkinCleanup_quiescent pg hq
  refine ⟨s', ?_, hnew, hq'⟩
  have hc₁ : Covers (armPendingCleanup s).cleanupState pg := by
    rw [armPendingCleanup_eq]; exact hc.of_flags rfl rfl
  rw [hcheckin]
  split
  · rw [simpleQuery_resetStatements hc₁]
  · -- no flag armed: the bound says nothing was changed
    rename_i hclean
    simp only [CleanupState.needsCleanup, Bool.or_eq_true, not_or, Bool.not_eq_true] at hclean
    rw [hc₁.eq_clean hclean.1.1 hclean.2]

/-- A client of tracked statements leaves a clean session behind. -/
theorem serveClient_clean {pg : Postgres} {client : List Statement} (hq : Quiescent s)
    (hc : Covers s.cleanupState pg) (ht : ∀ st ∈ client, st.tracked = true) :
    ∃ s', serveClient true s pg client = (.ok s', ⟨[], []⟩) ∧ s'.cleanupState = .new ∧
      Quiescent s' := by
  obtain ⟨s₁, pg₁, hrun, hq₁, hc₁⟩ := covers_run hq hc ht
  obtain ⟨s', hcheckin, hnew, hq'⟩ := checkinCleanup_clean hq₁ hc₁
  exact ⟨s', by rw [serveClient, hrun]; exact hcheckin, hnew, hq'⟩

/-- **No client inherits another's session**: on a quiescent connection whose flags bound its
session, with `cleanup_server_connections`, clients that send only tracked statements are all
served, and each one after the first starts on a session with no setting changed and no cursor
open. -/
theorem serveClients_clean {pg : Postgres} (hq : Quiescent s) (hc : Covers s.cleanupState pg)
    (client : List Statement) (clients : List (List Statement))
    (ht : ∀ c ∈ client :: clients, ∀ st ∈ c, st.tracked = true) :
    ∃ s', serveClients true s pg (client :: clients) = (.ok s', ⟨[], []⟩) ∧
      s'.cleanupState = .new ∧ Quiescent s' := by
  induction clients generalizing s pg client with
  | nil =>
    obtain ⟨s', hserve, hnew, hq'⟩ := serveClient_clean hq hc (ht client List.mem_cons_self)
    exact ⟨s', by rw [serveClients, hserve]; rfl, hnew, hq'⟩
  | cons next clients ih =>
    obtain ⟨s₁, hserve, -, hq₁⟩ := serveClient_clean hq hc (ht client List.mem_cons_self)
    -- the next client starts on the clean session the checkin left
    obtain ⟨s', hrest, hnew, hq'⟩ := ih hq₁ (covers_clean _) next
      fun c hc' => ht c (List.mem_cons_of_mem client hc')
    exact ⟨s', by rw [serveClients, hserve]; exact hrest, hnew, hq'⟩

theorem serveClients_clean_from_startup :
    Quiescent (Server.startup 8 false) ∧ Covers (Server.startup 8 false).cleanupState ⟨[], []⟩ ∧
      (∀ c ∈ [[.set "search_path", .declare "c"], [.select, .closeAll, .fails]],
        ∀ st ∈ c, Statement.tracked st = true) ∧
      ∃ s', serveClients true (Server.startup 8 false) ⟨[], []⟩
          ([.set "search_path", .declare "c"] :: [[.select, .closeAll, .fails]]) =
            (.ok s', ⟨[], []⟩) ∧ s'.cleanupState = .new ∧ Quiescent s' :=
  ⟨quiescent_startup 8 false, covers_clean _, by decide,
    serveClients_clean (quiescent_startup 8 false) (covers_clean _) _ _ (by decide)⟩

end Checkin

/-! ## What the flags miss -/

section Leaks

variable {s : Server}

/-- **A statement PostgreSQL accepts**, on a quiescent connection: the query returns the session
the statement leaves, the flags as its effect says, and nothing pending for the checkin
changed. -/
theorem query_of_apply (pg : Postgres) (st : Statement) {pg' : Postgres} (hq : Quiescent s)
    (h : pg.apply st = some pg') :
    ∃ s', query s pg st = (.ok s', pg') ∧ Quiescent s' ∧
      s'.cleanupState = s.cleanupState.apply st.effect ∧
      s'.hasPendingCacheEntries = s.hasPendingCacheEntries ∧
      s'.deferredEvictionCloses = s.deferredEvictionCloses := by
  obtain ⟨s', hquery, hq', rfl⟩ := query_quiescent pg st hq
  have hrun : pg.runStatements [st] = (some pg', st.answer) := by
    simp [Postgres.runStatements, h]
  obtain ⟨hpending, hdeferred⟩ := pending_foldl_answer hq.sync st
  refine ⟨_, by rw [hquery]; simp [Postgres.simpleQuery, hrun], hq', ?_, ?_, ?_⟩ <;>
    simp only [hrun]
  exacts [cleanupState_foldl_answer hq.sync st, hpending, hdeferred]

theorem run_cons_of_query {pg : Postgres} {st : Statement} {sts : List Statement} {s₁ : Server}
    {pg₁ : Postgres} (h : query s pg st = (.ok s₁, pg₁)) : run s pg (st :: sts) = run s₁ pg₁ sts := by
  simp only [run, h]

theorem serveClient_of_run {pg : Postgres} {client : List Statement} {s₁ : Server} {pg₁ : Postgres}
    (h : run s pg client = (.ok s₁, pg₁)) :
    serveClient true s pg client = checkinCleanup true s₁ pg₁ := by
  simp only [serveClient, h]

/-- **A `RESET` of one setting disarms the flag for all of them**: on a quiescent connection, a
client that sets one setting and resets another hands the next client a session where the first
is still set; the role apart, which the checkin query resets when another flag is armed. -/
theorem serveClient_set_reset_keeps {pg : Postgres} {name other : String} (hq : Quiescent s)
    (hne : other ≠ name) (hrole : other ≠ "role") :
    ∃ s' pg', serveClient true s pg [.set other, .reset name] = (.ok s', pg') ∧
      other ∈ pg'.settings := by
  obtain ⟨s₁, hquery₁, hq₁, hflags₁, -, -⟩ := query_of_apply pg (.set other) hq rfl
  obtain ⟨s₂, hquery₂, hq₂, hflags₂, -, -⟩ :=
    query_of_apply { pg with settings := pg.settings.insert other } (.reset name) hq₁ rfl
  -- the `RESET` disarms the set flag, so the checkin query leaves the settings to `RESET ROLE`
  have hset : (armPendingCleanup s₂).cleanupState.needsCleanupSet = false := by
    rw [armPendingCleanup_eq]
    simp [hflags₂, Statement.effect, CleanupState.apply]
  obtain ⟨s', hcheckin, -, -⟩ := checkinCleanup_quiescent
    { pg with settings := (pg.settings.insert other).erase name } hq₂
  rw [serveClient_of_run (by rw [run_cons_of_query hquery₁, run_cons_of_query hquery₂]; rfl),
    hcheckin]
  refine ⟨s', _, rfl, ?_⟩
  have hkept : other ∈ (pg.settings.insert other).erase name :=
    (List.mem_erase_of_ne hne).2 List.mem_insert_self
  split
  · simpa [Postgres.simpleQuery, runStatements_resetStatements, hset, List.mem_erase_of_ne hrole]
      using hkept
  · exact hkept

theorem serveClient_set_reset_keeps_search_path :
    Quiescent (Server.startup 8 false) ∧ "search_path" ≠ "statement_timeout" ∧
      "search_path" ≠ "role" ∧
      ∃ s' pg', serveClient true (Server.startup 8 false) ⟨[], []⟩
          [.set "search_path", .reset "statement_timeout"] = (.ok s', pg') ∧
        "search_path" ∈ pg'.settings :=
  ⟨quiescent_startup 8 false, by decide, by decide,
    serveClient_set_reset_keeps (quiescent_startup 8 false) (by decide) (by decide)⟩

/-- **`RESET ALL` disarms the flag and leaves the role**: on a quiescent connection with no other
flag armed and nothing pending, a client that sets the role and then runs `RESET ALL` is checked
in with no query sent, and the role stays set for the next client. -/
theorem serveClient_resetAll_keeps_role {pg : Postgres} (hq : Quiescent s)
    (hprepare : s.cleanupState.needsCleanupPrepare = false)
    (hdeclare : s.cleanupState.needsCleanupDeclare = false)
    (hpending : s.hasPendingCacheEntries = false) (hdeferred : s.deferredEvictionCloses = []) :
    ∃ s' pg', serveClient true s pg [.set "role", .resetAll] = (.ok s', pg') ∧
      "role" ∈ pg'.settings := by
  obtain ⟨s₁, hquery₁, hq₁, hflags₁, hpending₁, hdeferred₁⟩ :=
    query_of_apply pg (.set "role") hq rfl
  obtain ⟨s₂, hquery₂, hq₂, hflags₂, hpending₂, hdeferred₂⟩ :=
    query_of_apply { pg with settings := pg.settings.insert "role" } .resetAll hq₁ rfl
  -- `SET ROLE` arms the set flag and `RESET ALL` disarms it; no other flag is armed
  have hclean : (armPendingCleanup s₂).cleanupState.needsCleanup = false := by
    rw [armPendingCleanup_eq]
    simp [hflags₂, hflags₁, hpending₂, hpending₁, hdeferred₂, hdeferred₁, Statement.effect,
      CleanupState.apply, CleanupState.needsCleanup, hprepare, hdeclare, hpending, hdeferred]
  obtain ⟨s', hcheckin, -, -⟩ := checkinCleanup_quiescent
    { pg with settings := (pg.settings.insert "role").filter (· ∈ noResetAll) } hq₂
  rw [hclean] at hcheckin
  rw [serveClient_of_run (by rw [run_cons_of_query hquery₁, run_cons_of_query hquery₂]; rfl),
    hcheckin]
  exact ⟨s', _, rfl, by simp [noResetAll]⟩

theorem serveClient_resetAll_keeps_role_from_startup :
    Quiescent (Server.startup 8 false) ∧
      (Server.startup 8 false).cleanupState.needsCleanupPrepare = false ∧
      (Server.startup 8 false).cleanupState.needsCleanupDeclare = false ∧
      (Server.startup 8 false).hasPendingCacheEntries = false ∧
      (Server.startup 8 false).deferredEvictionCloses = [] ∧
      ∃ s' pg', serveClient true (Server.startup 8 false) ⟨[], []⟩ [.set "role", .resetAll] =
          (.ok s', pg') ∧ "role" ∈ pg'.settings :=
  ⟨quiescent_startup 8 false, rfl, rfl, rfl, rfl,
    serveClient_resetAll_keeps_role (quiescent_startup 8 false) rfl rfl rfl rfl⟩

/-- **Checkin never resets the session authorization**: neither `RESET ROLE` nor `RESET ALL`
does, so from a quiescent connection a changed session authorization survives the checkin. -/
theorem checkinCleanup_keeps_session_authorization {pg : Postgres} (hq : Quiescent s)
    (h : "session_authorization" ∈ pg.settings) :
    ∃ s' pg', checkinCleanup true s pg = (.ok s', pg') ∧ "session_authorization" ∈ pg'.settings := by
  obtain ⟨s', hcheckin, -, -⟩ := checkinCleanup_quiescent pg hq
  refine ⟨s', _, hcheckin, ?_⟩
  split
  · simp only [Postgres.simpleQuery, runStatements_resetStatements, Option.getD_some]
    -- `RESET ALL` leaves the session authorization, and `RESET ROLE` resets another setting
    have hkept : "session_authorization" ∈ pg.settings.erase "role" :=
      (List.mem_erase_of_ne (by decide)).2 h
    split_ifs
    · exact List.mem_filter.2 ⟨hkept, by decide⟩
    · exact hkept
  · exact h

theorem checkinCleanup_keeps_session_authorization_from_startup :
    Quiescent (Server.startup 8 false) ∧
      "session_authorization" ∈ (⟨["session_authorization"], []⟩ : Postgres).settings ∧
      ∃ s' pg', checkinCleanup true (Server.startup 8 false) ⟨["session_authorization"], []⟩ =
          (.ok s', pg') ∧ "session_authorization" ∈ pg'.settings :=
  ⟨quiescent_startup 8 false, List.mem_singleton_self _,
    checkinCleanup_keeps_session_authorization (quiescent_startup 8 false)
      (List.mem_singleton_self _)⟩

end Leaks

end PgDoorman.Cleanup
