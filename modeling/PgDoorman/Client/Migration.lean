import PgDoorman.Basic
import PgDoorman.Wire.Cursor
import PgDoorman.Wire.Utf8
import PgDoorman.Messages.Extended
import PgDoorman.Server.Parameters
import PgDoorman.Net.IpAddr

/-!
# Migration state

During a binary upgrade `src/client/migration.rs` hands each idle client to the new process:
the old one writes the client's state with `serialize_state`, the new one reads it back with
`deserialize_state`. The writer puts lengths and counts with `as u16`, `as u32` and `as i16`,
which keep their low bits; the reader checks with `require` that each read has its bytes, and
answers a malformed buffer with a `ClientError`. Server parameters are read back through
`set_param`, which canonicalises their names again.

The peer address is written as its port and its IP printed with `Display`, and read back with
`FromStr` and `SocketAddr::new`: an IPv6 peer's flow label and scope are not written, and come
back as `0`.

## Main definitions

* `serializeState`: `Client::serialize_state` with `serialize_prepared_state`
* `require`, `getStr`, `deserializeState`: the reader
* `DeserializedState.Restores`: a read-back state holds the fields that were written

## Main results

* `run_deserializeState_serializeState`: within the bounds of its length fields, what
  `serialize_state` writes is read back to the state it was written from, the address as
  `SocketAddr::new` of its IP and port
* `deserializeState_ne_panic`: the reader panics on no buffer a `BytesMut` can hold
-/

namespace PgDoorman.Client

open Wire Server Net

/-! ## The state written -/

/-- `PreparedStatementKey`. -/
inductive PreparedStatementKey where
  | named (name : String)
  | anonymous (hash : UInt64)
  deriving Repr, DecidableEq

/-- A `CachedStatement`: its hash and its Parse. -/
structure CachedStatement where
  hash : UInt64
  parse : Messages.Parse

/-- The fields of `PreparedStatementState` that are written: the two flags and the cache
entries, in the cache's iteration order. -/
structure PreparedStatementState where
  enabled : Bool
  asyncClient : Bool
  cache : List (PreparedStatementKey × CachedStatement)

/-- `BackendAuthMethod`. -/
inductive BackendAuthMethod where
  | md5PassTheHash (hash : String)
  | scramPassthrough (clientKey : List UInt8)
  | scramPending
  deriving Repr, DecidableEq

/-- What `serialize_state` reads of an idle client: its own fields, and the backend auth of its
pool, `none` when there is no pool or the pool keeps no `backend_auth`. The secret key is the
bit pattern of its `i32`. -/
structure MigrationState where
  connectionId : UInt64
  secretKey : UInt32
  transactionMode : Bool
  poolName : String
  username : String
  addr : SocketAddr
  serverParameters : ServerParameters
  prepared : PreparedStatementState
  useTls : Bool
  backendAuth : Option BackendAuthMethod

/-- `MIGRATION_MAGIC`, `"PGMG"`. -/
def migrationMagic : Nat :=
  0x50474D47

/-- `MIGRATION_VERSION`. -/
def migrationVersion : Nat :=
  2

/-- `HEADER_SIZE`: magic, version, connection id, secret key, transaction mode. -/
def headerSize : Nat :=
  4 + 2 + 8 + 4 + 1

/-- `MAX_PREPARED_ENTRIES`. -/
def maxPreparedEntries : Nat :=
  100000

/-- `MAX_QUERY_LEN`, 10 MB. -/
def maxQueryLen : Nat :=
  10 * 1024 * 1024

/-- `isize::MAX` on a 64-bit target: no allocation, so no `BytesMut`, is larger. -/
def isizeMax : Nat :=
  2 ^ 63 - 1

/-! ## The writer -/

/-- `put_str`: the byte length `as u16`, then the bytes. -/
def putStr (s : String) : List UInt8 :=
  beBytes 2 (utf8Bytes s).length ++ utf8Bytes s

/-- `b as u8`. -/
def boolByte (b : Bool) : UInt8 :=
  if b then 1 else 0

/-- A cache key: the tag `0` and the name, or the tag `1` and the hash. -/
def serializeKey : PreparedStatementKey → List UInt8
  | .named name => 0 :: putStr name
  | .anonymous hash => 1 :: beBytes 8 hash.toNat

/-- One cache entry: its key, its hash, its query `as u32`-prefixed, and its parameter types
behind their count `as i16`. -/
def serializeEntry (e : PreparedStatementKey × CachedStatement) : List UInt8 :=
  serializeKey e.1 ++ beBytes 8 e.2.hash.toNat ++ beBytes 4 (utf8Bytes e.2.parse.query).length ++
    utf8Bytes e.2.parse.query ++ beBytes 2 e.2.parse.paramTypes.length ++
    e.2.parse.paramTypes.flatMap (fun t => beBytes 4 t.toNat)

/-- `serialize_prepared_state`. -/
def serializePreparedState (p : PreparedStatementState) : List UInt8 :=
  boolByte p.enabled :: boolByte p.asyncClient :: beBytes 4 p.cache.length ++
    p.cache.flatMap serializeEntry

/-- The backend auth section: a tag and what the method holds. -/
def serializeBackendAuth : Option BackendAuthMethod → List UInt8
  | none => [0]
  | some (.md5PassTheHash hash) => 1 :: putStr hash
  | some (.scramPassthrough clientKey) => 2 :: beBytes 2 clientKey.length ++ clientKey
  | some .scramPending => [3]

/-- The server parameters: their count `as u16`, then each name and value, in the map's
iteration order. -/
def serializeParams (parameters : AList (fun _ : String => String)) : List UInt8 :=
  beBytes 2 parameters.entries.length ++ parameters.entries.flatMap (fun e => putStr e.1 ++ putStr e.2)

/-- `Client::serialize_state`. -/
def serializeState (s : MigrationState) : List UInt8 :=
  beBytes 4 migrationMagic ++ beBytes 2 migrationVersion ++ beBytes 8 s.connectionId.toNat ++
    beBytes 4 s.secretKey.toNat ++ [boolByte s.transactionMode] ++ putStr s.poolName ++
    putStr s.username ++ beBytes 2 s.addr.port.toNat ++
    (UInt8.ofNat (utf8Bytes s.addr.ip.toString).length :: utf8Bytes s.addr.ip.toString) ++
    serializeParams s.serverParameters.parameters ++ serializePreparedState s.prepared ++
    [boolByte s.useTls] ++ serializeBackendAuth s.backendAuth

/-! ## The reader -/

/-- A cache entry as `deserialize_state` reads it. -/
structure PreparedEntry where
  key : PreparedStatementKey
  hash : UInt64
  query : String
  paramTypes : List UInt32
  deriving Repr, DecidableEq

/-- `DeserializedState`. -/
structure DeserializedState where
  connectionId : UInt64
  secretKey : UInt32
  transactionMode : Bool
  poolName : String
  username : String
  addr : SocketAddr
  serverParameters : ServerParameters
  preparedEnabled : Bool
  asyncClient : Bool
  preparedEntries : List PreparedEntry
  useTls : Bool
  backendAuth : Option BackendAuthMethod

/-- The entry a cache entry is read back as. -/
def PreparedEntry.ofCached (e : PreparedStatementKey × CachedStatement) : PreparedEntry :=
  ⟨e.1, e.2.hash, e.2.parse.query, e.2.parse.paramTypes⟩

/-- The bounds within which every length and count `serialize_state` writes fits its field, and
the names of the server parameters are canonical. -/
structure MigrationState.Fits (s : MigrationState) : Prop where
  poolName : (utf8Bytes s.poolName).length < 2 ^ 16
  username : (utf8Bytes s.username).length < 2 ^ 16
  paramCount : s.serverParameters.parameters.entries.length < 2 ^ 16
  params : ∀ e ∈ s.serverParameters.parameters.entries,
    (utf8Bytes e.1).length < 2 ^ 16 ∧ (utf8Bytes e.2).length < 2 ^ 16
  canonical : ∀ k ∈ s.serverParameters.parameters, canonicalizeParamName k = k
  cacheCount : s.prepared.cache.length ≤ maxPreparedEntries
  names : ∀ e ∈ s.prepared.cache, ∀ name, e.1 = .named name → (utf8Bytes name).length < 2 ^ 16
  queries : ∀ e ∈ s.prepared.cache, (utf8Bytes e.2.parse.query).length ≤ maxQueryLen
  paramTypes : ∀ e ∈ s.prepared.cache, e.2.parse.paramTypes.length < 2 ^ 15
  md5Hash : ∀ hash, s.backendAuth = some (.md5PassTheHash hash) → (utf8Bytes hash).length < 2 ^ 16
  clientKey : ∀ key, s.backendAuth = some (.scramPassthrough key) → key.length < 2 ^ 16

/-- The bounds do not concern the address. -/
theorem MigrationState.Fits.withAddr {s : MigrationState} (hs : s.Fits) (addr : SocketAddr) :
    ({ s with addr := addr } : MigrationState).Fits :=
  ⟨hs.poolName, hs.username, hs.paramCount, hs.params, hs.canonical, hs.cacheCount, hs.names,
    hs.queries, hs.paramTypes, hs.md5Hash, hs.clientKey⟩

/-- A read-back state holds the fields of the state that was written; the address is rebuilt by
`SocketAddr::new` from its IP and port, and the server parameters are compared by what they
look up, the map being rebuilt in another order. -/
structure DeserializedState.Restores (d : DeserializedState) (s : MigrationState) : Prop where
  connectionId : d.connectionId = s.connectionId
  secretKey : d.secretKey = s.secretKey
  transactionMode : d.transactionMode = s.transactionMode
  poolName : d.poolName = s.poolName
  username : d.username = s.username
  addr : d.addr = SocketAddr.new s.addr.ip s.addr.port
  serverParameters : ∀ k, d.serverParameters.parameters.lookup k = s.serverParameters.parameters.lookup k
  preparedEnabled : d.preparedEnabled = s.prepared.enabled
  asyncClient : d.asyncClient = s.prepared.asyncClient
  preparedEntries : d.preparedEntries = s.prepared.cache.map PreparedEntry.ofCached
  useTls : d.useTls = s.useTls
  backendAuth : d.backendAuth = s.backendAuth

/-- `require`: at least `need` bytes remain. -/
def require (need : Nat) : Cursor Error Unit := do
  let remaining ← Cursor.remaining
  if remaining < need then
    throw (.clientError ("migration: need " ++ toString need ++ " bytes, have " ++
      toString remaining))

/-- `get_str`: a `u16` length, then that many bytes of UTF-8. -/
def getStr : Cursor Error String := do
  require 2
  let len ← Cursor.getBe 2
  require len
  let v ← Cursor.getBytes len
  match fromUtf8 v with
  | some s => pure s
  | none => throw (.clientError "migration: invalid utf8")

/-- `{:#x}`: `0x` and the lower-case hexadecimal digits. -/
def hexString (n : Nat) : String :=
  "0x" ++ String.ofList (Nat.toDigits 16 n)

/-- The address: the port, the length of the printed address and the address. -/
def getAddr : Cursor Error SocketAddr := do
  require 3
  let port ← Cursor.getBe 2
  let ipLen ← Cursor.getBe 1
  require ipLen
  let ipBytes ← Cursor.getBytes ipLen
  let ipStr ← match fromUtf8 ipBytes with
    | some s => pure s
    | none => throw (.clientError "bad ip")
  match IpAddr.fromStr ipStr with
  | some ip => pure (SocketAddr.new ip (UInt16.ofNat port))
  | none => throw (.clientError "bad ip parse")

/-- The loop over the server parameters, each set with `set_param(k, v, true)`. -/
def getParams : Nat → ServerParameters → Cursor Error ServerParameters
  | 0, sp => pure sp
  | n + 1, sp => do
    let k ← getStr
    let v ← getStr
    getParams n (sp.setParam k v true).2

/-- The server parameters: a `u16` count and the loop. -/
def getServerParameters : Cursor Error ServerParameters := do
  require 2
  let paramCount ← Cursor.getBe 2
  getParams paramCount ServerParameters.new

/-- The loop over a statement's parameter types, `get_i32` each. -/
def getParamTypes : Nat → Cursor Error (List UInt32)
  | 0 => pure []
  | n + 1 => do
    let t ← Cursor.getBe 4
    let ts ← getParamTypes n
    pure (UInt32.ofNat t :: ts)

/-- A cache entry's key: a tag, then the name after `0` and the hash after any other tag. -/
def getKey : Cursor Error PreparedStatementKey := do
  require 1
  let keyType ← Cursor.getBe 1
  if keyType = 0 then PreparedStatementKey.named <$> getStr else do
    require 8
    let hash ← Cursor.getBe 8
    pure (PreparedStatementKey.anonymous (UInt64.ofNat hash))

/-- One cache entry. The count of parameter types is an `i16` sign-extended to `usize`, and
`num_params * 4` wraps. -/
def getPreparedEntry : Cursor Error PreparedEntry := do
  let key ← getKey
  require (8 + 4)
  let hash ← Cursor.getBe 8
  let queryLen ← Cursor.getBe 4
  if queryLen > maxQueryLen then
    throw (.clientError ("migration: query_len " ++ toString queryLen ++ " exceeds limit " ++
      toString maxQueryLen))
  require queryLen
  let queryBytes ← Cursor.getBytes queryLen
  let query ← match fromUtf8 queryBytes with
    | some q => pure q
    | none => throw (.clientError "bad query utf8")
  require 2
  let numParams := Messages.i16AsUsize (UInt16.ofNat (← Cursor.getBe 2))
  require (numParams * 4 % 2 ^ 64)
  -- `Vec::with_capacity(num_params)` panics when the `i32`s would pass `isize::MAX` bytes
  if isizeMax < numParams * 4 then Cursor.panic
  let paramTypes ← getParamTypes numParams
  pure ⟨key, UInt64.ofNat hash, query, paramTypes⟩

/-- The loop over the cache entries. -/
def getPreparedEntries : Nat → Cursor Error (List PreparedEntry)
  | 0 => pure []
  | n + 1 => do
    let e ← getPreparedEntry
    let es ← getPreparedEntries n
    pure (e :: es)

/-- The prepared statements: the two flags, a `u32` count within `MAX_PREPARED_ENTRIES`, and
the entries. -/
def getPreparedState : Cursor Error (Bool × Bool × List PreparedEntry) := do
  require (2 + 4)
  let preparedEnabled ← Cursor.getBe 1
  let asyncClient ← Cursor.getBe 1
  let cacheCount ← Cursor.getBe 4
  if cacheCount > maxPreparedEntries then
    throw (.clientError ("migration: cache_count " ++ toString cacheCount ++ " exceeds limit " ++
      toString maxPreparedEntries))
  let entries ← getPreparedEntries cacheCount
  pure (preparedEnabled != 0, asyncClient != 0, entries)

/-- The optional backend auth section: absent when no byte is left; an unknown tag reads as
none. -/
def getBackendAuth : Cursor Error (Option BackendAuthMethod) := do
  let remaining ← Cursor.remaining
  if 0 < remaining then
    let tag ← Cursor.getBe 1
    match tag with
    | 1 =>
      let hash ← getStr
      pure (some (.md5PassTheHash hash))
    | 2 =>
      require 2
      let keyLen ← Cursor.getBe 2
      require keyLen
      let key ← Cursor.getBytes keyLen
      pure (some (.scramPassthrough key))
    | 3 => pure (some .scramPending)
    | _ => pure none
  else pure none

/-- `deserialize_state`. -/
def deserializeState : Cursor Error DeserializedState := do
  require headerSize
  let magic ← Cursor.getBe 4
  if magic ≠ migrationMagic then
    throw (.clientError ("migration: bad magic " ++ hexString magic))
  let version ← Cursor.getBe 2
  if version ≠ migrationVersion then
    throw (.clientError ("migration: unsupported version " ++ toString version))
  let connectionId ← Cursor.getBe 8
  let secretKey ← Cursor.getBe 4
  let transactionMode ← Cursor.getBe 1
  let poolName ← getStr
  let username ← getStr
  let addr ← getAddr
  let serverParameters ← getServerParameters
  let (preparedEnabled, asyncClient, preparedEntries) ← getPreparedState
  require 1
  let useTls ← Cursor.getBe 1
  let backendAuth ← getBackendAuth
  pure ⟨UInt64.ofNat connectionId, UInt32.ofNat secretKey, transactionMode != 0, poolName,
    username, addr, serverParameters, preparedEnabled, asyncClient, preparedEntries, useTls != 0,
    backendAuth⟩

/-! ## Reading what was written -/

section Runs

open Cursor

theorem run_require_of_le {need : Nat} {bs : List UInt8} (h : need ≤ bs.length) :
    (require need).run bs = .ok ((), bs) := by
  unfold require
  rw [run_bind_of_ok (run_remaining bs), if_neg (Nat.not_lt.mpr h)]
  rfl

theorem run_getStr_putStr {s : String} (hs : (utf8Bytes s).length < 2 ^ 16) (rest : List UInt8) :
    getStr.run (putStr s ++ rest) = .ok (s, rest) := by
  unfold getStr putStr
  rw [List.append_assoc, run_bind_of_ok (run_require_of_le (by simp)),
    run_bind_of_ok (run_getBe_beBytes_append 2 _ _), Nat.mod_eq_of_lt (show _ < 256 ^ 2 from hs),
    run_bind_of_ok (run_require_of_le (by simp)), run_bind_of_ok (run_getBytes_append _ _),
    fromUtf8_utf8Bytes]
  rfl

theorem run_require_bind {need : Nat} {bs : List UInt8} (h : need ≤ bs.length)
    {β : Type} (f : Unit → Cursor Error β) : (require need >>= f).run bs = (f ()).run bs :=
  run_bind_of_ok (run_require_of_le h)

/-- `b as u8` read back and compared with `0`. -/
@[simp] theorem boolByte_toNat_bne (b : Bool) : ((boolByte b).toNat != 0) = b := by
  cases b <;> rfl

/-- The address is read back as `SocketAddr::new` of its IP and port, the printed IP being short
enough for its length byte. -/
theorem run_getAddr (addr : SocketAddr) (rest : List UInt8) :
    getAddr.run (beBytes 2 addr.port.toNat ++
      UInt8.ofNat (utf8Bytes addr.ip.toString).length :: (utf8Bytes addr.ip.toString ++ rest)) =
      .ok (SocketAddr.new addr.ip addr.port, rest) := by
  have hlen : (utf8Bytes addr.ip.toString).length < 256 :=
    Nat.lt_of_le_of_lt (length_utf8Bytes_toString addr.ip) (by decide)
  unfold getAddr
  rw [run_require_bind (by simp; omega), run_bind_of_ok (run_getBe_beBytes_append 2 _ _),
    run_bind_of_ok (run_getBe_one_cons _ _),
    toNat_ofNat_of_lt hlen, run_require_bind (by simp),
    run_bind_of_ok (run_getBytes_append _ _), fromUtf8_utf8Bytes]
  simp [fromStr_toString]

/-- The server parameters read back: each name and value set in turn. -/
theorem run_getParams (entries : List (Σ _ : String, String))
    (hlen : ∀ e ∈ entries, (utf8Bytes e.1).length < 2 ^ 16 ∧ (utf8Bytes e.2).length < 2 ^ 16)
    (sp : ServerParameters) (rest : List UInt8) :
    (getParams entries.length sp).run
        (entries.flatMap (fun e => putStr e.1 ++ putStr e.2) ++ rest) =
      .ok (entries.foldl (fun sp e => (sp.setParam e.1 e.2 true).2) sp, rest) := by
  induction entries generalizing sp with
  | nil => rfl
  | cons e entries ih =>
    have ⟨hkey, hvalue⟩ := hlen e List.mem_cons_self
    rw [List.length_cons, getParams, List.flatMap_cons, List.append_assoc, List.append_assoc,
      run_bind_of_ok (run_getStr_putStr hkey _), run_bind_of_ok (run_getStr_putStr hvalue _),
      ih (fun e he => hlen e (List.mem_cons_of_mem _ he))]
    rfl

theorem run_getServerParameters {parameters : AList (fun _ : String => String)}
    (hcount : parameters.entries.length < 2 ^ 16)
    (hlen : ∀ e ∈ parameters.entries,
      (utf8Bytes e.1).length < 2 ^ 16 ∧ (utf8Bytes e.2).length < 2 ^ 16) (rest : List UInt8) :
    getServerParameters.run (serializeParams parameters ++ rest) =
      .ok (parameters.entries.foldl (fun sp e => (sp.setParam e.1 e.2 true).2)
        ServerParameters.new, rest) := by
  unfold getServerParameters serializeParams
  rw [List.append_assoc, run_require_bind (by simp),
    run_bind_of_ok (run_getBe_beBytes_append 2 _ _),
    Nat.mod_eq_of_lt (show _ < 256 ^ 2 from hcount), run_getParams _ hlen]

theorem run_getParamTypes (ts : List UInt32) (rest : List UInt8) :
    (getParamTypes ts.length).run (ts.flatMap (fun t => beBytes 4 t.toNat) ++ rest) =
      .ok (ts, rest) := by
  induction ts with
  | nil => rfl
  | cons t ts ih =>
    rw [List.length_cons, getParamTypes, List.flatMap_cons, List.append_assoc,
      run_bind_of_ok (run_getBe_beBytes_append 4 _ _), run_bind_of_ok ih,
      show (256 : Nat) ^ 4 = 2 ^ 32 from rfl, UInt32.ofNat_mod_size]
    simp

theorem run_getKey {key : PreparedStatementKey}
    (hkey : ∀ name, key = .named name → (utf8Bytes name).length < 2 ^ 16) (rest : List UInt8) :
    getKey.run (serializeKey key ++ rest) = .ok (key, rest) := by
  unfold getKey
  cases key with
  | named name =>
    rw [serializeKey, run_require_bind (by simp), List.cons_append,
      run_bind_of_ok (run_getBe_one_cons _ _), if_pos (by decide),
      run_map_of_ok (run_getStr_putStr (hkey name rfl) _)]
  | anonymous hash =>
    rw [serializeKey, run_require_bind (by simp), List.cons_append,
      run_bind_of_ok (run_getBe_one_cons _ _), if_neg (by decide), run_require_bind (by simp),
      run_bind_of_ok (run_getBe_beBytes_append 8 _ _),
      show (256 : Nat) ^ 8 = 2 ^ 64 from rfl, UInt64.ofNat_mod_size]
    simp

theorem run_getPreparedEntry {e : PreparedStatementKey × CachedStatement}
    (hkey : ∀ name, e.1 = .named name → (utf8Bytes name).length < 2 ^ 16)
    (hquery : (utf8Bytes e.2.parse.query).length ≤ maxQueryLen)
    (htypes : e.2.parse.paramTypes.length < 2 ^ 15) (rest : List UInt8) :
    getPreparedEntry.run (serializeEntry e ++ rest) = .ok (PreparedEntry.ofCached e, rest) := by
  have hquery' : (utf8Bytes e.2.parse.query).length < 256 ^ 4 := by
    unfold maxQueryLen at hquery
    omega
  unfold getPreparedEntry serializeEntry
  simp only [List.append_assoc]
  rw [run_bind_of_ok (run_getKey hkey _), run_require_bind (by simp; omega),
    run_bind_of_ok (run_getBe_beBytes_append 8 _ _), run_bind_of_ok (run_getBe_beBytes_append 4 _ _),
    Nat.mod_eq_of_lt hquery', if_neg (Nat.not_lt.mpr hquery), run_require_bind (by simp),
    run_bind_of_ok (run_getBytes_append _ _), fromUtf8_utf8Bytes]
  dsimp only
  rw [run_bind_of_ok (run_pure _ _), run_require_bind (by simp),
    run_bind_of_ok (run_getBe_beBytes_append 2 _ _),
    Nat.mod_eq_of_lt (show _ < 256 ^ 2 by omega), Messages.i16AsUsize_ofNat htypes,
    Nat.mod_eq_of_lt (show _ < 2 ^ 64 by omega), run_require_bind (by simp),
    if_neg (by unfold isizeMax; omega), run_bind_of_ok (run_getParamTypes _ _),
    show (256 : Nat) ^ 8 = 2 ^ 64 from rfl, UInt64.ofNat_mod_size]
  simp [PreparedEntry.ofCached]

theorem run_getPreparedEntries {cache : List (PreparedStatementKey × CachedStatement)}
    (hnames : ∀ e ∈ cache, ∀ name, e.1 = .named name → (utf8Bytes name).length < 2 ^ 16)
    (hqueries : ∀ e ∈ cache, (utf8Bytes e.2.parse.query).length ≤ maxQueryLen)
    (htypes : ∀ e ∈ cache, e.2.parse.paramTypes.length < 2 ^ 15) (rest : List UInt8) :
    (getPreparedEntries cache.length).run (cache.flatMap serializeEntry ++ rest) =
      .ok (cache.map PreparedEntry.ofCached, rest) := by
  induction cache with
  | nil => rfl
  | cons e cache ih =>
    have he := List.mem_cons_self (a := e) (l := cache)
    rw [List.length_cons, getPreparedEntries, List.flatMap_cons, List.append_assoc,
      run_bind_of_ok (run_getPreparedEntry (hnames e he) (hqueries e he) (htypes e he) _),
      run_bind_of_ok (ih (fun e h => hnames e (List.mem_cons_of_mem _ h))
        (fun e h => hqueries e (List.mem_cons_of_mem _ h))
        (fun e h => htypes e (List.mem_cons_of_mem _ h)))]
    rfl

theorem run_getPreparedState {p : PreparedStatementState}
    (hcount : p.cache.length ≤ maxPreparedEntries)
    (hnames : ∀ e ∈ p.cache, ∀ name, e.1 = .named name → (utf8Bytes name).length < 2 ^ 16)
    (hqueries : ∀ e ∈ p.cache, (utf8Bytes e.2.parse.query).length ≤ maxQueryLen)
    (htypes : ∀ e ∈ p.cache, e.2.parse.paramTypes.length < 2 ^ 15) (rest : List UInt8) :
    getPreparedState.run (serializePreparedState p ++ rest) =
      .ok ((p.enabled, p.asyncClient, p.cache.map PreparedEntry.ofCached), rest) := by
  unfold getPreparedState serializePreparedState
  simp only [List.cons_append, List.append_assoc]
  rw [run_require_bind (by simp), run_bind_of_ok (run_getBe_one_cons _ _),
    run_bind_of_ok (run_getBe_one_cons _ _), run_bind_of_ok (run_getBe_beBytes_append 4 _ _),
    Nat.mod_eq_of_lt (show _ < 256 ^ 4 by unfold maxPreparedEntries at hcount; omega),
    if_neg (Nat.not_lt.mpr hcount),
    run_bind_of_ok (run_getPreparedEntries hnames hqueries htypes _)]
  simp

theorem run_getBackendAuth {auth : Option BackendAuthMethod}
    (hhash : ∀ hash, auth = some (.md5PassTheHash hash) → (utf8Bytes hash).length < 2 ^ 16)
    (hkey : ∀ key, auth = some (.scramPassthrough key) → key.length < 2 ^ 16)
    (rest : List UInt8) :
    getBackendAuth.run (serializeBackendAuth auth ++ rest) = .ok (auth, rest) := by
  unfold getBackendAuth
  -- a tag is left to read, and it is the method's
  rcases auth with _ | hash | key | _ <;> simp only [serializeBackendAuth, List.cons_append] <;>
    rw [run_bind_of_ok (run_remaining _), if_pos (by simp),
      run_bind_of_ok (run_getBe_one_cons _ _)]
  · rfl
  · simp only [UInt8.reduceToNat]
    rw [run_bind_of_ok (run_getStr_putStr (hhash hash rfl) _)]
    rfl
  · have hlen : key.length < 256 ^ 2 := hkey key rfl
    simp only [List.append_assoc, UInt8.reduceToNat]
    rw [run_require_bind (by simp), run_bind_of_ok (run_getBe_beBytes_append 2 _ _),
      Nat.mod_eq_of_lt hlen, run_require_bind (by simp), run_bind_of_ok (run_getBytes_append _ _)]
    rfl
  · rfl

/-- Setting distinct canonical names in turn looks each up to its value. -/
theorem lookup_foldl_setParam {entries : List (Σ _ : String, String)} (hnodup : entries.NodupKeys)
    (hcanonical : ∀ e ∈ entries, canonicalizeParamName e.1 = e.1) (sp : ServerParameters)
    (k : String) :
    (entries.foldl (fun sp e => (sp.setParam e.1 e.2 true).2) sp).parameters.lookup k =
      (entries.dlookup k).or (sp.parameters.lookup k) := by
  induction entries generalizing sp with
  | nil => simp
  | cons e entries ih =>
    obtain ⟨key, value⟩ := e
    rw [List.foldl_cons, ih (hnodup.sublist (List.sublist_cons_self _ _))
      (fun e he => hcanonical e (List.mem_cons_of_mem _ he)),
      parameters_setParam_of_canonical _ (hcanonical _ List.mem_cons_self)]
    by_cases hk : k = key
    · subst hk
      rw [List.dlookup_eq_none.mpr (List.nodupKeys_cons.mp hnodup).1, List.dlookup_cons_eq,
        AList.lookup_insert]
      rfl
    · rw [List.dlookup_cons_ne _ _ hk, AList.lookup_insert_ne hk]

/-- The server parameters read back look up as those written, their names being canonical. -/
theorem lookup_readParameters {s : MigrationState} (hs : s.Fits) (k : String) :
    (s.serverParameters.parameters.entries.foldl (fun sp e => (sp.setParam e.1 e.2 true).2)
      ServerParameters.new).parameters.lookup k = s.serverParameters.parameters.lookup k := by
  rw [lookup_foldl_setParam s.serverParameters.parameters.nodupKeys
    (fun e he => hs.canonical e.1 (AList.mem_keys.mp (List.mem_keys_of_mem he)))]
  -- the snapshot the reader starts from is empty
  simp [ServerParameters.new, AList.lookup]

/-- A SCRAM client key is written with its length `as u16`: what is read back is its first
`length % 2 ^ 16` bytes, the others left unread. -/
theorem run_getBackendAuth_scramPassthrough (key : List UInt8) :
    getBackendAuth.run (serializeBackendAuth (some (.scramPassthrough key))) =
      .ok (some (.scramPassthrough (key.take (key.length % 2 ^ 16))), key.drop (key.length % 2 ^ 16)) := by
  unfold getBackendAuth
  simp only [serializeBackendAuth, List.cons_append]
  rw [run_bind_of_ok (run_remaining _), if_pos (by simp), run_bind_of_ok (run_getBe_one_cons _ _)]
  simp only [UInt8.reduceToNat]
  rw [run_require_bind (by simp), run_bind_of_ok (run_getBe_beBytes_append 2 _ _),
    run_require_bind (by simp; omega), run_bind_of_ok (run_getBytes_of_le (by simp; omega))]
  rfl

/-- What `deserialize_state` reads of what `serialize_state` wrote, when every length before
the backend auth section fits its field: the state's fields, its server parameters set in turn
into a new snapshot, and the backend auth as `getBackendAuth` reads the section written for it. -/
theorem run_deserializeState_serializeState_auth {s : MigrationState} (hs : s.Fits)
    (auth : Option BackendAuthMethod) :
    deserializeState.run (serializeState { s with backendAuth := auth }) =
      (fun r => (⟨s.connectionId, s.secretKey, s.transactionMode, s.poolName, s.username,
        SocketAddr.new s.addr.ip s.addr.port,
        s.serverParameters.parameters.entries.foldl (fun sp e => (sp.setParam e.1 e.2 true).2)
          ServerParameters.new, s.prepared.enabled, s.prepared.asyncClient,
        s.prepared.cache.map PreparedEntry.ofCached, s.useTls, r.1⟩, r.2)) <$>
        getBackendAuth.run (serializeBackendAuth auth) := by
  unfold deserializeState serializeState
  simp only [List.append_assoc, List.cons_append, List.nil_append]
  -- the header
  rw [run_require_bind (by simp [headerSize]; omega), run_bind_of_ok (run_getBe_beBytes_append 4 _ _),
    if_neg (by decide), run_bind_of_ok (run_getBe_beBytes_append 2 _ _), if_neg (by decide),
    run_bind_of_ok (run_getBe_beBytes_append 8 _ _), run_bind_of_ok (run_getBe_beBytes_append 4 _ _),
    run_bind_of_ok (run_getBe_one_cons _ _)]
  -- the names, the address, the parameters and the prepared statements
  rw [run_bind_of_ok (run_getStr_putStr hs.poolName _), run_bind_of_ok (run_getStr_putStr hs.username _),
    run_bind_of_ok (run_getAddr s.addr _),
    run_bind_of_ok (run_getServerParameters hs.paramCount hs.params _),
    run_bind_of_ok (run_getPreparedState hs.cacheCount hs.names hs.queries hs.paramTypes _)]
  dsimp only
  rw [run_require_bind (by simp), run_bind_of_ok (run_getBe_one_cons _ _), StateT.run_bind,
    show (256 : Nat) ^ 8 = 2 ^ 64 from rfl, UInt64.ofNat_mod_size,
    show (256 : Nat) ^ 4 = 2 ^ 32 from rfl, UInt32.ofNat_mod_size, map_eq_bind_pure_comp]
  simp only [boolByte_toNat_bne, UInt64.ofNat_toNat, UInt32.ofNat_toNat]
  rfl

/-- **What `deserialize_state` reads of what `serialize_state` wrote**, when every length fits
its field: the state's fields, and its server parameters set in turn into a new snapshot. -/
theorem run_deserializeState_serializeState {s : MigrationState} (hs : s.Fits) :
    deserializeState.run (serializeState s) =
      .ok (⟨s.connectionId, s.secretKey, s.transactionMode, s.poolName, s.username,
        SocketAddr.new s.addr.ip s.addr.port,
        s.serverParameters.parameters.entries.foldl (fun sp e => (sp.setParam e.1 e.2 true).2)
          ServerParameters.new, s.prepared.enabled, s.prepared.asyncClient,
        s.prepared.cache.map PreparedEntry.ofCached, s.useTls, s.backendAuth⟩, []) := by
  have h := run_deserializeState_serializeState_auth hs s.backendAuth
  rw [← List.append_nil (serializeBackendAuth s.backendAuth),
    run_getBackendAuth hs.md5Hash hs.clientKey] at h
  exact h

end Runs

/-! ## No panic

Each read of the reader is preceded by a `require` of its bytes, so a read never finds the buffer
short. The one panic left is the allocation of the parameter types, which the checks rule out on
a buffer of at most `isize::MAX` bytes. -/

section Safety

open Cursor

variable {hi : Nat}

/-- A short buffer is answered with an error; otherwise the rest runs on a buffer of at least
`need` bytes. -/
theorem safeOn_require_bind {lo need : Nat} {β : Type} {f : Unit → Cursor Error β}
    (hf : SafeOn (max lo need) hi (f ())) : SafeOn lo hi (require need >>= f) := by
  intro bs hlo hhi
  by_cases h : need ≤ bs.length
  · unfold Wp
    rw [run_require_bind h]
    exact hf bs (max_le hlo h) hhi
  · unfold Wp require
    rw [bind_assoc, run_bind_of_ok (run_remaining bs), if_pos (Nat.lt_of_not_le h),
      run_bind_of_err (run_throw _ _)]
    trivial

theorem safeOn_getStr {lo : Nat} : SafeOn lo hi getStr := by
  unfold getStr
  apply safeOn_require_bind
  apply safeOn_getBe_bind (le_max_right _ _)
  intro len
  apply safeOn_require_bind
  apply safeOn_getBytes_bind (le_max_right _ _)
  intro v
  split
  · exact safeOn_pure _
  · exact safeOn_throw _

theorem safeOn_getAddr {lo : Nat} : SafeOn lo hi getAddr := by
  unfold getAddr
  apply safeOn_require_bind
  apply safeOn_getBe_bind (by omega)
  intro port
  apply safeOn_getBe_bind (by omega)
  intro ipLen
  apply safeOn_require_bind
  apply safeOn_getBytes_bind (le_max_right _ _)
  intro ipBytes
  dsimp only
  split
  · apply safeOn_bind (safeOn_pure _)
    intro ipStr
    split
    · exact safeOn_pure _
    · exact safeOn_throw _
  · exact safeOn_throw_bind _ _

theorem safeOn_getParams {lo : Nat} (n : Nat) (sp : ServerParameters) :
    SafeOn lo hi (getParams n sp) := by
  induction n generalizing sp lo with
  | zero => exact safeOn_pure _
  | succ n ih =>
    unfold getParams
    apply safeOn_bind safeOn_getStr
    intro k
    apply safeOn_bind safeOn_getStr
    intro v
    exact ih _

theorem safeOn_getServerParameters {lo : Nat} : SafeOn lo hi getServerParameters := by
  unfold getServerParameters
  apply safeOn_require_bind
  apply safeOn_getBe_bind (le_max_right _ _)
  intro paramCount
  exact safeOn_getParams _ _

/-- The types are read without a check of their own: the one before the loop covers them. -/
theorem safeOn_getParamTypes (n : Nat) : SafeOn (n * 4) hi (getParamTypes n) := by
  induction n with
  | zero => exact safeOn_pure _
  | succ n ih =>
    unfold getParamTypes
    apply safeOn_getBe_bind (by omega)
    intro t
    apply safeOn_bind (ih.mono (by omega))
    intro ts
    exact safeOn_pure _

theorem safeOn_getKey {lo : Nat} : SafeOn lo hi getKey := by
  unfold getKey
  apply safeOn_require_bind
  apply safeOn_getBe_bind (le_max_right _ _)
  intro keyType
  apply safeOn_ite
  · intro _
    exact safeOn_map safeOn_getStr
  · intro _
    apply safeOn_require_bind
    apply safeOn_getBe_bind (le_max_right _ _)
    intro hash
    exact safeOn_pure _

/-- A count read as an `i16` and sign-extended: when the wrapped product is within `isize::MAX`,
so is the product, a negative count giving a product near `2 ^ 64`. -/
theorem i16AsUsize_mul_four_le {n : UInt16} (h : Messages.i16AsUsize n * 4 % 2 ^ 64 ≤ isizeMax) :
    Messages.i16AsUsize n * 4 ≤ isizeMax := by
  have hn := n.toNat_lt
  unfold Messages.i16AsUsize isizeMax at *
  split_ifs at h ⊢ <;> omega

/-- The one panic of the reader, the allocation of the parameter types, is ruled out on a buffer
of at most `isize::MAX` bytes by the check of their bytes before it. -/
theorem safeOn_getPreparedEntry {lo : Nat} (hhi : hi ≤ isizeMax) : SafeOn lo hi getPreparedEntry := by
  unfold getPreparedEntry
  apply safeOn_bind safeOn_getKey
  intro key
  apply safeOn_require_bind
  apply safeOn_getBe_bind (by omega)
  intro hash
  apply safeOn_getBe_bind (by omega)
  intro queryLen
  apply safeOn_ite
  · intro _
    exact safeOn_throw_bind _ _
  · intro _
    apply safeOn_require_bind
    apply safeOn_getBytes_bind (le_max_right _ _)
    intro queryBytes
    have hrest : ∀ query, SafeOn 0 hi (do
        require 2
        let numParams := Messages.i16AsUsize (UInt16.ofNat (← Cursor.getBe 2))
        require (numParams * 4 % 2 ^ 64)
        if isizeMax < numParams * 4 then Cursor.panic
        let paramTypes ← getParamTypes numParams
        pure (⟨key, UInt64.ofNat hash, query, paramTypes⟩ : PreparedEntry)) := by
      intro query
      apply safeOn_require_bind
      apply safeOn_getBe_bind (le_max_right _ _)
      intro count
      apply safeOn_require_bind
      apply safeOn_ite
      · intro hbig
        -- what remains bounds the wrapped product, which then bounds the product
        apply safeOn_of_lt
        have := mt i16AsUsize_mul_four_le (Nat.not_le.mpr hbig)
        omega
      · intro hfits
        -- the product fits in a `usize`, so the check was of the bytes of all the types
        have hmod : Messages.i16AsUsize (UInt16.ofNat count) * 4 % 2 ^ 64 =
            Messages.i16AsUsize (UInt16.ofNat count) * 4 :=
          Nat.mod_eq_of_lt (by unfold isizeMax at hfits; omega)
        dsimp only
        rw [hmod]
        apply safeOn_bind ((safeOn_getParamTypes _).mono (le_max_right _ _))
        intro paramTypes
        exact safeOn_pure _
    split
    · exact safeOn_bind (safeOn_pure _) hrest
    · exact safeOn_throw_bind _ _

theorem safeOn_getPreparedEntries {lo : Nat} (hhi : hi ≤ isizeMax) (n : Nat) :
    SafeOn lo hi (getPreparedEntries n) := by
  induction n generalizing lo with
  | zero => exact safeOn_pure _
  | succ n ih =>
    unfold getPreparedEntries
    apply safeOn_bind (safeOn_getPreparedEntry hhi)
    intro e
    apply safeOn_bind ih
    intro es
    exact safeOn_pure _

theorem safeOn_getPreparedState {lo : Nat} (hhi : hi ≤ isizeMax) :
    SafeOn lo hi getPreparedState := by
  unfold getPreparedState
  apply safeOn_require_bind
  apply safeOn_getBe_bind (by omega)
  intro preparedEnabled
  apply safeOn_getBe_bind (by omega)
  intro asyncClient
  apply safeOn_getBe_bind (by omega)
  intro cacheCount
  apply safeOn_ite
  · intro _
    exact safeOn_throw_bind _ _
  · intro _
    apply safeOn_bind (safeOn_getPreparedEntries hhi _)
    intro entries
    exact safeOn_pure _

theorem safeOn_getBackendAuth {lo : Nat} : SafeOn lo hi getBackendAuth := by
  unfold getBackendAuth
  apply safeOn_remaining_bind
  intro remaining
  apply safeOn_ite
  · intro hpos
    -- the tag is read once a byte is known to be left
    apply safeOn_getBe_bind (by omega)
    intro tag
    split
    · apply safeOn_bind safeOn_getStr
      intro hash
      exact safeOn_pure _
    · apply safeOn_require_bind
      apply safeOn_getBe_bind (le_max_right _ _)
      intro keyLen
      apply safeOn_require_bind
      apply safeOn_getBytes_bind (le_max_right _ _)
      intro key
      exact safeOn_pure _
    · exact safeOn_pure _
    · exact safeOn_pure _
  · intro _
    exact safeOn_pure _

theorem safeOn_deserializeState (hhi : hi ≤ isizeMax) : SafeOn 0 hi deserializeState := by
  unfold deserializeState
  -- the header's fixed fields are covered by the check of its size
  apply safeOn_require_bind
  apply safeOn_getBe_bind (by simp [headerSize])
  intro magic
  apply safeOn_ite
  · intro _
    exact safeOn_throw_bind _ _
  · intro _
    apply safeOn_getBe_bind (by simp [headerSize])
    intro version
    apply safeOn_ite
    · intro _
      exact safeOn_throw_bind _ _
    · intro _
      apply safeOn_getBe_bind (by simp [headerSize])
      intro connectionId
      apply safeOn_getBe_bind (by simp [headerSize])
      intro secretKey
      apply safeOn_getBe_bind (by simp [headerSize])
      intro transactionMode
      -- the variable-length fields, each with its own checks
      apply safeOn_bind safeOn_getStr
      intro poolName
      apply safeOn_bind safeOn_getStr
      intro username
      apply safeOn_bind safeOn_getAddr
      intro addr
      apply safeOn_bind safeOn_getServerParameters
      intro serverParameters
      apply safeOn_bind (safeOn_getPreparedState hhi)
      intro prepared
      apply safeOn_require_bind
      apply safeOn_getBe_bind (le_max_right _ _)
      intro useTls
      apply safeOn_bind safeOn_getBackendAuth
      intro backendAuth
      exact safeOn_pure _

/-- **`deserialize_state` does not panic** on any buffer a `BytesMut` can hold: whatever the
bytes, it returns a state or a `ClientError`. -/
theorem deserializeState_ne_panic {bs : List UInt8} (hbs : bs.length ≤ isizeMax) :
    deserializeState.run bs ≠ .panic :=
  (safeOn_deserializeState (le_refl _)).run_ne_panic (Nat.zero_le _) hbs

end Safety

/-! ## The round trip -/

/-- **Migration state round-trips.** Within the bounds of its length and count fields, the state
`serialize_state` writes is read back by `deserialize_state` to its fields, the address as
`SocketAddr::new` of its IP and port, the whole buffer being read; and `deserialize_state` panics
on no buffer a `BytesMut` can hold. -/
theorem migration_state_roundTrip :
    (∀ s : MigrationState, s.Fits →
      ∃ d, deserializeState.run (serializeState s) = .ok (d, []) ∧ d.Restores s) ∧
    ∀ bs : List UInt8, bs.length ≤ isizeMax → deserializeState.run bs ≠ .panic := by
  constructor
  · intro s hs
    refine ⟨_, run_deserializeState_serializeState hs, ?_⟩
    exact ⟨rfl, rfl, rfl, rfl, rfl, rfl, lookup_readParameters hs, rfl, rfl, rfl, rfl, rfl⟩
  · intro bs hbs
    exact deserializeState_ne_panic hbs

/-- A client at `127.0.0.1:5432` with one server parameter, one named statement and a SCRAM
client key of the 32 bytes of an HMAC-SHA-256. -/
def loopbackState : MigrationState where
  connectionId := 7
  secretKey := 0x12345678
  transactionMode := true
  poolName := "db"
  username := "app"
  addr := .v4 ⟨127, 0, 0, 1⟩ 5432
  serverParameters :=
    ⟨⟨[⟨"application_name", "psql"⟩], by unfold List.NodupKeys; decide⟩, plannerHashUnset⟩
  prepared := ⟨true, false, [(.named "DOORMAN_0", ⟨42, ⟨"DOORMAN_0", "select $1", 1, [23]⟩⟩)]⟩
  useTls := false
  backendAuth := some (.scramPassthrough (List.replicate 32 7))

theorem loopbackState_fits : loopbackState.Fits where
  poolName := by decide
  username := by decide
  paramCount := by decide
  params := by decide
  canonical k hk := by
    rcases List.mem_singleton.mp hk with rfl
    decide
  cacheCount := by decide
  names e he name hname := by
    rcases List.mem_singleton.mp he with rfl
    cases hname
    decide
  queries := by decide
  paramTypes := by decide
  md5Hash _ h := by cases h
  clientKey _ h := by
    cases h
    simp

theorem migration_state_roundTrip_loopback :
    (∃ d, deserializeState.run (serializeState loopbackState) = .ok (d, []) ∧
        d.Restores loopbackState) ∧
      deserializeState.run [] ≠ .panic :=
  ⟨migration_state_roundTrip.1 loopbackState loopbackState_fits,
    migration_state_roundTrip.2 [] (Nat.zero_le _)⟩

/-- The link-local address `fe80::1`. -/
def linkLocal : Ipv6Addr :=
  ⟨[0xfe80, 0, 0, 0, 0, 0, 0, 1], rfl⟩

/-- **Two states that do not round-trip.** A client key of `65536` bytes has its length written
`as u16`, that is `0`: the reader takes the empty key and leaves the key's bytes unread. And the
scope of an IPv6 peer is not written: a client at `[fe80::1%2]:5432` comes back at
`[fe80::1]:5432`. -/
theorem migration_state_lossy :
    (∃ d, deserializeState.run (serializeState
        { loopbackState with backendAuth := some (.scramPassthrough (List.replicate 65536 0)) }) =
        .ok (d, List.replicate 65536 0) ∧
      d.backendAuth = some (.scramPassthrough [])) ∧
    ∃ d, deserializeState.run (serializeState { loopbackState with addr := .v6 linkLocal 5432 0 2 }) =
        .ok (d, []) ∧
      d.addr = .v6 linkLocal 5432 0 0 := by
  have hlen : (List.replicate 65536 (0 : UInt8)).length % 2 ^ 16 = 0 := by
    rw [List.length_replicate]
    rfl
  constructor
  · rw [run_deserializeState_serializeState_auth loopbackState_fits,
      run_getBackendAuth_scramPassthrough, hlen, List.take_zero, List.drop_zero]
    exact ⟨_, rfl, rfl⟩
  · exact ⟨_, run_deserializeState_serializeState (loopbackState_fits.withAddr _), rfl⟩

end PgDoorman.Client
