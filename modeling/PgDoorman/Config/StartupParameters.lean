import Mathlib
import PgDoorman.Config.HumanReadable
import PgDoorman.Messages.Startup
import PgDoorman.Server.Parameters

/-!
# Operator startup parameters, from the configuration to the StartupMessage

An operator gives PostgreSQL session defaults in three layers: `general.startup_parameters`,
`pools.<name>.startup_parameters` and, per user, a `startup_parameters` column of the
auth_query. `validate` checks the two configured layers at load, and `validate_entry` each entry
of the auth_query's JSON object as it is decoded; a pool merges the layers with
`cascade_canonical_keys`, folding each key to its canonical spelling so that a later layer
overrides an earlier one whatever the case of its keys; `build_resolved_startup` checks the
merged map against PostgreSQL's 10 000-byte cap on a StartupMessage once, when the pool is
built, and each backend spawn takes the map it resolved (`resolved_startup_parameters`) or is
refused with SQLSTATE 53400.

The point of the checks is that the operator's map configures session defaults only: no key may
be one PostgreSQL reads as the identity or the protocol of the connection (`user`, `database`,
`replication`, `options`, a `_pq_.` protocol option) or one that becomes the reset value of the
authorization (`role`, `session_authorization`). The checks look at the keys as written and the
wire carries them canonicalised, so the model carries the checks across canonicalisation: a
canonical key is the same name up to ASCII case, and every check of `validate_key` is blind to
ASCII case.

## The model

Keys and values are strings, checked on their UTF-8 bytes where the source checks bytes. A
`HashMap` whose content alone is used later (the decoded auth_query object, the `seen` map of
`validate`) is modelled by its content. PostgreSQL's side is `pgStartupPairs`: how
`ProcessStartupPacket` reads the body of a StartupMessage, C-strings two at a time up to an
empty name that must be the last byte.

## Main definitions

* `isValidGucName`, `validateKey`, `validateValue`, `validateTotalSize`, `validate`,
  `validateEntry`, `serializedBytes`
* `cascadeCanonicalKeys`, `parseStartupParametersValue`, `perUserStartupOverlay`
* `buildResolvedStartup`, `resolvedStartupParameters`, `backendStartup`
* `validateUserIdentity`, `validatePoolStartupParameters`: the size checks of `Config::validate`
* `pgStartupPairs`, `pgStartupPacket`: PostgreSQL's reading of a StartupMessage
* `AdmissibleKey`: what `validate_key` asks of a key

## Main results

* `foldCase_canonicalizeParamName`, `canonicalizeParamName_eq_iff`: canonicalisation is a normal
  form for names equal up to ASCII case
* `validateKey_eq_ok_iff`, `AdmissibleKey.canonicalize`: the checks of a key, and that
  canonicalisation keeps them
* `validate_eq_ok_iff`: the maps `validate` accepts
* `get_cascadeCanonicalKeys`: the merged map answers each name with the last entry of that name
  up to case, over the layers in order
* `resolvedStartupParameters_build_eq_ok_iff`: a spawn gets the whole merged map, exactly when
  its StartupMessage fits
* `pgStartupPacket_backendStartup`: PostgreSQL reads the spawned StartupMessage as the pooled
  user, database and application name followed by admissible keys only
* `resolvedStartupParameters_of_validatePoolStartupParameters`: what the load-time check accepts
  is never refused at a static spawn
-/

namespace PgDoorman.Config

open Wire Server Messages

/-! ## Limits and reserved names -/

/-- `MAX_STARTUP_PACKET_SIZE`: PostgreSQL's `MAX_STARTUP_PACKET_LENGTH`. -/
def maxStartupPacketSize : Nat :=
  10000

/-- `RESERVED_HEADROOM`. -/
def reservedHeadroom : Nat :=
  512

/-- `MAX_OPERATOR_BUDGET`. -/
def maxOperatorBudget : Nat :=
  maxStartupPacketSize - reservedHeadroom

/-- `RESERVED_KEYS`. -/
def reservedKeys : List String :=
  ["user", "database", "replication", "options", "role", "session_authorization"]

/-- `RESERVED_PREFIX`. -/
def reservedPrefix : String :=
  "_pq_."

/-! ## ASCII bytes -/

/-- `u8::is_ascii_alphabetic`: `b'A'..=b'Z' | b'a'..=b'z'`. -/
def isAsciiAlphabetic (b : UInt8) : Bool :=
  (65 ≤ b && b ≤ 90) || (97 ≤ b && b ≤ 122)

/-- `u8::is_ascii_alphanumeric`: a letter or `b'0'..=b'9'`. -/
def isAsciiAlphanumeric (b : UInt8) : Bool :=
  isAsciiAlphabetic b || (48 ≤ b && b ≤ 57)

/-- `u8::to_ascii_lowercase`. -/
def asciiLowercase (b : UInt8) : UInt8 :=
  if 65 ≤ b && b ≤ 90 then b + 32 else b

/-- `<[u8]>::eq_ignore_ascii_case`. -/
def bytesEqIgnoreAsciiCase (a b : List UInt8) : Bool :=
  a.map asciiLowercase == b.map asciiLowercase

/-! ## Checks -/

/-- `is_valid_guc_name`: an ASCII letter or `_`, then letters, digits, `_` and `.`, read byte
by byte. -/
def isValidGucName (key : String) : Bool :=
  match utf8Bytes key with
  | [] => false
  | first :: bytes =>
    if !(isAsciiAlphabetic first || first == 95) then false
    else bytes.all fun b => isAsciiAlphanumeric b || b == 95 || b == 46

/-- The prefix test of `validate_key`: the first `RESERVED_PREFIX.len()` bytes are `_pq_.` up to
ASCII case. -/
def usesReservedPrefix (key : String) : Bool :=
  decide ((utf8Bytes key).length ≥ (utf8Bytes reservedPrefix).length) &&
    bytesEqIgnoreAsciiCase ((utf8Bytes key).take (utf8Bytes reservedPrefix).length)
      (utf8Bytes reservedPrefix)

/-- `validate_key`. -/
def validateKey (key scope : String) : Except Error Unit :=
  if key.isEmpty then .error (.badConfig (scope ++ ": empty key"))
  else if reservedKeys.any fun r => eqIgnoreAsciiCase r key then
    .error (.badConfig (scope ++ ": '" ++ key ++ "' is reserved and managed by pg_doorman"))
  else if usesReservedPrefix key then
    .error (.badConfig (scope ++ ": '" ++ key ++ "' uses the reserved '_pq_.' prefix"))
  else if !isValidGucName key then
    .error (.badConfig (scope ++ ": '" ++ key ++
      "' is not a valid GUC name (expected [A-Za-z_][A-Za-z0-9_.]*)"))
  else .ok ()

/-- `validate_value`. -/
def validateValue (key value scope : String) : Except Error Unit :=
  if (utf8Bytes value).contains 0 then
    .error (.badConfig (scope ++ ": value for '" ++ key ++ "' contains a null byte"))
  else .ok ()

/-- The bytes one pair takes in a StartupMessage: `key\0value\0`. -/
def pairBytes (kv : String × String) : Nat :=
  (utf8Bytes kv.1).length + 1 + (utf8Bytes kv.2).length + 1

/-- `serialized_bytes`. -/
def serializedBytes (map : BTreeMap) : Nat :=
  (map.entries.map pairBytes).sum

/-- `validate_total_size`. -/
def validateTotalSize (map : BTreeMap) (scope : String) : Except Error Unit :=
  let total := serializedBytes map
  if total > maxOperatorBudget then
    .error (.badConfig (scope ++ ": serialized size " ++ toString total ++
      " bytes exceeds operator budget " ++ toString maxOperatorBudget ++
      " (PG StartupMessage cap is " ++ toString maxStartupPacketSize ++
      " bytes per MAX_STARTUP_PACKET_LENGTH; " ++ toString reservedHeadroom ++
      " reserved for pg_doorman-managed keys)"))
  else .ok ()

/-- The second loop of `validate`: each key's canonical name goes into `seen` with the key as
its value, and the first insertion that finds the name taken returns the key already there, the
key and the name. -/
def findCanonicalClash (seen : StrMap) : List String → Option (String × String × String)
  | [] => none
  | k :: ks =>
    let canonical := canonicalizeParamName k
    match seen canonical with
    | some existing => some (existing, k, canonical)
    | none => findCanonicalClash (seen.insert canonical k) ks

/-- `validate`: every key and value, then no two keys of one canonical name, then the size. -/
def validate (map : BTreeMap) (scope : String) : Except Error Unit := do
  map.entries.forM fun kv => do
    validateKey kv.1 scope
    validateValue kv.1 kv.2 scope
  match findCanonicalClash StrMap.empty (map.entries.map Prod.fst) with
  | some (existing, k, canonical) =>
    .error (.badConfig (scope ++ ": '" ++ existing ++ "' and '" ++ k ++
      "' both refer to PG GUC '" ++ canonical ++ "'; keep one"))
  | none => validateTotalSize map scope

/-- `validate_entry`: the checks of `validate` on one pair, without the size. -/
def validateEntry (key value scope : String) : Except Error Unit := do
  validateKey key scope
  validateValue key value scope

/-! ## Merging the layers -/

/-- `cascade_canonical_keys`: the entries of each layer in turn, inserted under their canonical
name, so a later layer overrides an earlier one. -/
def cascadeCanonicalKeys (layers : List BTreeMap) : BTreeMap :=
  layers.foldl (fun out layer =>
    layer.entries.foldl (fun out kv => out.insert (canonicalizeParamName kv.1) kv.2) out)
    BTreeMap.empty

/-- A JSON value as `parse_startup_parameters_value` tells them apart. -/
inductive JsonValue where
  | null
  | bool (b : Bool)
  | number
  | string (s : String)
  | array
  | object (fields : List (String × JsonValue))

/-- One field of the auth_query object: a string that `validate_entry` accepts is kept under its
canonical name; any other field is logged and skipped. -/
def insertOverlayField (scope : String) (out : BTreeMap) (field : String × JsonValue) :
    BTreeMap :=
  match field.2 with
  | .string s =>
    match validateEntry field.1 s scope with
    | .ok () => out.insert (canonicalizeParamName field.1) s
    | .error _ => out
  | _ => out

/-- `parse_startup_parameters_value`: the per-user map of an auth_query row, empty unless the
value is an object and its kept fields fit the operator budget. The source builds a `HashMap`;
the model keeps its content, which is what the pool later collects into a `BTreeMap`. -/
def parseStartupParametersValue (value : JsonValue) (username : String) : BTreeMap :=
  match value with
  | .object obj =>
    let scope := "auth_query.startup_parameters[user=" ++ username ++ "]"
    let out := obj.foldl (insertOverlayField scope) BTreeMap.empty
    if serializedBytes out > maxOperatorBudget then BTreeMap.empty else out
  | _ => BTreeMap.empty

/-- `per_user_startup_overlay` of `create_dynamic_pool`: none in dedicated mode. -/
def perUserStartupOverlay (isDedicated : Bool) (fetchedOverlay : BTreeMap) : BTreeMap :=
  if isDedicated || fetchedOverlay.isEmpty then BTreeMap.empty else fetchedOverlay

/-! ## Resolving a pool's map -/

/-- `BudgetReason`. -/
inductive BudgetReason where
  | cascadeBudgetExceeded
  | packetCapExceeded
  deriving DecidableEq, Repr

/-- `BudgetDecision`. -/
inductive BudgetDecision where
  | fullCascade
  | overlayDroppedBaselineKept (bodyBytes packetBytes : Nat)
  | emptyDueToBudget (reason : BudgetReason) (bodyBytes packetBytes : Nat)
  deriving DecidableEq, Repr

/-- `build_resolved_startup`: the base and the overlay merged under canonical names, kept when
it fits; otherwise the canonical base alone when there was an overlay and the base fits, and an
empty map when nothing fits. -/
def buildResolvedStartup (base overlay : BTreeMap) (serverUsername database applicationName : String) :
    BTreeMap × BudgetDecision :=
  let canonicalBase := BTreeMap.collect (base.entries.map fun kv => (canonicalizeParamName kv.1, kv.2))
  let merged := if overlay.isEmpty then canonicalBase
    else overlay.entries.foldl (fun m kv => m.insert (canonicalizeParamName kv.1) kv.2) canonicalBase
  let (packetBytes, bodyBytes) := packetAndBodyBytes serverUsername database applicationName merged
  let overBudget := decide (bodyBytes > maxOperatorBudget)
  let overPacket := decide (packetBytes > maxStartupPacketSize)
  if !overBudget && !overPacket then (merged, .fullCascade)
  else
    let (baselinePacket, baselineBody) :=
      packetAndBodyBytes serverUsername database applicationName canonicalBase
    if !overlay.isEmpty && decide (baselineBody ≤ maxOperatorBudget) &&
        decide (baselinePacket ≤ maxStartupPacketSize) then
      (canonicalBase, .overlayDroppedBaselineKept bodyBytes packetBytes)
    else
      let reason := if overPacket then BudgetReason.packetCapExceeded
        else BudgetReason.cascadeBudgetExceeded
      (BTreeMap.empty, .emptyDueToBudget reason bodyBytes packetBytes)

/-- `resolved_startup_parameters`: the map resolved for the pool, or the 53400 refusal of the
spawn. The error's `server_identifier` is left out. -/
def resolvedStartupParameters (resolved : BTreeMap × BudgetDecision) (poolName : String) :
    Except Error BTreeMap :=
  match resolved.2 with
  | .fullCascade => .ok resolved.1
  | .overlayDroppedBaselineKept bodyBytes packetBytes =>
    .error (.serverStartupParameterRejection "53400"
      ("auth_query startup_parameters for pool '" ++ poolName ++
        "' would exceed the operator budget (merged body " ++ toString bodyBytes ++
        " bytes, full packet " ++ toString packetBytes ++ " bytes; operator budget " ++
        toString maxOperatorBudget ++ " bytes, PG StartupMessage cap " ++
        toString maxStartupPacketSize ++ " bytes). Reduce the per-user startup_parameters " ++
        "row, the pool baseline, or the general baseline."))
  | .emptyDueToBudget _ bodyBytes packetBytes =>
    .error (.serverStartupParameterRejection "53400"
      ("startup_parameters cascade for pool '" ++ poolName ++
        "' does not fit the operator budget (body " ++ toString bodyBytes ++
        " bytes, full packet " ++ toString packetBytes ++ " bytes; operator budget " ++
        toString maxOperatorBudget ++ " bytes, PG StartupMessage cap " ++
        toString maxStartupPacketSize ++ " bytes). Reduce general or pool startup_parameters."))

/-- The path of the operator's parameters to one backend: the pool's base is the cascade of the
general and pool layers (`ServerPool::new`'s callers), the pool resolves it with the overlay,
each spawn checks the decision, and `Server::startup` writes the StartupMessage for the pool's
server user, database and application name. -/
def backendStartup (general pool overlay : BTreeMap)
    (serverUsername database applicationName poolName : String) : Except Error (List UInt8) := do
  let base := cascadeCanonicalKeys [general, pool]
  let resolved := buildResolvedStartup base overlay serverUsername database applicationName
  let startupParameters ← resolvedStartupParameters resolved poolName
  pure (startup serverUsername database applicationName startupParameters)

/-! ## The size checks at load -/

/-- A configured user, with the fields the startup checks read. -/
structure UserIdentity where
  username : String
  serverUsername : Option String

/-- A pool's configuration, with the fields the startup checks read. -/
structure PoolStartupConfig where
  startupParameters : BTreeMap
  serverDatabase : Option String
  applicationName : Option String
  users : List UserIdentity
  authQueryServerUser : Option String

/-- `validate_user_identity`, the closure of `Config::validate`: the full StartupMessage for one
server user within PostgreSQL's cap. -/
def validateUserIdentity (poolName serverDatabase applicationName : String) (merged : BTreeMap)
    (displayKind displayUser serverUsername : String) : Except Error Unit :=
  let packetBytes := (packetAndBodyBytes serverUsername serverDatabase applicationName merged).1
  if packetBytes > maxStartupPacketSize then
    .error (.badConfig ("merged general + pools." ++ poolName ++
      ".startup_parameters: full StartupMessage for " ++ displayKind ++ " '" ++ displayUser ++
      "' is " ++ toString packetBytes ++ " bytes, exceeding the PG cap of " ++
      toString maxStartupPacketSize ++ " bytes (user/database/application_name overhead " ++
      "included); reduce general or pool startup_parameters"))
  else .ok ()

/-- The size checks of `Config::validate`, pool after pool: the merged general and pool maps
within the operator budget, then the full StartupMessage of each configured user's server
username and of a dedicated auth_query's server user within PostgreSQL's cap. The pools are
visited in some order of the `HashMap`; only which error comes first depends on it. -/
def validatePoolStartupParameters (general : BTreeMap) (pools : List (String × PoolStartupConfig)) :
    Except Error Unit :=
  pools.forM fun (poolName, poolConfig) => do
    let merged := cascadeCanonicalKeys [general, poolConfig.startupParameters]
    let mergedSize := serializedBytes merged
    if mergedSize > maxOperatorBudget then
      throw (.badConfig ("merged general + pools." ++ poolName ++
        ".startup_parameters: serialized size " ++ toString mergedSize ++
        " bytes exceeds operator budget " ++ toString maxOperatorBudget ++
        " (PG StartupMessage cap is " ++ toString maxStartupPacketSize ++
        " bytes; reduce general or pool startup_parameters)"))
    let serverDatabase := poolConfig.serverDatabase.getD poolName
    let applicationName := poolConfig.applicationName.getD "pg_doorman"
    poolConfig.users.forM fun user =>
      validateUserIdentity poolName serverDatabase applicationName merged "user" user.username
        (user.serverUsername.getD user.username)
    match poolConfig.authQueryServerUser with
    | some sharedUser =>
      validateUserIdentity poolName serverDatabase applicationName merged
        "auth_query server_user" sharedUser sharedUser
    | none => pure ()

/-! ## PostgreSQL's reading of a StartupMessage -/

/-- `ProcessStartupPacket`'s loop over the C-strings of the body: a name and its value at a
time, until an empty name, which must be the last byte of the packet. -/
def pgStartupPairs : List (List UInt8) → Option (List (List UInt8 × List UInt8))
  | [] => none
  | name :: rest =>
    if name = [] then (if rest = [[]] then some [] else none)
    else
      match rest with
      | value :: rest => (pgStartupPairs rest).map ((name, value) :: ·)
      | [] => none

/-- The pairs PostgreSQL reads from a StartupMessage, after its length and protocol version. -/
def pgStartupPacket (packet : List UInt8) : Option (List (List UInt8 × List UInt8)) :=
  pgStartupPairs ((packet.drop 8).splitOn 0)

/-! ## Case folding

`str::eq_ignore_ascii_case` compares names with their ASCII capitals lowered, and
`canonicalize_param_name` returns a tracked spelling or the lowercase. Both are read through
`foldCase`, the characters of a name with its capitals lowered: canonicalisation keeps it, and
two names have one canonical spelling exactly when they fold alike. -/

/-- A name up to ASCII case: its characters with the ASCII capitals lowered. -/
def foldCase (s : String) : List Char :=
  s.toList.map Char.toLower

theorem eqIgnoreAsciiCase_eq (a b : String) :
    eqIgnoreAsciiCase a b = (foldCase a == foldCase b) :=
  rfl

theorem toNat_toLower (c : Char) :
    c.toLower.toNat = if 65 ≤ c.toNat ∧ c.toNat ≤ 90 then c.toNat + 32 else c.toNat := by
  have hA : ('A'.val).toNat = 65 := rfl
  have hZ : ('Z'.val).toNat = 90 := rfl
  have ha : ('a'.val - 'A'.val).toNat = 32 := rfl
  unfold Char.toLower
  simp only [ge_iff_le, UInt32.le_iff_toNat_le, hA, hZ, Char.toNat]
  split_ifs
  · simp only [UInt32.toNat_add, ha]
    omega
  · omega

theorem toLower_of_isUpper_eq_false {c : Char} (h : c.isUpper = false) : c.toLower = c := by
  unfold Char.toLower
  rw [dif_neg (by simpa [Char.isUpper] using h)]

theorem toLower_toLower (c : Char) : c.toLower.toLower = c.toLower := by
  apply toLower_eq_self
  rw [toNat_toLower]
  split_ifs <;> omega

theorem foldCase_toAsciiLowercase (s : String) : foldCase (toAsciiLowercase s) = foldCase s := by
  simp only [foldCase, toAsciiLowercase, String.toList_ofList, List.map_map, Function.comp_def,
    toLower_toLower]

/-- With no tracked name of its class, a name is canonicalised to its lowercase. -/
theorem canonicalizeParamName_of_find?_eq_none {key : String}
    (h : trackedParameters.find? (eqIgnoreAsciiCase key) = none) :
    canonicalizeParamName key = toAsciiLowercase key := by
  rw [canonicalizeParamName, h]
  split_ifs with hup
  · rfl
  · -- no capital, so lowering changes nothing
    simp only [List.any_eq_true, not_exists, not_and, Bool.not_eq_true] at hup
    rw [toAsciiLowercase, List.map_congr_left fun c hc => toLower_of_isUpper_eq_false (hup c hc),
      List.map_id', String.ofList_toList]

theorem foldCase_canonicalizeParamName (key : String) :
    foldCase (canonicalizeParamName key) = foldCase key := by
  cases h : trackedParameters.find? (eqIgnoreAsciiCase key) with
  | some tracked =>
    have hmatch := List.find?_some h
    rw [eqIgnoreAsciiCase_eq, beq_iff_eq] at hmatch
    rw [canonicalizeParamName, h, hmatch]
  | none => rw [canonicalizeParamName_of_find?_eq_none h, foldCase_toAsciiLowercase]

/-- Two names have one canonical spelling exactly when they are equal up to ASCII case. -/
theorem canonicalizeParamName_eq_iff {a b : String} :
    canonicalizeParamName a = canonicalizeParamName b ↔ foldCase a = foldCase b := by
  constructor
  · intro h
    rw [← foldCase_canonicalizeParamName a, h, foldCase_canonicalizeParamName]
  · intro h
    -- which tracked name matches depends only on the folded name
    have hmatch : eqIgnoreAsciiCase a = eqIgnoreAsciiCase b := by
      funext t
      rw [eqIgnoreAsciiCase_eq, eqIgnoreAsciiCase_eq, h]
    have hlower : toAsciiLowercase a = toAsciiLowercase b := by
      rw [toAsciiLowercase, toAsciiLowercase]
      exact congrArg String.ofList h
    cases hf : trackedParameters.find? (eqIgnoreAsciiCase a) with
    | some tracked =>
      rw [canonicalizeParamName, canonicalizeParamName, hf, ← hmatch, hf]
    | none =>
      rw [canonicalizeParamName_of_find?_eq_none hf,
        canonicalizeParamName_of_find?_eq_none (hmatch ▸ hf), hlower]

/-! ## The checks of a key

The prefix and shape checks read bytes, and lowering a name's characters lowers its bytes
(`map_asciiLowercase_utf8Bytes`): a character of more than one byte is no capital and has no
byte of one. Each check gives the same answer on bytes that lower alike, so canonicalisation,
which keeps the folded name, keeps every check. -/

theorem toNat_asciiLowercase (b : UInt8) :
    (asciiLowercase b).toNat = if 65 ≤ b.toNat ∧ b.toNat ≤ 90 then b.toNat + 32 else b.toNat := by
  simp only [asciiLowercase, Bool.and_eq_true, decide_eq_true_eq, UInt8.le_iff_toNat_le,
    UInt8.toNat_ofNat]
  split_ifs
  · simp only [UInt8.toNat_add, UInt8.toNat_ofNat]
    omega
  · rfl

theorem le_toNat_of_mem_utf8EncodeChar {c : Char} (hc : 128 ≤ c.toNat) :
    ∀ b ∈ String.utf8EncodeChar c, 128 ≤ b.toNat := by
  have hv : 128 ≤ c.val.toNat := hc
  simp only [String.utf8EncodeChar]
  split_ifs <;> simp only [List.mem_cons, List.not_mem_nil, or_false, forall_eq_or_imp,
    forall_eq, UInt8.toNat_ofNat'] <;> omega

theorem map_asciiLowercase_utf8EncodeChar (c : Char) :
    (String.utf8EncodeChar c).map asciiLowercase = String.utf8EncodeChar c.toLower := by
  have hlow := toNat_toLower c
  by_cases hc : c.toNat < 128
  · -- one byte, lowered exactly when the character is
    have hc' : c.toLower.toNat < 128 := by
      rw [hlow]
      split_ifs <;> omega
    rw [String.utf8EncodeChar_eq_singleton (utf8Size_eq_one_of_lt hc),
      String.utf8EncodeChar_eq_singleton (utf8Size_eq_one_of_lt hc'), List.map_singleton,
      List.singleton_inj, ← UInt8.toNat_inj, toNat_asciiLowercase, toNat_toUInt8_of_lt hc,
      toNat_toUInt8_of_lt hc', hlow]
  · -- no byte of a longer encoding is an ASCII capital
    have hbytes := le_toNat_of_mem_utf8EncodeChar (Nat.le_of_not_lt hc)
    have hkeep : ∀ b ∈ String.utf8EncodeChar c, asciiLowercase b = b := by
      intro b hb
      have hb' := hbytes b hb
      rw [← UInt8.toNat_inj, toNat_asciiLowercase, if_neg (by omega)]
    rw [toLower_eq_self (.inr (by omega)), List.map_congr_left hkeep, List.map_id']

theorem map_asciiLowercase_utf8Bytes (s : String) :
    (utf8Bytes s).map asciiLowercase = (foldCase s).flatMap String.utf8EncodeChar := by
  rw [utf8Bytes, List.map_flatMap, foldCase, List.flatMap_map]
  simp only [map_asciiLowercase_utf8EncodeChar]

theorem usesReservedPrefix_congr {a b : String}
    (h : (utf8Bytes a).map asciiLowercase = (utf8Bytes b).map asciiLowercase) :
    usesReservedPrefix a = usesReservedPrefix b := by
  have hlen : (utf8Bytes a).length = (utf8Bytes b).length := by
    rw [← List.length_map (f := asciiLowercase), h, List.length_map]
  rw [usesReservedPrefix, usesReservedPrefix, bytesEqIgnoreAsciiCase, bytesEqIgnoreAsciiCase,
    List.map_take, List.map_take, h, hlen]

theorem isAsciiAlphabetic_asciiLowercase (b : UInt8) :
    isAsciiAlphabetic (asciiLowercase b) = isAsciiAlphabetic b := by
  have h := toNat_asciiLowercase b
  rw [Bool.eq_iff_iff]
  simp only [isAsciiAlphabetic, Bool.or_eq_true, Bool.and_eq_true, decide_eq_true_eq,
    UInt8.le_iff_toNat_le, UInt8.toNat_ofNat, h]
  split_ifs <;> omega

theorem isAsciiAlphanumeric_asciiLowercase (b : UInt8) :
    isAsciiAlphanumeric (asciiLowercase b) = isAsciiAlphanumeric b := by
  have h := toNat_asciiLowercase b
  rw [Bool.eq_iff_iff]
  simp only [isAsciiAlphanumeric, isAsciiAlphabetic, Bool.or_eq_true, Bool.and_eq_true,
    decide_eq_true_eq, UInt8.le_iff_toNat_le, UInt8.toNat_ofNat, h]
  split_ifs <;> omega

/-- Lowering a byte leaves it `_` or `.` exactly when it was. -/
theorem asciiLowercase_beq_of_punct (b : UInt8) {c : UInt8} (hc : c = 95 ∨ c = 46) :
    (asciiLowercase b == c) = (b == c) := by
  have h := toNat_asciiLowercase b
  rw [Bool.eq_iff_iff, beq_iff_eq, beq_iff_eq, ← UInt8.toNat_inj, ← UInt8.toNat_inj, h]
  rcases hc with rfl | rfl <;> simp only [UInt8.toNat_ofNat] <;> split_ifs <;> omega

theorem isValidGucName_congr {a b : String}
    (h : (utf8Bytes a).map asciiLowercase = (utf8Bytes b).map asciiLowercase) :
    isValidGucName a = isValidGucName b := by
  have hfirst : ∀ x, (isAsciiAlphabetic (asciiLowercase x) || asciiLowercase x == 95) =
      (isAsciiAlphabetic x || x == 95) := fun x => by
    rw [isAsciiAlphabetic_asciiLowercase, asciiLowercase_beq_of_punct x (.inl rfl)]
  have hrest : ∀ x, (isAsciiAlphanumeric (asciiLowercase x) || asciiLowercase x == 95 ||
      asciiLowercase x == 46) = (isAsciiAlphanumeric x || x == 95 || x == 46) := fun x => by
    rw [isAsciiAlphanumeric_asciiLowercase, asciiLowercase_beq_of_punct x (.inl rfl),
      asciiLowercase_beq_of_punct x (.inr rfl)]
  have hall : ∀ zs : List UInt8, (zs.all fun b => isAsciiAlphanumeric b || b == 95 || b == 46) =
      ((zs.map asciiLowercase).all fun b => isAsciiAlphanumeric b || b == 95 || b == 46) := by
    intro zs
    simp only [List.all_map, Function.comp_def, hrest]
  unfold isValidGucName
  -- the two byte strings are empty together, and otherwise agree byte by byte once lowered
  rcases ha : utf8Bytes a with _ | ⟨x, xs⟩ <;> rcases hb : utf8Bytes b with _ | ⟨y, ys⟩
  · rfl
  · rw [ha, hb] at h
    cases h
  · rw [ha, hb] at h
    cases h
  · rw [ha, hb, List.map_cons, List.map_cons, List.cons.injEq] at h
    obtain ⟨hxy, hxys⟩ := h
    have hq : (isAsciiAlphabetic x || x == 95) = (isAsciiAlphabetic y || y == 95) := by
      rw [← hfirst x, hxy, hfirst]
    dsimp only
    rw [hq, hall xs, hxys, ← hall ys]

/-- A valid GUC name has no NUL byte. -/
theorem zero_not_mem_of_isValidGucName {key : String} (h : isValidGucName key = true) :
    (0 : UInt8) ∉ utf8Bytes key := by
  unfold isValidGucName at h
  rcases hk : utf8Bytes key with _ | ⟨x, xs⟩ <;> rw [hk] at h
  · cases h
  · dsimp only at h
    -- the first byte is a letter or `_`, every other one a letter, a digit, `_` or `.`
    split_ifs at h with hx
    rw [List.all_eq_true] at h
    intro hm
    rcases List.mem_cons.mp hm with h0 | h0
    · rw [← h0] at hx
      exact hx (by decide)
    · exact absurd (h 0 h0) (by decide)

/-- What `validate_key` asks of a key: not empty, no key of `RESERVED_KEYS` up to ASCII case, no
`_pq_.` prefix up to ASCII case, and the shape of a GUC name. -/
structure AdmissibleKey (key : String) : Prop where
  ne_empty : key ≠ ""
  not_reserved : ∀ r ∈ reservedKeys, eqIgnoreAsciiCase r key = false
  no_reserved_prefix : usesReservedPrefix key = false
  valid : isValidGucName key = true

theorem validateKey_eq_ok_iff (key scope : String) :
    validateKey key scope = .ok () ↔ AdmissibleKey key := by
  unfold validateKey
  constructor
  · intro h
    -- every failing check leaves an error, so only the last branch is left
    split_ifs at h with hempty hres hpre hvalid
    exact ⟨fun he => hempty (String.isEmpty_iff.mpr he), by simpa using hres,
      by simpa using hpre, by simpa using hvalid⟩
  · rintro ⟨hne, hres, hpre, hvalid⟩
    rw [if_neg (by simpa [String.isEmpty_iff] using hne), if_neg (by simpa using hres),
      if_neg (by simp [hpre]), if_neg (by simp [hvalid])]

/-- Canonicalisation keeps every check of a key: it keeps the name up to ASCII case. -/
theorem AdmissibleKey.canonicalize {key : String} (h : AdmissibleKey key) :
    AdmissibleKey (canonicalizeParamName key) := by
  have hfold := foldCase_canonicalizeParamName key
  have hbytes : (utf8Bytes (canonicalizeParamName key)).map asciiLowercase =
      (utf8Bytes key).map asciiLowercase := by
    rw [map_asciiLowercase_utf8Bytes, map_asciiLowercase_utf8Bytes, hfold]
  refine ⟨?_, fun r hr => ?_, ?_, ?_⟩
  · intro he
    apply h.ne_empty
    rw [← String.toList_eq_nil_iff, ← List.map_eq_nil_iff (f := Char.toLower)]
    rw [← foldCase, ← hfold, he]
    rfl
  · rw [eqIgnoreAsciiCase_eq, hfold, ← eqIgnoreAsciiCase_eq]
    exact h.not_reserved r hr
  · rw [usesReservedPrefix_congr hbytes]
    exact h.no_reserved_prefix
  · rw [isValidGucName_congr hbytes]
    exact h.valid

/-! ## `validate` -/

theorem forM_eq_ok_iff {ε α : Type} (l : List α) (f : α → Except ε Unit) :
    l.forM f = .ok () ↔ ∀ x ∈ l, f x = .ok () := by
  induction l with
  | nil => simp [List.forM, pure, Except.pure]
  | cons x l ih =>
    rw [List.forM]
    cases hx : f x with
    | error e => simp [bind, Except.bind, hx]
    | ok u => simpa [bind, Except.bind, hx] using ih

theorem validateValue_eq_ok_iff (key value scope : String) :
    validateValue key value scope = .ok () ↔ (0 : UInt8) ∉ utf8Bytes value := by
  unfold validateValue
  split_ifs with h <;> simp_all

theorem validateEntry_eq_ok_iff (key value scope : String) :
    validateEntry key value scope = .ok () ↔ AdmissibleKey key ∧ (0 : UInt8) ∉ utf8Bytes value := by
  rw [← validateKey_eq_ok_iff key scope, ← validateValue_eq_ok_iff key value scope]
  unfold validateEntry
  cases validateKey key scope <;> simp [bind, Except.bind]

theorem findCanonicalClash_eq_none_iff (seen : StrMap) (ks : List String) :
    findCanonicalClash seen ks = none ↔
      (∀ k ∈ ks, seen (canonicalizeParamName k) = none) ∧ (ks.map canonicalizeParamName).Nodup := by
  induction ks generalizing seen with
  | nil => simp [findCanonicalClash]
  | cons k ks ih =>
    unfold findCanonicalClash
    cases hs : seen (canonicalizeParamName k) with
    | some existing => simp [hs]
    | none =>
      -- a later key clashes with this one, or with one before it
      have hslot : ∀ k' : String, (if canonicalizeParamName k' = canonicalizeParamName k then some k
          else seen (canonicalizeParamName k')) = none ↔
            canonicalizeParamName k' ≠ canonicalizeParamName k ∧
              seen (canonicalizeParamName k') = none := by
        intro k'
        split_ifs with h <;> simp [h]
      simp only [ih, StrMap.insert_apply, List.mem_cons, forall_eq_or_imp, hs, true_and,
        List.map_cons, List.nodup_cons, List.mem_map, hslot]
      constructor
      · rintro ⟨hall, hnd⟩
        exact ⟨fun a ha => (hall a ha).2, fun ⟨a, ha, heq⟩ => (hall a ha).1 heq, hnd⟩
      · rintro ⟨hall, hnew, hnd⟩
        exact ⟨fun a ha => ⟨fun heq => hnew ⟨a, ha, heq⟩, hall a ha⟩, hnd⟩

theorem nodup_map_canonicalizeParamName_iff (keys : List String) :
    (keys.map canonicalizeParamName).Nodup ↔ (keys.map foldCase).Nodup := by
  simp only [List.Nodup, List.pairwise_map]
  exact List.Pairwise.iff fun a b => not_congr canonicalizeParamName_eq_iff

theorem validateTotalSize_eq_ok_iff (map : BTreeMap) (scope : String) :
    validateTotalSize map scope = .ok () ↔ serializedBytes map ≤ maxOperatorBudget := by
  unfold validateTotalSize
  dsimp only
  split_ifs with h
  · simp only [false_iff, not_le]
    exact h
  · simpa using h

/-- **`validate` accepts exactly the maps it describes**: every key admissible, no value with a
NUL byte, no two keys one name up to ASCII case, and the pairs within the operator budget. -/
theorem validate_eq_ok_iff (map : BTreeMap) (scope : String) :
    validate map scope = .ok () ↔
      (∀ kv ∈ map.entries, AdmissibleKey kv.1 ∧ (0 : UInt8) ∉ utf8Bytes kv.2) ∧
        (map.entries.map fun kv => foldCase kv.1).Nodup ∧
        serializedBytes map ≤ maxOperatorBudget := by
  have hentries : (map.entries.forM fun kv => validateEntry kv.1 kv.2 scope) = .ok () ↔
      ∀ kv ∈ map.entries, AdmissibleKey kv.1 ∧ (0 : UInt8) ∉ utf8Bytes kv.2 := by
    rw [forM_eq_ok_iff]
    exact forall₂_congr fun kv _ => validateEntry_eq_ok_iff kv.1 kv.2 scope
  have hclash : findCanonicalClash StrMap.empty (map.entries.map Prod.fst) = none ↔
      (map.entries.map fun kv => foldCase kv.1).Nodup := by
    rw [findCanonicalClash_eq_none_iff, nodup_map_canonicalizeParamName_iff, List.map_map]
    simp only [StrMap.empty_apply, implies_true, true_and]
    rfl
  rw [← hentries, ← hclash, ← validateTotalSize_eq_ok_iff map scope]
  show (do (map.entries.forM fun kv => validateEntry kv.1 kv.2 scope); _) = _ ↔ _
  cases (map.entries.forM fun kv => validateEntry kv.1 kv.2 scope) with
  | error e => simp [bind, Except.bind]
  | ok u =>
    cases findCanonicalClash StrMap.empty (map.entries.map Prod.fst) with
    | some clash => simp [bind, Except.bind]
    | none => simp [bind, Except.bind]

/-! ## The cascade -/

theorem entries_cascadeCanonicalKeys (layers : List BTreeMap) :
    (cascadeCanonicalKeys layers).entries =
      ((layers.flatMap (·.entries)).map fun kv => (canonicalizeParamName kv.1, kv.2)).foldl
        (fun es kv => SortedMap.insert kv.1 kv.2 es) [] := by
  -- the layers are inserted one after another, from any map
  have key : ∀ (ls : List BTreeMap) (m : BTreeMap),
      (ls.foldl (fun out layer => layer.entries.foldl
        (fun out kv => out.insert (canonicalizeParamName kv.1) kv.2) out) m).entries =
      ((ls.flatMap (·.entries)).map fun kv => (canonicalizeParamName kv.1, kv.2)).foldl
        (fun es kv => SortedMap.insert kv.1 kv.2 es) m.entries := by
    intro ls
    induction ls with
    | nil => intro m; rfl
    | cons l ls ih =>
      intro m
      rw [List.foldl_cons, ih, BTreeMap.entries_foldl_insert, List.flatMap_cons, List.map_append,
        List.foldl_append]
  exact key layers BTreeMap.empty

/-- **The merged map answers each name with its last entry up to case.** A lookup of the
canonical spelling of any name gives the value of the last entry, over the layers in order and
each layer in key order, whose key is that name up to ASCII case: a later layer overrides an
earlier one whatever the case its keys are written in. -/
theorem get_cascadeCanonicalKeys (layers : List BTreeMap) (key : String) :
    (cascadeCanonicalKeys layers).get (canonicalizeParamName key) =
      ((layers.flatMap (·.entries)).reverse.find? fun kv => eqIgnoreAsciiCase kv.1 key).map
        Prod.snd := by
  rw [BTreeMap.get, entries_cascadeCanonicalKeys, SortedMap.lookup_foldl_insert, List.lookup_nil,
    Option.or_none, ← List.map_reverse, SortedMap.lookup_map_fst]
  congr 2
  funext kv
  rw [Bool.eq_iff_iff, beq_iff_eq, eqIgnoreAsciiCase_eq, beq_iff_eq, eq_comm,
    canonicalizeParamName_eq_iff]

theorem mem_cascadeCanonicalKeys {layers : List BTreeMap} {e : String × String}
    (h : e ∈ (cascadeCanonicalKeys layers).entries) :
    ∃ l ∈ layers, ∃ kv ∈ l.entries, e = (canonicalizeParamName kv.1, kv.2) := by
  rw [entries_cascadeCanonicalKeys] at h
  rcases SortedMap.mem_foldl_insert h with h | h
  · cases h
  · obtain ⟨kv, hkv, rfl⟩ := List.mem_map.mp h
    obtain ⟨l, hl, hkv⟩ := List.mem_flatMap.mp hkv
    exact ⟨l, hl, kv, hkv, rfl⟩

/-- Every key admissible and no value with a NUL byte: what `validate` and `validate_entry`
leave of a map, and what the cascade keeps. -/
def Admissible (m : BTreeMap) : Prop :=
  ∀ kv ∈ m.entries, AdmissibleKey kv.1 ∧ (0 : UInt8) ∉ utf8Bytes kv.2

theorem Admissible.of_validate {m : BTreeMap} {scope : String} (h : validate m scope = .ok ()) :
    Admissible m :=
  ((validate_eq_ok_iff m scope).mp h).1

theorem admissible_empty : Admissible BTreeMap.empty := by
  intro kv h
  cases h

theorem admissible_cascadeCanonicalKeys {layers : List BTreeMap} (h : ∀ l ∈ layers, Admissible l) :
    Admissible (cascadeCanonicalKeys layers) := by
  intro e he
  obtain ⟨l, hl, kv, hkv, rfl⟩ := mem_cascadeCanonicalKeys he
  obtain ⟨hkey, hvalue⟩ := h l hl kv hkv
  exact ⟨hkey.canonicalize, hvalue⟩

/-! ## The auth_query overlay -/

/-- A field of the auth_query object adds, at most, the canonical key of a string field that
`validate_entry` accepts. -/
theorem mem_insertOverlayField {scope : String} {out : BTreeMap} {field : String × JsonValue}
    {e : String × String} (h : e ∈ (insertOverlayField scope out field).entries) :
    e ∈ out.entries ∨ ∃ s, field.2 = .string s ∧ validateEntry field.1 s scope = .ok () ∧
      e = (canonicalizeParamName field.1, s) := by
  unfold insertOverlayField at h
  split at h
  · next s hs =>
    split at h
    · next hv =>
      rcases SortedMap.mem_of_mem_insert h with rfl | h
      · exact .inr ⟨s, hs, hv, rfl⟩
      · exact .inl h
    · exact .inl h
  · exact .inl h

theorem admissible_foldl_insertOverlayField (scope : String) (fields : List (String × JsonValue))
    {out : BTreeMap} (h : Admissible out) :
    Admissible (fields.foldl (insertOverlayField scope) out) := by
  induction fields generalizing out with
  | nil => exact h
  | cons field fields ih =>
    apply ih
    intro e he
    rcases mem_insertOverlayField he with he | ⟨s, -, hv, rfl⟩
    · exact h e he
    · obtain ⟨hkey, hvalue⟩ := (validateEntry_eq_ok_iff _ _ _).mp hv
      exact ⟨hkey.canonicalize, hvalue⟩

/-- Whatever an auth_query row holds, the per-user map decoded from it is admissible. -/
theorem admissible_parseStartupParametersValue (value : JsonValue) (username : String) :
    Admissible (parseStartupParametersValue value username) := by
  unfold parseStartupParametersValue
  split
  · dsimp only
    split_ifs
    · exact admissible_empty
    · exact admissible_foldl_insertOverlayField _ _ admissible_empty
  · exact admissible_empty

theorem admissible_perUserStartupOverlay (isDedicated : Bool) {fetchedOverlay : BTreeMap}
    (h : Admissible fetchedOverlay) : Admissible (perUserStartupOverlay isDedicated fetchedOverlay) := by
  unfold perUserStartupOverlay
  split_ifs
  · exact admissible_empty
  · exact h

/-! ## Resolving a pool's map -/

/-- `build_resolved_startup`'s canonical base is the cascade of the base alone. -/
theorem collect_canonical_eq_cascade (base : BTreeMap) :
    BTreeMap.collect (base.entries.map fun kv => (canonicalizeParamName kv.1, kv.2)) =
      cascadeCanonicalKeys [base] := by
  rw [BTreeMap.collect, List.foldl_map]
  rfl

/-- The map `build_resolved_startup` checks is the cascade of the base and the overlay, whether
or not there is an overlay. -/
theorem merged_eq_cascade (base overlay : BTreeMap) :
    (if overlay.isEmpty then cascadeCanonicalKeys [base]
      else overlay.entries.foldl (fun m kv => m.insert (canonicalizeParamName kv.1) kv.2)
        (cascadeCanonicalKeys [base])) = cascadeCanonicalKeys [base, overlay] := by
  split_ifs with h
  · rw [BTreeMap.isEmpty_iff] at h
    simp only [cascadeCanonicalKeys, List.foldl_cons, List.foldl_nil, h]
  · rfl

theorem snd_foldl_packetStep (entries : List (String × String)) (acc : Nat × Nat) :
    (entries.foldl packetStep acc).2 = acc.2 + (entries.map pairBytes).sum := by
  induction entries generalizing acc with
  | nil => simp
  | cons kv entries ih =>
    rw [List.foldl_cons, ih, List.map_cons, List.sum_cons]
    by_cases hk : kv.1 = "application_name" <;> simp only [packetStep, pairBytes, hk, if_true,
      if_false] <;> omega

/-- `packet_and_body_bytes` counts the whole StartupMessage and the operator's pairs. -/
theorem packetAndBodyBytes_eq (user database applicationName : String) (extras : BTreeMap) :
    packetAndBodyBytes user database applicationName extras =
      (fullPacketBytes user database applicationName extras, serializedBytes extras) := by
  rw [fullPacketBytes, serializedBytes]
  ext
  · rfl
  · simp only [packetAndBodyBytes, snd_foldl_packetStep, Nat.zero_add]

/-- The spawn's check passes the resolved map exactly when the pool's decision was the full
cascade. -/
theorem resolvedStartupParameters_eq_ok_iff (resolved : BTreeMap × BudgetDecision)
    (poolName : String) (m : BTreeMap) :
    resolvedStartupParameters resolved poolName = .ok m ↔
      resolved.2 = .fullCascade ∧ resolved.1 = m := by
  unfold resolvedStartupParameters
  split <;> simp_all

/-- `build_resolved_startup`'s test that a map fits. -/
theorem fits_iff (bodyBytes packetBytes : Nat) :
    (!decide (bodyBytes > maxOperatorBudget) && !decide (packetBytes > maxStartupPacketSize)) =
        true ↔
      bodyBytes ≤ maxOperatorBudget ∧ packetBytes ≤ maxStartupPacketSize := by
  simp

/-- The pool's decision is the full cascade exactly when the cascade fits, and then the map
resolved is the cascade. -/
theorem buildResolvedStartup_eq_fullCascade_iff (base overlay : BTreeMap)
    (serverUsername database applicationName : String) :
    (buildResolvedStartup base overlay serverUsername database applicationName).2 =
        .fullCascade ↔
      serializedBytes (cascadeCanonicalKeys [base, overlay]) ≤ maxOperatorBudget ∧
        fullPacketBytes serverUsername database applicationName
          (cascadeCanonicalKeys [base, overlay]) ≤ maxStartupPacketSize := by
  unfold buildResolvedStartup
  simp only [collect_canonical_eq_cascade, merged_eq_cascade, packetAndBodyBytes_eq]
  split_ifs with hfit
  · simp only [true_iff]
    exact (fits_iff _ _).mp hfit
  -- the two refusals are other decisions
  all_goals
    simp only [false_iff]
    exact fun h => hfit ((fits_iff _ _).mpr h)

theorem fst_buildResolvedStartup_of_fullCascade {base overlay : BTreeMap}
    {serverUsername database applicationName : String}
    (h : (buildResolvedStartup base overlay serverUsername database applicationName).2 =
      .fullCascade) :
    (buildResolvedStartup base overlay serverUsername database applicationName).1 =
      cascadeCanonicalKeys [base, overlay] := by
  revert h
  unfold buildResolvedStartup
  simp only [collect_canonical_eq_cascade, merged_eq_cascade, packetAndBodyBytes_eq]
  split_ifs <;> simp

/-- **A spawn gets the whole merged map exactly when its StartupMessage fits.** The pool's
resolved map passes the spawn's check only as the canonical cascade of the base and the
overlay, with the operator's pairs within the budget and the StartupMessage `startup` writes
within PostgreSQL's cap; a map that does not fit is refused, never sent with an entry dropped. -/
theorem resolvedStartupParameters_build_eq_ok_iff (base overlay : BTreeMap)
    (serverUsername database applicationName poolName : String) (m : BTreeMap) :
    resolvedStartupParameters
        (buildResolvedStartup base overlay serverUsername database applicationName) poolName =
        .ok m ↔
      m = cascadeCanonicalKeys [base, overlay] ∧ serializedBytes m ≤ maxOperatorBudget ∧
        (startup serverUsername database applicationName m).length ≤ maxStartupPacketSize := by
  rw [resolvedStartupParameters_eq_ok_iff, buildResolvedStartup_eq_fullCascade_iff,
    length_startup]
  constructor
  · rintro ⟨hfit, hm⟩
    rw [fst_buildResolvedStartup_of_fullCascade
      ((buildResolvedStartup_eq_fullCascade_iff _ _ _ _ _).mpr hfit)] at hm
    subst hm
    exact ⟨rfl, hfit⟩
  · rintro ⟨rfl, hfit⟩
    have hfull := (buildResolvedStartup_eq_fullCascade_iff base overlay serverUsername database
      applicationName).mpr hfit
    exact ⟨hfit, fst_buildResolvedStartup_of_fullCascade hfull⟩

/-! ## PostgreSQL's reading of the StartupMessage -/

theorem utf8Bytes_ne_nil {s : String} (h : s ≠ "") : utf8Bytes s ≠ [] :=
  fun hs => h ((utf8Bytes_eq_nil_iff s).mp hs)

/-- Splitting C-strings at NUL gives them back, then the two empty parts around the final NUL. -/
theorem splitOn_cstrings {ss : List (List UInt8)} (h : ∀ s ∈ ss, (0 : UInt8) ∉ s) :
    (ss.flatMap (· ++ [0]) ++ [0]).splitOn 0 = ss ++ [[], []] := by
  have hcat : ss.flatMap (· ++ [0]) ++ [0] = [0].intercalate (ss ++ [[], []]) := by
    induction ss with
    | nil => rfl
    | cons s ss ih =>
      rw [List.flatMap_cons, List.cons_append, List.intercalate_cons_of_ne_nil (by simp),
        List.append_assoc, ih fun t ht => h t (List.mem_cons_of_mem _ ht)]
  rw [hcat, List.splitOn_intercalate 0 _ (by simp)]
  intro t ht
  rcases List.mem_append.mp ht with ht | ht
  · exact h t ht
  · simp only [List.mem_cons, List.not_mem_nil, or_false] at ht
    rcases ht with rfl | rfl <;> simp

theorem pgStartupPairs_flatMap {ps : List (List UInt8 × List UInt8)} (h : ∀ p ∈ ps, p.1 ≠ []) :
    pgStartupPairs ((ps.flatMap fun p => [p.1, p.2]) ++ [[], []]) = some ps := by
  induction ps with
  | nil => rfl
  | cons p ps ih =>
    simp only [List.flatMap_cons, List.cons_append, List.append_assoc]
    rw [pgStartupPairs, if_neg (h p List.mem_cons_self), List.nil_append, ih fun q hq => h q (List.mem_cons_of_mem _ hq)]
    rfl

/-- PostgreSQL reads what `startup` writes, pair by pair, when no string holds a NUL byte and
no extra key is empty. -/
theorem pgStartupPacket_startup (user database applicationName : String) (extraParams : BTreeMap)
    (hnul : ∀ s ∈ startupStrings user database applicationName extraParams,
      (0 : UInt8) ∉ utf8Bytes s)
    (hkeys : ∀ kv ∈ extraPairs extraParams, kv.1 ≠ "") :
    pgStartupPacket (startup user database applicationName extraParams) =
      some ((("user", user) :: ("application_name", effectiveAppName applicationName extraParams) ::
        ("database", database) :: extraPairs extraParams).map
          fun p => (utf8Bytes p.1, utf8Bytes p.2)) := by
  have hstrings : (startupStrings user database applicationName extraParams).map utf8Bytes =
      ((("user", user) :: ("application_name", effectiveAppName applicationName extraParams) ::
        ("database", database) :: extraPairs extraParams).map
          fun p => (utf8Bytes p.1, utf8Bytes p.2)).flatMap fun p => [p.1, p.2] := by
    simp [startupStrings, List.flatMap_map, List.map_flatMap]
  have hbytes : ∀ b ∈ (startupStrings user database applicationName extraParams).map utf8Bytes,
      (0 : UInt8) ∉ b := by
    intro b hb
    obtain ⟨s, hs, rfl⟩ := List.mem_map.mp hb
    exact hnul s hs
  rw [pgStartupPacket, startup_eq, List.drop_left' (by simp), splitOn_cstrings hbytes, hstrings,
    pgStartupPairs_flatMap]
  -- every name is one of the three managed keys or an extra key, none of them empty
  intro p hp
  obtain ⟨q, hq, rfl⟩ := List.mem_map.mp hp
  simp only [List.mem_cons] at hq
  rcases hq with rfl | rfl | rfl | hq
  · exact utf8Bytes_ne_nil (show "user" ≠ "" by decide)
  · exact utf8Bytes_ne_nil (show "application_name" ≠ "" by decide)
  · exact utf8Bytes_ne_nil (show "database" ≠ "" by decide)
  · exact utf8Bytes_ne_nil (hkeys q hq)

theorem backendStartup_eq_ok {general pool overlay : BTreeMap}
    {serverUsername database applicationName poolName : String} {packet : List UInt8}
    (h : backendStartup general pool overlay serverUsername database applicationName poolName =
      .ok packet) :
    ∃ m, resolvedStartupParameters (buildResolvedStartup (cascadeCanonicalKeys [general, pool])
        overlay serverUsername database applicationName) poolName = .ok m ∧
      packet = startup serverUsername database applicationName m := by
  unfold backendStartup at h
  cases hr : resolvedStartupParameters (buildResolvedStartup (cascadeCanonicalKeys [general, pool])
      overlay serverUsername database applicationName) poolName with
  | error e => simp [hr, bind, Except.bind] at h
  | ok m =>
    simp only [hr, bind, Except.bind, pure, Except.pure, Except.ok.injEq] at h
    exact ⟨m, rfl, h.symm⟩

/-- **The operator's parameters never reach the identity or the protocol of a backend.** For
general and pool layers that `validate` accepts and whatever JSON the auth_query returns for the
user, a StartupMessage that a backend spawn writes is within PostgreSQL's cap, and PostgreSQL
reads it as the pool's server user, an application name and the pool's database, followed only
by keys that are no reserved key in any case, have no `_pq_.` prefix in any case and are valid
GUC names. -/
theorem pgStartupPacket_backendStartup (general pool : BTreeMap) (value : JsonValue)
    (isDedicated : Bool) (username serverUsername database applicationName poolName generalScope
      poolScope : String)
    (hgeneral : validate general generalScope = .ok ()) (hpool : validate pool poolScope = .ok ())
    (hidentity : '\x00' ∉ serverUsername.toList ∧ '\x00' ∉ database.toList ∧
      '\x00' ∉ applicationName.toList)
    (packet : List UInt8)
    (h : backendStartup general pool
      (perUserStartupOverlay isDedicated (parseStartupParametersValue value username))
      serverUsername database applicationName poolName = .ok packet) :
    packet.length ≤ maxStartupPacketSize ∧
      ∃ app extras, pgStartupPacket packet =
        some ((("user", serverUsername) :: ("application_name", app) :: ("database", database) ::
          extras).map fun p => (utf8Bytes p.1, utf8Bytes p.2)) ∧
        ∀ p ∈ extras, AdmissibleKey p.1 := by
  obtain ⟨hu, hd, ha⟩ := hidentity
  obtain ⟨m, hm, hpacket⟩ := backendStartup_eq_ok h
  rw [hpacket]
  obtain ⟨rfl, -, hlen⟩ := (resolvedStartupParameters_build_eq_ok_iff _ _ _ _ _ _ _).mp hm
  -- the map sent is the cascade of admissible layers
  have hadm : Admissible (cascadeCanonicalKeys [cascadeCanonicalKeys [general, pool],
      perUserStartupOverlay isDedicated (parseStartupParametersValue value username)]) := by
    apply admissible_cascadeCanonicalKeys
    intro l hl
    simp only [List.mem_cons, List.not_mem_nil, or_false] at hl
    rcases hl with rfl | rfl
    · apply admissible_cascadeCanonicalKeys
      intro l hl
      simp only [List.mem_cons, List.not_mem_nil, or_false] at hl
      rcases hl with rfl | rfl
      · exact Admissible.of_validate hgeneral
      · exact Admissible.of_validate hpool
    · exact admissible_perUserStartupOverlay _ (admissible_parseStartupParametersValue _ _)
  generalize cascadeCanonicalKeys [cascadeCanonicalKeys [general, pool],
    perUserStartupOverlay isDedicated (parseStartupParametersValue value username)] = m at hadm hlen
  have hextra : ∀ kv ∈ extraPairs m, kv ∈ m.entries := fun kv hkv =>
    (List.mem_filter.mp hkv).1
  refine ⟨hlen, effectiveAppName applicationName m, extraPairs m,
    pgStartupPacket_startup _ _ _ _ ?_ ?_, fun p hp => (hadm p (hextra p hp)).1⟩
  · -- no string written holds a NUL byte
    intro s hs
    rcases mem_startupStrings hs with hs | ⟨kv, hkv, rfl | rfl⟩
    · simp only [List.mem_cons, List.not_mem_nil, or_false] at hs
      rcases hs with rfl | rfl | rfl | rfl | rfl | rfl
      · decide
      · exact zero_not_mem_utf8Bytes hu
      · decide
      · rcases effectiveAppName_eq_or_mem applicationName m with happ | ⟨kv, hkv, happ⟩
        · rw [happ]
          exact zero_not_mem_utf8Bytes ha
        · rw [← happ]
          exact (hadm kv hkv).2
      · decide
      · exact zero_not_mem_utf8Bytes hd
    · exact zero_not_mem_of_isValidGucName (hadm kv hkv).1.valid
    · exact (hadm kv hkv).2
  · intro kv hkv
    exact (hadm kv (hextra kv hkv)).1.ne_empty

/-- The general layer sets `work_mem` and the pool's `TimeZone`; the user's auth_query row asks
for `role` and `statement_timeout`, and `validate_entry` drops `role`. -/
theorem pgStartupPacket_backendStartup_timezone :
    let general : BTreeMap := ⟨[("work_mem", "64MB")], by simp⟩
    let pool : BTreeMap := ⟨[("TimeZone", "UTC")], by simp⟩
    let value := JsonValue.object [("role", .string "admin"), ("statement_timeout", .string "5s")]
    let overlay := perUserStartupOverlay false (parseStartupParametersValue value "alice")
    let packet := startup "app" "appdb" "pg_doorman"
      (cascadeCanonicalKeys [cascadeCanonicalKeys [general, pool], overlay])
    validate general "general.startup_parameters" = .ok () ∧
      validate pool "pools.appdb.startup_parameters" = .ok () ∧
      backendStartup general pool overlay "app" "appdb" "pg_doorman" "appdb" = .ok packet ∧
      packet.length ≤ maxStartupPacketSize ∧
      ∃ app extras, pgStartupPacket packet =
        some ((("user", "app") :: ("application_name", app) :: ("database", "appdb") ::
          extras).map fun p => (utf8Bytes p.1, utf8Bytes p.2)) ∧
        ∀ p ∈ extras, AdmissibleKey p.1 := by
  intro general pool value overlay packet
  have hgeneral : validate general "general.startup_parameters" = .ok () := by decide
  have hpool : validate pool "pools.appdb.startup_parameters" = .ok () := by decide
  have h : backendStartup general pool overlay "app" "appdb" "pg_doorman" "appdb" = .ok packet := by
    decide
  exact ⟨hgeneral, hpool, h, pgStartupPacket_backendStartup general pool value false "alice" "app"
    "appdb" "pg_doorman" "appdb" "general.startup_parameters" "pools.appdb.startup_parameters"
    hgeneral hpool ⟨by decide, by decide, by decide⟩ packet h⟩

/-! ## The size checks at load agree with the spawn's -/

theorem canonicalizeParamName_canonicalizeParamName (key : String) :
    canonicalizeParamName (canonicalizeParamName key) = canonicalizeParamName key :=
  canonicalizeParamName_eq_iff.mpr (foldCase_canonicalizeParamName key)

/-- A cascade of a cascade, with an empty overlay, is the cascade: its keys are canonical
already and its entries sorted. -/
theorem cascadeCanonicalKeys_cascade_empty (layers : List BTreeMap) :
    cascadeCanonicalKeys [cascadeCanonicalKeys layers, BTreeMap.empty] =
      cascadeCanonicalKeys layers := by
  have hcanon : ∀ kv ∈ (cascadeCanonicalKeys layers).entries,
      (canonicalizeParamName kv.1, kv.2) = kv := by
    intro kv hkv
    obtain ⟨l, -, kv', -, rfl⟩ := mem_cascadeCanonicalKeys hkv
    rw [canonicalizeParamName_canonicalizeParamName]
  show cascadeCanonicalKeys [cascadeCanonicalKeys layers] = _
  apply BTreeMap.ext_entries
  rw [entries_cascadeCanonicalKeys, List.flatMap_cons, List.flatMap_nil, List.append_nil,
    List.map_congr_left hcanon, List.map_id',
    SortedMap.foldl_insert_nil_of_sorted (cascadeCanonicalKeys layers).sorted]

/-- The server users a pool's backends log in as: each configured user's server username, and a
dedicated auth_query's server user. -/
def poolServerUsernames (poolConfig : PoolStartupConfig) : List String :=
  poolConfig.users.map (fun user => user.serverUsername.getD user.username) ++
    poolConfig.authQueryServerUser.toList

theorem bind_eq_ok_iff {ε : Type} (x y : Except ε Unit) :
    (x >>= fun _ => y) = .ok () ↔ x = .ok () ∧ y = .ok () := by
  cases x <;> simp [bind, Except.bind]

theorem validateUserIdentity_eq_ok_iff (poolName serverDatabase applicationName : String)
    (merged : BTreeMap) (displayKind displayUser serverUsername : String) :
    validateUserIdentity poolName serverDatabase applicationName merged displayKind displayUser
        serverUsername = .ok () ↔
      fullPacketBytes serverUsername serverDatabase applicationName merged ≤
        maxStartupPacketSize := by
  unfold validateUserIdentity
  dsimp only
  split_ifs with h
  · simp only [false_iff, not_le]
    exact h
  · simpa [fullPacketBytes] using h

theorem validatePoolStartupParameters_eq_ok_iff (general : BTreeMap)
    (pools : List (String × PoolStartupConfig)) :
    validatePoolStartupParameters general pools = .ok () ↔
      ∀ p ∈ pools,
        serializedBytes (cascadeCanonicalKeys [general, p.2.startupParameters]) ≤
            maxOperatorBudget ∧
          ∀ serverUsername ∈ poolServerUsernames p.2,
            fullPacketBytes serverUsername (p.2.serverDatabase.getD p.1)
              (p.2.applicationName.getD "pg_doorman")
              (cascadeCanonicalKeys [general, p.2.startupParameters]) ≤ maxStartupPacketSize := by
  unfold validatePoolStartupParameters
  rw [forM_eq_ok_iff]
  refine forall₂_congr fun p _ => ?_
  obtain ⟨poolName, poolConfig⟩ := p
  dsimp only
  -- after the size check, every configured user's server username, then the auth_query's
  have husers : (poolConfig.users.forM fun user =>
      validateUserIdentity poolName (poolConfig.serverDatabase.getD poolName)
        (poolConfig.applicationName.getD "pg_doorman")
        (cascadeCanonicalKeys [general, poolConfig.startupParameters]) "user" user.username
        (user.serverUsername.getD user.username)) = .ok () ↔
      ∀ user ∈ poolConfig.users, fullPacketBytes (user.serverUsername.getD user.username)
        (poolConfig.serverDatabase.getD poolName) (poolConfig.applicationName.getD "pg_doorman")
        (cascadeCanonicalKeys [general, poolConfig.startupParameters]) ≤ maxStartupPacketSize := by
    rw [forM_eq_ok_iff]
    exact forall₂_congr fun user _ => validateUserIdentity_eq_ok_iff _ _ _ _ _ _ _
  have hshared : (match poolConfig.authQueryServerUser with
      | some sharedUser =>
        validateUserIdentity poolName (poolConfig.serverDatabase.getD poolName)
          (poolConfig.applicationName.getD "pg_doorman")
          (cascadeCanonicalKeys [general, poolConfig.startupParameters]) "auth_query server_user"
          sharedUser sharedUser
      | none => pure ()) = .ok () ↔
      ∀ sharedUser ∈ poolConfig.authQueryServerUser.toList, fullPacketBytes sharedUser
        (poolConfig.serverDatabase.getD poolName) (poolConfig.applicationName.getD "pg_doorman")
        (cascadeCanonicalKeys [general, poolConfig.startupParameters]) ≤ maxStartupPacketSize := by
    cases poolConfig.authQueryServerUser with
    | none => simp [pure, Except.pure]
    | some sharedUser => simp [validateUserIdentity_eq_ok_iff]
  split_ifs with hsize
  · simp only [throw, throwThe, MonadExceptOf.throw, bind, Except.bind, reduceCtorEq, false_iff,
      not_and]
    intro hle
    exact absurd hle (not_le.mpr hsize)
  · simp only [bind_eq_ok_iff, husers, hshared, poolServerUsernames,
      List.mem_append, List.mem_map]
    constructor
    · rintro ⟨hu, hs⟩
      refine ⟨not_lt.mp hsize, ?_⟩
      rintro u (⟨user, huser, rfl⟩ | hu')
      · exact hu user huser
      · exact hs u hu'
    · rintro ⟨-, hall⟩
      exact ⟨fun user huser => hall _ (.inl ⟨user, huser, rfl⟩), fun u hu => hall u (.inr hu)⟩

/-- **A configuration the load-time check accepts is never refused at a static spawn.** When the
size checks of `Config::validate` pass, every server user a pool's backends log in as, a
configured user's or a dedicated auth_query's, gets at each spawn exactly the map its pool was
built with: no configured backend start is refused with 53400. -/
theorem resolvedStartupParameters_of_validatePoolStartupParameters (general : BTreeMap)
    (pools : List (String × PoolStartupConfig))
    (h : validatePoolStartupParameters general pools = .ok ())
    (poolName : String) (poolConfig : PoolStartupConfig) (hpool : (poolName, poolConfig) ∈ pools)
    (serverUsername : String) (huser : serverUsername ∈ poolServerUsernames poolConfig) :
    resolvedStartupParameters
        (buildResolvedStartup (cascadeCanonicalKeys [general, poolConfig.startupParameters])
          BTreeMap.empty serverUsername (poolConfig.serverDatabase.getD poolName)
          (poolConfig.applicationName.getD "pg_doorman")) poolName =
      .ok (cascadeCanonicalKeys [general, poolConfig.startupParameters]) := by
  obtain ⟨hsize, hpacket⟩ :=
    (validatePoolStartupParameters_eq_ok_iff general pools).mp h (poolName, poolConfig) hpool
  rw [resolvedStartupParameters_build_eq_ok_iff, cascadeCanonicalKeys_cascade_empty,
    length_startup]
  exact ⟨rfl, hsize, hpacket serverUsername huser⟩

/-- One pool `appdb` with one user `app`, `work_mem` in the general layer and `TimeZone` in the
pool's: the load-time check passes, and the user's spawns get the merged map. -/
theorem resolvedStartupParameters_of_validatePoolStartupParameters_appdb :
    let general : BTreeMap := ⟨[("work_mem", "64MB")], by simp⟩
    let appdb : PoolStartupConfig :=
      ⟨⟨[("TimeZone", "UTC")], by simp⟩, none, none, [⟨"app", none⟩], none⟩
    validatePoolStartupParameters general [("appdb", appdb)] = .ok () ∧
      ("appdb", appdb) ∈ [("appdb", appdb)] ∧ "app" ∈ poolServerUsernames appdb ∧
      resolvedStartupParameters
          (buildResolvedStartup (cascadeCanonicalKeys [general, appdb.startupParameters])
            BTreeMap.empty "app" (appdb.serverDatabase.getD "appdb")
            (appdb.applicationName.getD "pg_doorman")) "appdb" =
        .ok (cascadeCanonicalKeys [general, appdb.startupParameters]) := by
  intro general appdb
  have h : validatePoolStartupParameters general [("appdb", appdb)] = .ok () := by decide
  have hpool : ("appdb", appdb) ∈ [("appdb", appdb)] := List.mem_singleton_self _
  have huser : "app" ∈ poolServerUsernames appdb := by decide
  exact ⟨h, hpool, huser, resolvedStartupParameters_of_validatePoolStartupParameters general _ h
    "appdb" appdb hpool "app" huser⟩

end PgDoorman.Config
