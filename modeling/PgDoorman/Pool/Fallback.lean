import Mathlib

/-!
# The cooldown of fallback candidates

When the local PostgreSQL is blacklisted, a pool falls back to another member of the Patroni
cluster. `FallbackState` remembers the last host that worked (the whitelist) and, for every
candidate whose startup failed, a cooldown: `mark_unhealthy` opens a window that grows as
`connect_timeout * 2^(attempts - 1)`, with the shift capped at 20 and the window at 60 s, for
consecutive failures while the window is open, and starts again at one attempt once it has
lapsed. `is_unhealthy` answers inside the window and drops a lapsed entry, and
`get_fallback_targets` skips the candidates in cooldown, on the whitelist path as on discovery.

## The statement

`Cooldowns` is what the state is for: each candidate's current window and the number of
consecutive failures that opened it, changed only by a failure that warrants a cooldown and by
`clear`. The code keeps less: a lapsed entry may be gone, and the count saturates at `u32::MAX`.
`Tracks` relates the two, every operation keeps it, and so along every run at non-decreasing
instants every `is_unhealthy` answer is the abstract window test and no target is in an open
window.

Instants and durations are nanoseconds; each operation reads the clock once.

## Main definitions

* `FallbackState`, `Op`, `step`, `runOps`: the state, the operations and their runs
* `Cooldowns`, `cooldownWindow`, `Cooldowns.step`: the abstract cooldowns
* `Tracks`: the state's entries against the abstract windows

## Main results

* `tracks_step`: every operation keeps `Tracks`
* `fallback_cooldown_backoff`: along every run the state answers as the abstract cooldowns
-/

namespace PgDoorman.Fallback

/-! ## Patroni members -/

/-- `Role` of a Patroni member. -/
inductive Role where
  | leader
  | syncStandby
  | replica
  | other (name : String)
  deriving Repr, DecidableEq

/-- The tags of `MemberTags` that `select_candidates` reads. -/
structure MemberTags where
  noloadbalance : Bool
  nofailover : Bool
  archive : Bool
  deriving Repr, DecidableEq

/-- The fields of a `/cluster` `Member` that `select_candidates` reads. -/
structure Member where
  role : Role
  state : String
  host : String
  port : UInt16
  tags : MemberTags
  deriving Repr, DecidableEq

/-- `role_priority`: the lower, the sooner. -/
def rolePriority : Role → Nat
  | .syncStandby => 0
  | .replica => 1
  | _ => 2

/-- `select_candidates`: the running members that may take load, sync standbys first, then
replicas, then the rest, in `/cluster` order within each (`sort_by_key` is stable). -/
def selectCandidates (members : List Member) : List (String × UInt16 × Role) :=
  ((members.filter fun m =>
      (m.state == "streaming" || m.state == "running") && !m.tags.noloadbalance &&
        !m.tags.nofailover && !m.tags.archive).map
    fun m => (m.host, m.port, m.role)).mergeSort
    fun a b => decide (rolePriority a.2.2 ≤ rolePriority b.2.2)

/-! ## The state -/

/-- `FailureReason`. -/
inductive FailureReason where
  | connectError
  | resourceExhausted
  | startupError
  | serverUnavailable
  | timeout
  | startupParameterRejection
  | other
  deriving Repr, DecidableEq

/-- `FailureReason::warrants_host_cooldown`: all but a rejected startup parameter and local
descriptor exhaustion. -/
def FailureReason.warrantsHostCooldown : FailureReason → Bool
  | .startupParameterRejection | .resourceExhausted => false
  | _ => true

/-- `CooldownEntry`; `attempts` is a `u32`, and `untilAt` is the field `until`, a keyword here. -/
structure CooldownEntry where
  untilAt : Nat
  attempts : Nat
  lastWarnAt : Option Nat
  deriving Repr, DecidableEq

/-- `u32::MAX`, where `saturating_add` stops. -/
def u32Max : Nat := 2 ^ 32 - 1

/-- `COOLDOWN_MAX`: 60 s. -/
def cooldownMax : Nat := 60 * 10 ^ 9

/-- `COOLDOWN_LOG_RATE`: 10 s. -/
def cooldownLogRate : Nat := 10 * 10 ^ 9

/-- `Duration::checked_mul` by a `u32`: `None` once the seconds pass `u64::MAX`. -/
def durationCheckedMul (d m : Nat) : Option Nat :=
  if d * m < 2 ^ 64 * 10 ^ 9 then some (d * m) else none

/-- The window `mark_unhealthy` opens after `attempts` consecutive failures:
`base.checked_mul(1 << shift).unwrap_or(COOLDOWN_MAX).min(COOLDOWN_MAX)`, with the shift
`attempts - 1` capped at 20. -/
def cooldownNext (base attempts : Nat) : Nat :=
  let shift := min (attempts - 1) 20
  min ((durationCheckedMul base (2 ^ shift)).getD cooldownMax) cooldownMax

/-- A candidate: its host and port. -/
abbrev Key := String × UInt16

/-- `FallbackTarget`. -/
structure FallbackTarget where
  host : String
  port : UInt16
  role : Role
  lifetimeMs : Nat
  deriving Repr, DecidableEq

/-- `TargetSource`. -/
inductive TargetSource where
  | whitelistCache
  | discovery
  deriving Repr, DecidableEq

/-- `BlacklistCheck`. -/
inductive BlacklistCheck where
  | notBlacklisted
  | active
  | justExpired
  deriving Repr, DecidableEq

/-- The fields of `FallbackState` these operations read and write; the map
`unhealthy_candidates` is a function of the key. -/
structure FallbackState where
  blacklistedUntil : Option Nat
  whitelistedHost : Option (Key × Role)
  blacklistLogged : Bool
  unhealthyCandidates : Key → Option CooldownEntry
  blacklistDuration : Nat
  connectTimeout : Nat
  serverLifetimeMs : Nat

namespace FallbackState

/-- `FallbackState::new`, once its HTTP client is built. -/
def new (blacklistDuration connectTimeout serverLifetimeMs : Nat) : FallbackState :=
  ⟨none, none, false, fun _ => none, blacklistDuration, connectTimeout, serverLifetimeMs⟩

/-- The map with the entry of `key` replaced. -/
def setEntry (s : FallbackState) (key : Key) (e : Option CooldownEntry) : FallbackState :=
  { s with unhealthyCandidates := fun k => if k = key then e else s.unhealthyCandidates k }

/-- `mark_unhealthy`. -/
def markUnhealthy (s : FallbackState) (now : Nat) (key : Key) (reason : FailureReason) :
    FallbackState :=
  if !reason.warrantsHostCooldown then s
  else
    let entry := (s.unhealthyCandidates key).getD ⟨now, 0, none⟩
    let attempts := if entry.untilAt > now then min (entry.attempts + 1) u32Max else 1
    s.setEntry key (some { entry with
      attempts := attempts, untilAt := now + cooldownNext s.connectTimeout attempts })

/-- `prune_expired_unhealthy`. -/
def pruneExpiredUnhealthy (s : FallbackState) (now : Nat) : FallbackState :=
  { s with unhealthyCandidates := fun k =>
      (s.unhealthyCandidates k).filter fun e => decide (e.untilAt > now) }

/-- `is_unhealthy`, which drops a lapsed entry. -/
def isUnhealthy (s : FallbackState) (now : Nat) (key : Key) : Bool × FallbackState :=
  match s.unhealthyCandidates key with
  | some e => if e.untilAt > now then (true, s) else (false, s.setEntry key none)
  | none => (false, s)

/-- `should_log_unhealthy`. -/
def shouldLogUnhealthy (s : FallbackState) (now : Nat) (key : Key) : Bool × FallbackState :=
  match s.unhealthyCandidates key with
  | some e =>
    match e.lastWarnAt with
    | some prev =>
      if now - prev < cooldownLogRate then (false, s)
      else (true, s.setEntry key (some { e with lastWarnAt := some now }))
    | none => (true, s.setEntry key (some { e with lastWarnAt := some now }))
  | none => (true, s)

/-- `clear`. -/
def clear (s : FallbackState) : FallbackState :=
  { s with
    blacklistedUntil := none
    whitelistedHost := none
    unhealthyCandidates := fun _ => none
    blacklistLogged := false }

/-- `blacklist`. -/
def blacklist (s : FallbackState) (now : Nat) : FallbackState :=
  { s with blacklistedUntil := some (now + s.blacklistDuration) }

/-- `check_blacklist`: a natural expiry also clears the whitelist and the log flag. -/
def checkBlacklist (s : FallbackState) (now : Nat) : BlacklistCheck × FallbackState :=
  match s.blacklistedUntil with
  | some deadline =>
    if now < deadline then (.active, s)
    else (.justExpired,
      { s with blacklistedUntil := none, blacklistLogged := false, whitelistedHost := none })
  | none => (.notBlacklisted, s)

/-- The filter of discovery: the candidates `is_unhealthy` lets through, each call in turn. -/
def keepHealthy (now : Nat) :
    FallbackState → List (String × UInt16 × Role) → List (String × UInt16 × Role) × FallbackState
  | s, [] => ([], s)
  | s, c :: cs =>
    let (unhealthy, s) := s.isUnhealthy now (c.1, c.2.1)
    let (rest, s) := keepHealthy now s cs
    (if unhealthy then rest else c :: rest, s)

/-- The discovery path of `get_fallback_targets`: prune, take the `/cluster` answer (or its
error), select the candidates and drop those in cooldown. -/
def discover (s : FallbackState) (now : Nat) (cluster : Except String (List Member)) :
    Except String (List FallbackTarget × TargetSource) × FallbackState :=
  let s := s.pruneExpiredUnhealthy now
  match cluster with
  | .error e => (.error e, s)
  | .ok members =>
    let (candidates, s) := keepHealthy now s (selectCandidates members)
    if candidates.isEmpty then (.error "no eligible members in /cluster response", s)
    else (.ok (candidates.map (fun c => ⟨c.1, c.2.1, c.2.2, s.serverLifetimeMs⟩), .discovery), s)

/-- `get_fallback_targets`: the whitelisted host unless it is in cooldown, else discovery. -/
def getFallbackTargets (s : FallbackState) (now : Nat) (cluster : Except String (List Member)) :
    Except String (List FallbackTarget × TargetSource) × FallbackState :=
  match s.whitelistedHost with
  | some (key, role) =>
    let (unhealthy, s) := s.isUnhealthy now key
    if !unhealthy then (.ok ([⟨key.1, key.2, role, s.serverLifetimeMs⟩], .whitelistCache), s)
    else s.discover now cluster
  | none => s.discover now cluster

end FallbackState

/-! ## Runs -/

/-- The operations of a fallback state, the answer of `/cluster` included in discovery's. -/
inductive Op where
  | markUnhealthy (key : Key) (reason : FailureReason)
  | isUnhealthy (key : Key)
  | pruneExpiredUnhealthy
  | shouldLogUnhealthy (key : Key)
  | clear
  | setWhitelisted (key : Key) (role : Role)
  | clearWhitelist
  | blacklist
  | checkBlacklist
  | getFallbackTargets (cluster : Except String (List Member))

/-- What an operation returns. -/
inductive Output where
  | unit
  | flag (b : Bool)
  | blacklistCheck (c : BlacklistCheck)
  | targets (r : Except String (List FallbackTarget × TargetSource))

open FallbackState in
/-- One operation at the instant `now`. -/
def step (s : FallbackState) (now : Nat) : Op → Output × FallbackState
  | .markUnhealthy key reason => (.unit, s.markUnhealthy now key reason)
  | .isUnhealthy key => let (b, s) := s.isUnhealthy now key; (.flag b, s)
  | .pruneExpiredUnhealthy => (.unit, s.pruneExpiredUnhealthy now)
  | .shouldLogUnhealthy key => let (b, s) := s.shouldLogUnhealthy now key; (.flag b, s)
  | .clear => (.unit, s.clear)
  | .setWhitelisted key role => (.unit, { s with whitelistedHost := some (key, role) })
  | .clearWhitelist => (.unit, { s with whitelistedHost := none })
  | .blacklist => (.unit, s.blacklist now)
  | .checkBlacklist => let (c, s) := s.checkBlacklist now; (.blacklistCheck c, s)
  | .getFallbackTargets cluster => let (r, s) := s.getFallbackTargets now cluster; (.targets r, s)

/-- The answers of a run of timed operations, and the state after it. -/
def runOps : FallbackState → List (Nat × Op) → List Output × FallbackState
  | s, [] => ([], s)
  | s, (now, op) :: run =>
    let (out, s) := step s now op
    let (outs, s) := runOps s run
    (out :: outs, s)

/-! ## What the cooldowns are for -/

/-- A candidate's current cooldown: the end of its window, and the number of consecutive
failures, each arriving while the window before it was open, that opened it. -/
structure Window where
  untilAt : Nat
  count : Nat
  deriving Repr, DecidableEq

/-- Every candidate's current cooldown, if it has failed since the last `clear`. -/
abbrev Cooldowns := Key → Option Window

/-- The length of the window the `count`-th consecutive failure opens: `connect_timeout`
doubled once for each failure before it, at most twenty times, and at most 60 s. -/
def cooldownWindow (base count : Nat) : Nat :=
  min (base * 2 ^ min (count - 1) 20) cooldownMax

namespace Window

/-- Whether a cooldown is open at `now`. -/
def isOpen (now : Nat) : Option Window → Bool
  | some w => decide (now < w.untilAt)
  | none => false

/-- The count of a failure at `now`: one more while the window is open, else one. -/
def nextCount (now : Nat) : Option Window → Nat
  | some w => if now < w.untilAt then w.count + 1 else 1
  | none => 1

/-- The cooldown a failure at `now` opens. -/
def fail (base now : Nat) (w : Option Window) : Window :=
  ⟨now + cooldownWindow base (nextCount now w), nextCount now w⟩

end Window

/-- How an operation at `now` changes the cooldowns: a failure that warrants one opens the
next window, `clear` forgets them all, and nothing else touches them. -/
def Cooldowns.step (base : Nat) (c : Cooldowns) (now : Nat) : Op → Cooldowns
  | .markUnhealthy key reason =>
    if reason.warrantsHostCooldown then
      fun k => if k = key then some (Window.fail base now (c key)) else c k
    else c
  | .clear => fun _ => none
  | _ => c

/-- What an answer must be, against the cooldowns at `now`: `is_unhealthy` is the window test,
and no target is in an open window. -/
def Agrees (c : Cooldowns) (now : Nat) : Op → Output → Prop
  | .isUnhealthy key, .flag b => b = Window.isOpen now (c key)
  | .getFallbackTargets _, .targets (.ok (ts, _)) =>
    ∀ t ∈ ts, Window.isOpen now (c (t.host, t.port)) = false
  | _, _ => True

/-- A run's answers agree with the cooldowns along it, each against the cooldowns of its
instant. -/
def AgreesAlong (base : Nat) : Cooldowns → List (Nat × Op) → List Output → Prop
  | c, (now, op) :: run, out :: outs =>
    Agrees c now op out ∧ AgreesAlong base (c.step base now op) run outs
  | _, [], [] => True
  | _, _, _ => False

/-! ## The state tracks the cooldowns -/

/-- An entry against the cooldown at `now`: the same window and the count saturated, or no
entry for a window that has lapsed. -/
def EntryTracks (now : Nat) : Option CooldownEntry → Option Window → Prop
  | some e, some w => e.untilAt = w.untilAt ∧ e.attempts = min w.count u32Max
  | none, some w => w.untilAt ≤ now
  | none, none => True
  | some _, none => False

/-- Every entry of the state tracks its candidate's cooldown. -/
def Tracks (s : FallbackState) (c : Cooldowns) (now : Nat) : Prop :=
  ∀ key, EntryTracks now (s.unhealthyCandidates key) (c key)

theorem EntryTracks.mono {now now' : Nat} (hle : now ≤ now') :
    ∀ {e : Option CooldownEntry} {w : Option Window}, EntryTracks now e w → EntryTracks now' e w
  | some _, some _, h => h
  | none, some _, h => Nat.le_trans h hle
  | none, none, h => h

/-- The state's test of an entry is the cooldown's. -/
theorem EntryTracks.isOpen {now : Nat} :
    ∀ {e : Option CooldownEntry} {w : Option Window}, EntryTracks now e w →
      (match e with
        | some e => decide (e.untilAt > now)
        | none => false) = Window.isOpen now w
  | some e, some w, h => by simp [Window.isOpen, h.1]
  | none, some w, h => by
    have hlapsed : w.untilAt ≤ now := h
    simp [Window.isOpen]
    omega
  | none, none, _ => rfl

/-- Saturating the count changes no window: past twenty failures the shift is capped. -/
theorem cooldownNext_min_u32Max (base k : Nat) :
    cooldownNext base (min k u32Max) = cooldownWindow base k := by
  have hshift : min (min k u32Max - 1) 20 = min (k - 1) 20 := by
    unfold u32Max
    omega
  rw [cooldownNext, cooldownWindow, hshift, durationCheckedMul]
  split_ifs with hmul
  · rfl
  · -- past `u64::MAX` seconds the product is far beyond the cap
    have hcap : cooldownMax ≤ base * 2 ^ min (k - 1) 20 := by
      unfold cooldownMax
      omega
    rw [Option.getD_none, Nat.min_self, Nat.min_eq_right hcap]

/-- The count `mark_unhealthy` computes from its entry is the cooldown's, saturated. -/
theorem attempts_eq_min_nextCount {now : Nat} {e : Option CooldownEntry} {w : Option Window}
    (h : EntryTracks now e w) :
    (if (e.getD ⟨now, 0, none⟩).untilAt > now then
      min ((e.getD ⟨now, 0, none⟩).attempts + 1) u32Max else 1) =
      min (Window.nextCount now w) u32Max := by
  match e, w, h with
  | some e, some w, h =>
    obtain ⟨huntil, hattempts⟩ := h
    simp only [Option.getD_some, Window.nextCount, huntil, hattempts, gt_iff_lt]
    split_ifs
    · unfold u32Max
      omega
    · rfl
  | none, some w, h =>
    have hlapsed : w.untilAt ≤ now := h
    simp only [Option.getD_none, Window.nextCount, gt_iff_lt, Nat.lt_irrefl, if_false]
    rw [if_neg (by omega)]
    rfl
  | none, none, _ =>
    simp [Window.nextCount, u32Max]

/-- The entry `mark_unhealthy` writes tracks the cooldown the failure opens. -/
theorem entryTracks_fail {base now : Nat} {e : Option CooldownEntry} {w : Option Window}
    (h : EntryTracks now e w) :
    EntryTracks now
      (some { e.getD ⟨now, 0, none⟩ with
        attempts := if (e.getD ⟨now, 0, none⟩).untilAt > now then
          min ((e.getD ⟨now, 0, none⟩).attempts + 1) u32Max else 1
        untilAt := now + cooldownNext base (if (e.getD ⟨now, 0, none⟩).untilAt > now then
          min ((e.getD ⟨now, 0, none⟩).attempts + 1) u32Max else 1) })
      (some (Window.fail base now w)) := by
  rw [attempts_eq_min_nextCount h, cooldownNext_min_u32Max]
  exact ⟨rfl, rfl⟩

theorem EntryTracks.none_of_lapsed {now : Nat} {e : CooldownEntry} :
    ∀ {w : Option Window}, EntryTracks now (some e) w → e.untilAt ≤ now → EntryTracks now none w
  | some w, h, hl => show w.untilAt ≤ now by rw [← h.1]; exact hl
  | none, h, _ => h.elim

theorem EntryTracks.lastWarnAt {now : Nat} {e : CooldownEntry} (t : Option Nat) :
    ∀ {w : Option Window}, EntryTracks now (some e) w →
      EntryTracks now (some { e with lastWarnAt := t }) w
  | some _, h => h
  | none, h => h.elim

/-! ## Frame: the configuration stays -/

namespace FallbackState

@[simp] theorem connectTimeout_markUnhealthy (s : FallbackState) (now : Nat) (key : Key)
    (reason : FailureReason) : (s.markUnhealthy now key reason).connectTimeout = s.connectTimeout := by
  unfold markUnhealthy
  split <;> rfl

@[simp] theorem connectTimeout_isUnhealthy (s : FallbackState) (now : Nat) (key : Key) :
    (s.isUnhealthy now key).2.connectTimeout = s.connectTimeout := by
  unfold isUnhealthy
  split
  · split <;> rfl
  · rfl

@[simp] theorem connectTimeout_shouldLogUnhealthy (s : FallbackState) (now : Nat) (key : Key) :
    (s.shouldLogUnhealthy now key).2.connectTimeout = s.connectTimeout := by
  unfold shouldLogUnhealthy
  split
  · split
    · split <;> rfl
    · rfl
  · rfl

@[simp] theorem connectTimeout_checkBlacklist (s : FallbackState) (now : Nat) :
    (s.checkBlacklist now).2.connectTimeout = s.connectTimeout := by
  unfold checkBlacklist
  split
  · split <;> rfl
  · rfl

@[simp] theorem connectTimeout_keepHealthy (now : Nat) :
    ∀ (s : FallbackState) (cs : List (String × UInt16 × Role)),
      (keepHealthy now s cs).2.connectTimeout = s.connectTimeout
  | s, [] => rfl
  | s, _ :: cs => by
    rw [keepHealthy, connectTimeout_keepHealthy now _ cs, connectTimeout_isUnhealthy]

@[simp] theorem connectTimeout_discover (s : FallbackState) (now : Nat)
    (cluster : Except String (List Member)) :
    (s.discover now cluster).2.connectTimeout = s.connectTimeout := by
  unfold discover
  split
  · rfl
  · dsimp only
    split <;> simp [pruneExpiredUnhealthy]

@[simp] theorem connectTimeout_getFallbackTargets (s : FallbackState) (now : Nat)
    (cluster : Except String (List Member)) :
    (s.getFallbackTargets now cluster).2.connectTimeout = s.connectTimeout := by
  unfold getFallbackTargets
  split
  · dsimp only
    split <;> simp
  · simp

end FallbackState

@[simp] theorem connectTimeout_step (s : FallbackState) (now : Nat) (op : Op) :
    (step s now op).2.connectTimeout = s.connectTimeout := by
  cases op <;> simp [step, FallbackState.pruneExpiredUnhealthy, FallbackState.clear,
    FallbackState.blacklist]

/-! ## Each operation keeps the tracking -/

section Steps

variable {s : FallbackState} {c : Cooldowns} {now : Nat}

theorem tracks_setEntry_update {key : Key} {e : Option CooldownEntry} {w : Option Window}
    (h : Tracks s c now) (he : EntryTracks now e w) :
    Tracks (s.setEntry key e) (fun k => if k = key then w else c k) now := by
  intro k
  by_cases hk : k = key
  · simpa [FallbackState.setEntry, hk] using he
  · simpa [FallbackState.setEntry, hk] using h k

/-- An entry replaced by one that tracks the same cooldown: the cooldowns stay. -/
theorem tracks_setEntry {key : Key} {e : Option CooldownEntry} (h : Tracks s c now)
    (he : EntryTracks now e (c key)) : Tracks (s.setEntry key e) c now := by
  have hsame : (fun k => if k = key then c key else c k) = c := by
    funext k
    by_cases hk : k = key
    · rw [if_pos hk, hk]
    · rw [if_neg hk]
  have hupdate : Tracks (s.setEntry key e) (fun k => if k = key then c key else c k) now :=
    tracks_setEntry_update h he
  rwa [hsame] at hupdate

theorem tracks_markUnhealthy (h : Tracks s c now) (key : Key) (reason : FailureReason) :
    Tracks (s.markUnhealthy now key reason)
      (c.step s.connectTimeout now (.markUnhealthy key reason)) now := by
  rw [FallbackState.markUnhealthy, Cooldowns.step]
  dsimp only
  by_cases hr : reason.warrantsHostCooldown = true
  · rw [if_pos hr, if_neg (by simp [hr])]
    exact tracks_setEntry_update h (entryTracks_fail (h key))
  · -- a failure that says nothing of the host changes nothing
    rw [if_neg hr, if_pos (by simpa using hr)]
    exact h

/-- `is_unhealthy` answers the window test, and dropping a lapsed entry keeps the tracking. -/
theorem isUnhealthy_spec (h : Tracks s c now) (key : Key) :
    (s.isUnhealthy now key).1 = Window.isOpen now (c key) ∧
      Tracks (s.isUnhealthy now key).2 c now := by
  have hkey := h key
  have hopen := hkey.isOpen
  unfold FallbackState.isUnhealthy
  split
  · rename_i e he
    rw [he] at hkey hopen
    split_ifs with hlt
    · exact ⟨by simpa [hlt] using hopen, h⟩
    · exact ⟨by simpa [hlt] using hopen,
        tracks_setEntry h (hkey.none_of_lapsed (Nat.le_of_not_lt hlt))⟩
  · rename_i he
    rw [he] at hopen
    exact ⟨hopen, h⟩

theorem tracks_pruneExpiredUnhealthy (h : Tracks s c now) :
    Tracks (s.pruneExpiredUnhealthy now) c now := by
  intro key
  have hkey := h key
  show EntryTracks now ((s.unhealthyCandidates key).filter _) (c key)
  cases he : s.unhealthyCandidates key with
  | none => simpa [he] using hkey
  | some e =>
    rw [he] at hkey
    by_cases hlt : e.untilAt > now
    · simpa [Option.filter, hlt] using hkey
    · simpa [Option.filter, hlt] using hkey.none_of_lapsed (Nat.le_of_not_lt hlt)

theorem tracks_shouldLogUnhealthy (h : Tracks s c now) (key : Key) :
    Tracks (s.shouldLogUnhealthy now key).2 c now := by
  unfold FallbackState.shouldLogUnhealthy
  split
  · rename_i e he
    -- only the last warning's instant changes
    have hkey : EntryTracks now (some { e with lastWarnAt := some now }) (c key) := by
      have := h key
      rw [he] at this
      exact this.lastWarnAt (some now)
    split
    · split
      · exact h
      · exact tracks_setEntry h hkey
    · exact tracks_setEntry h hkey
  · exact h

/-- Discovery's filter keeps the tracking and lets through no candidate in cooldown. -/
theorem keepHealthy_spec (now : Nat) :
    ∀ (s : FallbackState) (cs : List (String × UInt16 × Role)), Tracks s c now →
      Tracks (FallbackState.keepHealthy now s cs).2 c now ∧
        ∀ x ∈ (FallbackState.keepHealthy now s cs).1, Window.isOpen now (c (x.1, x.2.1)) = false
  | s, [], h => ⟨h, by simp [FallbackState.keepHealthy]⟩
  | s, x :: cs, h => by
    obtain ⟨hflag, hs⟩ := isUnhealthy_spec h (x.1, x.2.1)
    obtain ⟨hrest, hkept⟩ := keepHealthy_spec now _ cs hs
    refine ⟨hrest, ?_⟩
    rw [FallbackState.keepHealthy]
    dsimp only
    split_ifs with hunhealthy
    · exact hkept
    · intro y hy
      rcases List.mem_cons.mp hy with rfl | hy
      · rw [← hflag]
        simpa using hunhealthy
      · exact hkept y hy

theorem discover_spec (h : Tracks s c now) (cluster : Except String (List Member)) :
    Tracks (s.discover now cluster).2 c now ∧
      ∀ ts src, (s.discover now cluster).1 = .ok (ts, src) →
        ∀ t ∈ ts, Window.isOpen now (c (t.host, t.port)) = false := by
  have hpruned := tracks_pruneExpiredUnhealthy h
  unfold FallbackState.discover
  split
  · exact ⟨hpruned, by simp⟩
  · rename_i members
    obtain ⟨hkept, hhealthy⟩ := keepHealthy_spec now _ (selectCandidates members) hpruned
    dsimp only
    split
    · exact ⟨hkept, by simp⟩
    · refine ⟨hkept, ?_⟩
      intro ts src hok t ht
      obtain ⟨rfl, -⟩ := Prod.mk.inj (Except.ok.inj hok)
      obtain ⟨x, hx, rfl⟩ := List.mem_map.mp ht
      exact hhealthy x hx

/-- `get_fallback_targets` keeps the tracking and returns no candidate in cooldown, from the
whitelist or from discovery. -/
theorem getFallbackTargets_spec (h : Tracks s c now) (cluster : Except String (List Member)) :
    Tracks (s.getFallbackTargets now cluster).2 c now ∧
      ∀ ts src, (s.getFallbackTargets now cluster).1 = .ok (ts, src) →
        ∀ t ∈ ts, Window.isOpen now (c (t.host, t.port)) = false := by
  unfold FallbackState.getFallbackTargets
  split
  · rename_i key role hw
    obtain ⟨hflag, hs⟩ := isUnhealthy_spec h key
    dsimp only
    split_ifs with hunhealthy
    · refine ⟨hs, ?_⟩
      intro ts src hok t ht
      obtain ⟨rfl, -⟩ := Prod.mk.inj (Except.ok.inj hok)
      rw [List.mem_singleton.mp ht, ← hflag]
      simpa using hunhealthy
    · exact discover_spec hs cluster
  · exact discover_spec h cluster

end Steps

/-! ## Runs -/

/-- **One step**: every operation keeps the tracking, against the cooldowns after it, and its
answer agrees with the cooldowns at its instant. -/
theorem tracks_step {s : FallbackState} {c : Cooldowns} {now : Nat} (h : Tracks s c now)
    (op : Op) :
    Tracks (step s now op).2 (c.step s.connectTimeout now op) now ∧
      Agrees c now op (step s now op).1 := by
  cases op with
  | markUnhealthy key reason => exact ⟨tracks_markUnhealthy h key reason, trivial⟩
  | isUnhealthy key =>
    obtain ⟨hflag, hs⟩ := isUnhealthy_spec h key
    exact ⟨hs, hflag⟩
  | pruneExpiredUnhealthy => exact ⟨tracks_pruneExpiredUnhealthy h, trivial⟩
  | shouldLogUnhealthy key => exact ⟨tracks_shouldLogUnhealthy h key, trivial⟩
  | clear => exact ⟨fun _ => trivial, trivial⟩
  | setWhitelisted key role => exact ⟨h, trivial⟩
  | clearWhitelist => exact ⟨h, trivial⟩
  | blacklist => exact ⟨h, trivial⟩
  | checkBlacklist =>
    refine ⟨?_, trivial⟩
    -- the blacklist check leaves the map alone
    show Tracks (s.checkBlacklist now).2 c now
    unfold FallbackState.checkBlacklist
    split
    · split <;> exact h
    · exact h
  | getFallbackTargets cluster =>
    obtain ⟨hs, htargets⟩ := getFallbackTargets_spec h cluster
    refine ⟨hs, ?_⟩
    show Agrees c now (.getFallbackTargets cluster) (.targets (s.getFallbackTargets now cluster).1)
    cases hr : (s.getFallbackTargets now cluster).1 with
    | error e => trivial
    | ok r => exact htargets r.1 r.2 hr

/-- **The run**: from a state that tracks the cooldowns at `start`, a run whose instants do not
go back and start no sooner answers as the cooldowns along it. -/
theorem agreesAlong_runOps :
    ∀ (run : List (Nat × Op)) (s : FallbackState) (c : Cooldowns) (start : Nat),
      run.Pairwise (fun a b => a.1 ≤ b.1) → (∀ e ∈ run, start ≤ e.1) → Tracks s c start →
        AgreesAlong s.connectTimeout c run (runOps s run).1
  | [], _, _, _, _, _, _ => trivial
  | (now, op) :: run, s, c, start, hmono, hstart, h => by
    obtain ⟨hhead, htail⟩ := List.pairwise_cons.mp hmono
    -- the tracking holds at the operation's instant, and after it
    have hnow : Tracks s c now := fun key => (h key).mono (hstart _ List.mem_cons_self)
    obtain ⟨hs, hagrees⟩ := tracks_step hnow op
    have hrest := agreesAlong_runOps run (step s now op).2 (c.step s.connectTimeout now op) now
      htail (fun e he => hhead e he) hs
    rw [connectTimeout_step] at hrest
    exact ⟨hagrees, hrest⟩

theorem fallback_cooldown_backoff (blacklistDuration connectTimeout serverLifetimeMs : Nat)
    (run : List (Nat × Op)) (hmono : run.Pairwise fun a b => a.1 ≤ b.1) :
    AgreesAlong connectTimeout (fun _ => none) run
      (runOps (FallbackState.new blacklistDuration connectTimeout serverLifetimeMs) run).1 :=
  -- the new state has no entry, against no cooldown
  agreesAlong_runOps run (FallbackState.new blacklistDuration connectTimeout serverLifetimeMs)
    (fun _ => none) 0 hmono (fun _ _ => Nat.zero_le _) fun _ => trivial

/-- Three timeouts of one candidate, each while its window is open, then two checks: with a
5 ns base the windows last 5, 10 and 20 ns, so the candidate is still cooling down at 15 ns and
no longer at 25 ns. -/
def timeoutRun : List (Nat × Op) :=
  [(0, .markUnhealthy ("10.0.0.1", 5432) .timeout), (1, .markUnhealthy ("10.0.0.1", 5432) .timeout),
    (2, .markUnhealthy ("10.0.0.1", 5432) .timeout), (15, .isUnhealthy ("10.0.0.1", 5432)),
    (25, .isUnhealthy ("10.0.0.1", 5432))]

theorem fallback_cooldown_backoff_timeout :
    timeoutRun.Pairwise (fun a b => a.1 ≤ b.1) ∧
      AgreesAlong 5 (fun _ => none) timeoutRun (runOps (FallbackState.new 0 5 0) timeoutRun).1 ∧
      (runOps (FallbackState.new 0 5 0) timeoutRun).1 =
        [.unit, .unit, .unit, .flag true, .flag false] :=
  ⟨by decide, fallback_cooldown_backoff 0 5 0 _ (by decide), rfl⟩

/-- With a 1 ns base, twenty-two failures at one instant open a window of 2^20 ns, not 2^21:
the shift stops at 20 before the 60 s cap is reached. -/
theorem cooldown_shift_capped :
    ((runOps (FallbackState.new 0 1 0)
        (List.replicate 22 (0, .markUnhealthy ("10.0.0.1", 5432) .timeout))).2.isUnhealthy
          (2 ^ 20) ("10.0.0.1", 5432)).1 = false ∧
      2 ^ 20 < 0 + min (1 * 2 ^ (22 - 1)) cooldownMax := by
  decide +kernel

end PgDoorman.Fallback
