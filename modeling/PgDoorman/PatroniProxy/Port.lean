import PgDoorman.Transition.Run

/-!
# patroni_proxy: routing and member updates

A `Port` of patroni_proxy accepts client connections and routes each to a backend, a cluster
member chosen by least connections. Its `run` loop selects a backend under the `backends` read
lock, bumps its connection count, spawns the proxy, and pushes the proxy's stop handle, grouped
by host, under the `active_connections` lock. `update_members` replaces the member list when the
cluster changes: it computes the eligible hosts and the removed ones, stops and drops the handles
of the removed hosts under the `active_connections` lock, and stores the new backends. Its
documentation says: "When a member is removed, all its active connections are terminated."

## The model

The backends as hosts with their connection counts, the stop handles by host, the stopped
handles, the connections of `run`, and one `update_members` call with its eligible hosts (the
members `is_member_eligible` keeps). Each locked section, and each `.await`-free stretch between
them, is one step.

## Main definitions

* `PortState`, `ConnPc`, `UpdatePc`, `Action`, `step`
* `Escaped`: the update has returned, every connection has registered its handle, and a handle
  still registered and not stopped belongs to a host the update removed

## Main results

* `connection_escapes_disconnect`: a connection that selected a host before the update and
  registers its handle after the disconnect pass keeps its proxy to the removed host
-/

namespace PgDoorman.PatroniProxy

open Transition

/-- Where a connection accepted by `Port::run` is. Stop handles are numbers. -/
inductive ConnPc where
  /-- Accepted, before `select_backend`. -/
  | accepted
  /-- `select_backend` chose this host. -/
  | selected (host : String)
  /-- `increment_connections` done and the proxy spawned with this stop handle. -/
  | spawned (host : String) (handle : Nat)
  /-- The stop handle is in `active_connections` under the host. -/
  | registered (host : String) (handle : Nat)
  /-- No backend was available; the connection was closed. -/
  | rejected
  deriving Repr, DecidableEq

/-- Where the `update_members` call is. -/
inductive UpdatePc where
  | pending
  /-- `new_backends` computed under the first read lock. -/
  | computedNew (newBackends : List (String × Nat))
  /-- `removed_hosts` computed under the second read lock. -/
  | computedRemoved (newBackends : List (String × Nat)) (removed : List String)
  /-- The removed hosts' handles are stopped and dropped. -/
  | disconnected (newBackends : List (String × Nat))
  /-- The backends are replaced and the call has returned. -/
  | returned
  deriving Repr, DecidableEq

/-- A port: backends with their connection counts, `active_connections`, the stopped handles,
the connections, and the update with the hosts it finds eligible. -/
structure PortState where
  backends : List (String × Nat)
  activeConnections : List (String × List Nat)
  stopped : List Nat
  conns : List ConnPc
  eligible : List String
  update : UpdatePc
  nextHandle : Nat
  deriving Repr, DecidableEq

/-- A port routing to `backends`, `n` connections just accepted, an update to `eligible`. -/
def PortState.init (backends : List String) (n : Nat) (eligible : List String) : PortState :=
  ⟨backends.map (·, 0), [], [], List.replicate n .accepted, eligible, .pending, 0⟩

/-- `select_backend`: the first backend of least connections. -/
def selectBackend : List (String × Nat) → Option String
  | [] => none
  | b :: bs =>
    some (bs.foldl (fun best c => if c.2 < best.2 then c else best) b).1

/-- The count of a host's backend changes by `f`; a host no longer listed keeps its `Backend`
alive only in the connection's task, where the change is not seen. -/
def bumpCount (backends : List (String × Nat)) (host : String) (f : Nat → Nat) :
    List (String × Nat) :=
  backends.map fun b => if b.1 = host then (b.1, f b.2) else b

/-- The new backends: one per eligible host, reusing the existing `Backend` of a host, and so
its count, or a new one with none. -/
def reuseBackends (backends : List (String × Nat)) (eligible : List String) : List (String × Nat) :=
  eligible.map fun host => (host, ((backends.find? (·.1 = host)).map Prod.snd).getD 0)

/-- The hosts of the current backends that are not eligible. -/
def removedHosts (backends : List (String × Nat)) (eligible : List String) : List String :=
  (backends.map Prod.fst).filter (· ∉ eligible)

/-- Push a handle under a host: `entry(host).or_insert_with(Vec::new).push(handle)`. -/
def pushHandle (active : List (String × List Nat)) (host : String) (handle : Nat) :
    List (String × List Nat) :=
  if active.any (·.1 = host) then active.map fun e => if e.1 = host then (e.1, e.2 ++ [handle]) else e
  else active ++ [(host, [handle])]

/-- The steps of the connections and of the update. -/
inductive Action where
  | select (c : Nat)
  | spawn (c : Nat)
  | register (c : Nat)
  | computeNew
  | computeRemoved
  | disconnect
  | replace
  deriving Repr, DecidableEq

namespace PortState

/-- Connection `c` moves to `pc`. -/
def moveTo (s : PortState) (c : Nat) (pc : ConnPc) : PortState :=
  { s with conns := s.conns.set c pc }

/-- One step; `none` when its task is not there. -/
def step (s : PortState) : Action → Option PortState
  | .select c =>
    if s.conns[c]? = some .accepted then
      match selectBackend s.backends with
      | some host => some (s.moveTo c (.selected host))
      | none => some (s.moveTo c .rejected)
    else none
  | .spawn c =>
    match s.conns[c]? with
    | some (.selected host) =>
      some ({ s with
        backends := bumpCount s.backends host (· + 1)
        nextHandle := s.nextHandle + 1 }.moveTo c (.spawned host s.nextHandle))
    | _ => none
  | .register c =>
    match s.conns[c]? with
    | some (.spawned host handle) =>
      some ({ s with activeConnections := pushHandle s.activeConnections host handle }.moveTo c
        (.registered host handle))
    | _ => none
  | .computeNew =>
    if s.update = .pending then
      some { s with update := .computedNew (reuseBackends s.backends s.eligible) }
    else none
  | .computeRemoved =>
    match s.update with
    | .computedNew nb =>
      some { s with update := .computedRemoved nb (removedHosts s.backends s.eligible) }
    | _ => none
  | .disconnect =>
    match s.update with
    | .computedRemoved nb removed =>
      some { s with
        stopped := s.stopped ++ ((s.activeConnections.filter (·.1 ∈ removed)).flatMap Prod.snd)
        activeConnections := s.activeConnections.filter (·.1 ∉ removed)
        update := .disconnected nb }
    | _ => none
  | .replace =>
    match s.update with
    | .disconnected nb => some { s with backends := nb, update := .returned }
    | _ => none

end PortState

/-- Whether a connection has registered its stop handle. -/
def ConnPc.isRegistered : ConnPc → Bool
  | .registered .. => true
  | _ => false

/-- The update has returned and every connection has registered its handle, yet a handle
registered and never stopped belongs to a host the update did not keep. -/
def Escaped (s : PortState) : Prop :=
  s.update = .returned ∧ (∀ c ∈ s.conns, c.isRegistered = true) ∧
    ∃ e ∈ s.activeConnections, ∃ h ∈ e.2, h ∉ s.stopped ∧ e.1 ∉ s.eligible

instance : DecidablePred Escaped :=
  fun s => inferInstanceAs (Decidable (s.update = .returned ∧ (∀ c ∈ s.conns, c.isRegistered = true) ∧
    ∃ e ∈ s.activeConnections, ∃ h ∈ e.2, h ∉ s.stopped ∧ e.1 ∉ s.eligible))

/-- One connection selects the only member; the update removing it runs to completion; the
connection then spawns its proxy and registers the handle. -/
def escapeTrace : List Action :=
  [.select 0, .computeNew, .computeRemoved, .disconnect, .replace, .spawn 0, .register 0]

/-- **A connection escapes the disconnect of its removed host.** Selection, registration and the
disconnect pass are separate critical sections: a connection that selected `pg1` before the
update, and registers its stop handle after the update stopped `pg1`'s handles, is never
stopped, although `update_members` has returned with `pg1` removed. -/
theorem connection_escapes_disconnect :
    ∃ s, Reachable PortState.step (PortState.init ["pg1"] 1 []) s ∧ Escaped s :=
  exists_reachable_of_run escapeTrace (by decide)

end PgDoorman.PatroniProxy
