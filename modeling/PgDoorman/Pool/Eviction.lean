import PgDoorman.Transition.Run

/-!
# Coordinator eviction and the guaranteed minimum

When a database is at its `max_db_connections`, `PoolCoordinator::acquire` asks
`PoolEvictionSource::try_evict_one` to close an idle connection of another user's pool. A pool
donates only connections above its guaranteed minimum, `max(user.min_pool_size,
min_guaranteed_pool_size)`: the evictor snapshots `spare_above_min()` of every candidate,
re-checks it just before evicting, and then calls `evict_one_idle`, which takes the slots lock
again.

## The model

One peer pool, with its `slots.size` and the ages of its idle connections, and evictors, one per
concurrent `acquire` caller. Each read of `spare_above_min()` and the locked section of
`evict_one_idle` is one step.

## Main definitions

* `computeSpare`, `evictOneIdle`: the source's spare count and eviction
* `EvictionState`, `EvictorPc`, `EvictorAction`, `step`

## Main results

* `evictions_undercut_minimum`: two evictors that both re-checked a pool one connection above
  its minimum evict one connection each, and the second leaves it below the minimum
-/

namespace PgDoorman.Pool

open Transition

/-- `compute_spare`: the connections above the effective guaranteed minimum. -/
def computeSpare (currentPoolSize : Nat) (userMinPoolSize : Option Nat) (poolMinGuaranteed : Nat) :
    Nat :=
  currentPoolSize - max (userMinPoolSize.getD 0) poolMinGuaranteed

/-- The peer pool: `slots.size`, the ages of the idle connections in `slots.vec` in order, and
its two minimums. -/
structure PeerPool where
  size : Nat
  idleAges : List Nat
  userMinPoolSize : Option Nat
  minGuaranteedPoolSize : Nat
  deriving Repr, DecidableEq

namespace PeerPool

/-- `max(user.min_pool_size, min_guaranteed_pool_size)`. -/
def effectiveMin (p : PeerPool) : Nat :=
  max (p.userMinPoolSize.getD 0) p.minGuaranteedPoolSize

/-- `ConnectionPool::spare_above_min`. -/
def spareAboveMin (p : PeerPool) : Nat :=
  computeSpare p.size p.userMinPoolSize p.minGuaranteedPoolSize

end PeerPool

/-- The index of the oldest idle connection at least `minLifetimeMs` old, the first of equal
ages: the candidate `retain_oldest_first` keeps after its stable sort by descending age. -/
def oldestEligible (minLifetimeMs : Nat) (ages : List Nat) : Option Nat :=
  (ages.zipIdx.foldl (fun best e =>
    if minLifetimeMs ≤ e.1 then
      match best with
      | some (_, age) => if age < e.1 then some (e.2, e.1) else best
      | none => some (e.2, e.1)
    else best) none).map Prod.fst

/-- `Pool::evict_one_idle`, that is `retain_oldest_first` closing at most one connection old
enough, under one slots lock; `none` when none is. -/
def evictOneIdle (minLifetimeMs : Nat) (p : PeerPool) : Option PeerPool :=
  (oldestEligible minLifetimeMs p.idleAges).map fun i =>
    { p with idleAges := p.idleAges.eraseIdx i, size := p.size - 1 }

/-- Where an evictor is in `try_evict_one`. -/
inductive EvictorPc where
  /-- Before the snapshot of the candidates' spare counts. -/
  | start
  /-- The pool is a candidate: its snapshot spare count was positive. -/
  | candidate
  /-- The re-check found spare connections, with the pool at this size. -/
  | rechecked (seenSize : Nat)
  /-- `evict_one_idle` closed a connection, after a re-check at this size. -/
  | evicted (seenSize : Nat)
  /-- No spare connection, or none old enough: `try_evict_one` returned `false`. -/
  | gaveUp
  deriving Repr, DecidableEq

/-- The peer pool and the evictors. -/
structure EvictionState where
  pool : PeerPool
  evictors : List EvictorPc
  deriving Repr, DecidableEq

/-- The pool, and `n` evictors about to run. -/
def EvictionState.init (pool : PeerPool) (n : Nat) : EvictionState :=
  ⟨pool, List.replicate n .start⟩

/-- The steps of evictor `e`. -/
inductive EvictorAction where
  | snapshot (e : Nat)
  | recheck (e : Nat)
  | evict (e : Nat)
  deriving Repr, DecidableEq

namespace EvictionState

/-- Evictor `e` moves to `pc`. -/
def moveTo (s : EvictionState) (e : Nat) (pc : EvictorPc) : EvictionState :=
  { s with evictors := s.evictors.set e pc }

/-- One step of evictor `e`, with the coordinator's `min_connection_lifetime_ms`. -/
def step (minLifetimeMs : Nat) (s : EvictionState) : EvictorAction → Option EvictionState
  | .snapshot e =>
    if s.evictors[e]? = some .start then
      if 0 < s.pool.spareAboveMin then some (s.moveTo e .candidate) else some (s.moveTo e .gaveUp)
    else none
  | .recheck e =>
    if s.evictors[e]? = some .candidate then
      -- "Re-check spare to narrow TOCTOU window"
      if s.pool.spareAboveMin = 0 then some (s.moveTo e .gaveUp)
      else some (s.moveTo e (.rechecked s.pool.size))
    else none
  | .evict e =>
    match s.evictors[e]? with
    | some (.rechecked seen) =>
      match evictOneIdle minLifetimeMs s.pool with
      | some pool => some ({ s with pool := pool }.moveTo e (.evicted seen))
      | none => some (s.moveTo e .gaveUp)
    | _ => none

end EvictionState

/-- A pool of three connections, two of them idle and old, guaranteed two. -/
def peerAtMinPlusOne : PeerPool := ⟨3, [6000, 7000], none, 2⟩

/-- Both evictors snapshot and re-check before either evicts; the first has evicted. -/
def doubleEvictionTrace : List EvictorAction :=
  [.snapshot 0, .snapshot 1, .recheck 0, .recheck 1, .evict 0]

/-- **Two evictors take a pool below its guaranteed minimum.** Both re-checks see the pool at
three connections, one above its minimum of two, before either evicts; each eviction then takes
the slots lock on its own and closes a connection, and the second leaves one. -/
theorem evictions_undercut_minimum :
    ∃ s s', Reachable (EvictionState.step 5000) (EvictionState.init peerAtMinPlusOne 2) s ∧
      s.evictors[1]? = some (.rechecked 3) ∧ s.pool.effectiveMin ≤ 3 ∧
      EvictionState.step 5000 s (.evict 1) = some s' ∧
      s'.evictors[1]? = some (.evicted 3) ∧ s'.pool.size < s'.pool.effectiveMin := by
  have hrun : run (EvictionState.step 5000) (EvictionState.init peerAtMinPlusOne 2)
      doubleEvictionTrace = some ⟨⟨2, [6000], none, 2⟩, [.evicted 3, .rechecked 3]⟩ := by
    decide
  exact ⟨_, _, Reachable.init.run hrun, rfl, by decide, rfl, rfl, by decide⟩

end PgDoorman.Pool
