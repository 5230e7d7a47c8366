import PgDoorman.Transition.Run

/-!
# Permit accounting of the pool coordinator

A `PoolCoordinator` caps the server connections of one database across all its user pools.
Every connection holds a `CoordinatorPermit`, taken from one of two semaphores: the main one,
of `max_db_connections` permits, and the reserve one, of `reserve_pool_size` permits, which a
background task, the reserve arbiter, hands out one by one through a oneshot channel to the
highest-scoring request. Beside the semaphores the coordinator keeps two counters,
`total_connections` and `reserve_in_use`, which are updated by separate statements, in other
tasks than the permits they count.

## The model

The state is the coordinator's four numbers and, as ghost state, what the running tasks hold:
live permits of each kind, requests in the arbiter's queue whose requester still waits or has
timed out, and grants sitting in a oneshot whose receiver is still open. The tasks are
interchangeable for this accounting, so a count of each suffices.

A step is one synchronous section of the source, between two `.await`s or under one lock:
`PoolCoordinator::try_acquire`; `try_grant_reserve` sending its request, or receiving the
grant and converting it (the increments and `into_permit` follow the receive with no
`.await`); the timeout that drops the receiver; one grant of `reserve_arbiter`, with the drop
of a grant whose receiver is gone; the arbiter pruning or cutting a request; the `Drop` of a
permit; and `Pool::upgrade_reserve_to_main`'s call of `try_upgrade_reserve_to_main` with the
flip of `is_reserve` that follows it under the slots lock. Every phase of `acquire` is made of
these: Phases A to C call `try_acquire` (an eviction in Phase B or C drops a peer's permit),
the reserve-first path and Phase D call `try_grant_reserve`.

## Main definitions

* `Coordinator`, `CoordinatorAction`, `Coordinator.step`: the state, the atomic sections, their effect
* `Accounted`: the conservation laws

## Main results

* `accounted_step`: every step keeps the conservation laws
* `coordinator_accounting`: they hold in every reachable state, so the live permits of each
  kind never exceed their semaphore's size
-/

namespace PgDoorman.Pool

open Transition

/-- The limits of `CoordinatorConfig` the accounting is about. -/
structure CoordinatorConfig where
  maxDbConnections : Nat
  reservePoolSize : Nat
  deriving Repr, DecidableEq

/-- The coordinator's numbers, and what the tasks using it hold. -/
structure Coordinator where
  /-- Available permits of `db_semaphore`. -/
  dbSemaphore : Nat
  /-- Available permits of `reserve_semaphore`. -/
  reserveSemaphore : Nat
  totalConnections : Nat
  reserveInUse : Nat
  /-- Live `CoordinatorPermit`s with `is_reserve = false`. -/
  mainPermits : Nat
  /-- Live `CoordinatorPermit`s with `is_reserve = true`. -/
  reservePermits : Nat
  /-- `ReserveRequest`s in the arbiter's channel or heap whose requester still waits. -/
  queued : Nat
  /-- `ReserveRequest`s in the arbiter whose requester timed out, closing the oneshot. -/
  abandoned : Nat
  /-- `ReserveGrant`s sent into a oneshot the requester has not received yet. -/
  granted : Nat
  deriving Repr, DecidableEq

/-- `PoolCoordinator::new`: full semaphores, zero counters, no task holding anything. -/
def Coordinator.init (cfg : CoordinatorConfig) : Coordinator :=
  ⟨cfg.maxDbConnections, cfg.reservePoolSize, 0, 0, 0, 0, 0, 0, 0⟩

/-- The atomic sections that touch the accounting. -/
inductive CoordinatorAction where
  /-- `try_acquire`: Phase A, and the retries of Phases B and C. -/
  | tryAcquire
  /-- `try_grant_reserve` sends its `ReserveRequest` to the arbiter. -/
  | sendReserveRequest
  /-- The arbiter grants the top request of its heap, whose requester still waits (`live`) or
  has timed out. -/
  | grant (live : Bool)
  /-- `try_grant_reserve` receives the grant: the counters go up and the grant becomes a permit. -/
  | receiveGrant
  /-- The requester's 100 ms timeout drops the receiver, with a grant in the oneshot or not. -/
  | timeout (withGrant : Bool)
  /-- The arbiter drops a request: pruned once closed, or cut off by the heap cap. -/
  | discard (live : Bool)
  /-- `CoordinatorPermit::drop`. -/
  | dropPermit (isReserve : Bool)
  /-- `try_upgrade_reserve_to_main` on an idle reserve connection, and the flip of `is_reserve`. -/
  | upgradeReserveToMain
  deriving Repr, DecidableEq

/-- One atomic section; `none` when its task cannot be at it (nothing to receive, drop, or
discard). -/
def Coordinator.step (c : Coordinator) : CoordinatorAction → Option Coordinator
  | .tryAcquire =>
    if 0 < c.dbSemaphore then
      some { c with
        dbSemaphore := c.dbSemaphore - 1
        totalConnections := c.totalConnections + 1
        mainPermits := c.mainPermits + 1 }
    else some c
  | .sendReserveRequest => some { c with queued := c.queued + 1 }
  | .grant live =>
    -- `while pending.peek().is_some()`: a grant needs a reserve permit, else the loop breaks
    if 0 < c.reserveSemaphore then
      if live then
        if 0 < c.queued then
          some { c with
            reserveSemaphore := c.reserveSemaphore - 1
            queued := c.queued - 1
            granted := c.granted + 1 }
        else none
      else
        -- `send` fails and hands the grant back; dropping it returns the permit it took
        if 0 < c.abandoned then some { c with abandoned := c.abandoned - 1 } else none
    else none
  | .receiveGrant =>
    if 0 < c.granted then
      some { c with
        granted := c.granted - 1
        totalConnections := c.totalConnections + 1
        reserveInUse := c.reserveInUse + 1
        reservePermits := c.reservePermits + 1 }
    else none
  | .timeout withGrant =>
    if withGrant then
      -- the grant in the oneshot is dropped with the receiver: `ReserveGrant::drop`
      if 0 < c.granted then
        some { c with granted := c.granted - 1, reserveSemaphore := c.reserveSemaphore + 1 }
      else none
    else if 0 < c.queued then some { c with queued := c.queued - 1, abandoned := c.abandoned + 1 }
    else none
  | .discard live =>
    if live then
      if 0 < c.queued then some { c with queued := c.queued - 1 } else none
    else if 0 < c.abandoned then some { c with abandoned := c.abandoned - 1 } else none
  | .dropPermit isReserve =>
    if isReserve then
      if 0 < c.reservePermits then
        some { c with
          reservePermits := c.reservePermits - 1
          reserveSemaphore := c.reserveSemaphore + 1
          reserveInUse := c.reserveInUse - 1
          totalConnections := c.totalConnections - 1 }
      else none
    else if 0 < c.mainPermits then
      some { c with
        mainPermits := c.mainPermits - 1
        dbSemaphore := c.dbSemaphore + 1
        totalConnections := c.totalConnections - 1 }
    else none
  | .upgradeReserveToMain =>
    if 0 < c.reservePermits then
      if 0 < c.dbSemaphore then
        some { c with
          dbSemaphore := c.dbSemaphore - 1
          reserveSemaphore := c.reserveSemaphore + 1
          reserveInUse := c.reserveInUse - 1
          reservePermits := c.reservePermits - 1
          mainPermits := c.mainPermits + 1 }
      else some c
    else none

/-! ## Conservation -/

/-- The conservation laws: every main permit is out of the main semaphore, every reserve
permit and every grant not yet received is out of the reserve semaphore, and the two counters
count the live permits. -/
structure Accounted (cfg : CoordinatorConfig) (c : Coordinator) : Prop where
  main : c.dbSemaphore + c.mainPermits = cfg.maxDbConnections
  reserve : c.reserveSemaphore + c.reservePermits + c.granted = cfg.reservePoolSize
  total : c.totalConnections = c.mainPermits + c.reservePermits
  inUse : c.reserveInUse = c.reservePermits

section Accounting

variable {cfg : CoordinatorConfig}

theorem accounted_init : Accounted cfg (Coordinator.init cfg) :=
  ⟨by simp [Coordinator.init], by simp [Coordinator.init], rfl, rfl⟩

/-- **Every atomic section keeps the conservation laws.** Each moves one permit between a
semaphore and a task, or between the two kinds, and updates the counters of exactly that. -/
theorem accounted_step {c c' : Coordinator} {a : CoordinatorAction} (hc : Accounted cfg c)
    (h : Coordinator.step c a = some c') : Accounted cfg c' := by
  obtain ⟨hmain, hreserve, htotal, hinUse⟩ := hc
  cases a with
  | tryAcquire =>
    simp only [Coordinator.step] at h
    split_ifs at h
    · -- a permit leaves the main semaphore for a new main permit
      cases h
      exact ⟨by dsimp only; omega, hreserve, by dsimp only; omega, hinUse⟩
    · -- `Err(_) => None`
      cases h
      exact ⟨hmain, hreserve, htotal, hinUse⟩
  | sendReserveRequest =>
    cases h
    exact ⟨hmain, hreserve, htotal, hinUse⟩
  | grant live =>
    simp only [Coordinator.step] at h
    split_ifs at h <;> cases h <;> exact ⟨hmain, by dsimp only; omega, htotal, hinUse⟩
  | receiveGrant =>
    simp only [Coordinator.step] at h
    split_ifs at h
    cases h
    exact ⟨hmain, by dsimp only; omega, by dsimp only; omega, by dsimp only; omega⟩
  | timeout withGrant =>
    simp only [Coordinator.step] at h
    split_ifs at h <;> cases h <;> exact ⟨hmain, by dsimp only; omega, htotal, hinUse⟩
  | discard live =>
    simp only [Coordinator.step] at h
    split_ifs at h <;> cases h <;> exact ⟨hmain, hreserve, htotal, hinUse⟩
  | dropPermit isReserve =>
    simp only [Coordinator.step] at h
    split_ifs at h <;> cases h <;>
      exact ⟨by dsimp only; omega, by dsimp only; omega, by dsimp only; omega,
        by dsimp only; omega⟩
  | upgradeReserveToMain =>
    simp only [Coordinator.step] at h
    split_ifs at h
    · -- a main permit replaces the reserve one, whose permit goes back to its semaphore
      cases h
      exact ⟨by dsimp only; omega, by dsimp only; omega, by dsimp only; omega,
        by dsimp only; omega⟩
    · -- the main semaphore is empty: the upgrade returns `false`
      cases h
      exact ⟨hmain, hreserve, htotal, hinUse⟩

theorem accounted_invariant : Invariant Coordinator.step (Coordinator.init cfg) (Accounted cfg) :=
  ⟨accounted_init, fun _ _ _ hc h => accounted_step hc h⟩

/-- **PoolCoordinator accounting is conserved** over every interleaving: main permits are out
of `db_semaphore`, reserve permits and grants in flight are out of `reserve_semaphore`,
`total_connections` and `reserve_in_use` count the live permits; so neither kind of permit ever
exceeds its semaphore's size. -/
theorem coordinator_accounting (cfg : CoordinatorConfig) {c : Coordinator}
    (hc : Reachable Coordinator.step (Coordinator.init cfg) c) :
    c.dbSemaphore + c.mainPermits = cfg.maxDbConnections ∧
      c.reserveSemaphore + c.reservePermits + c.granted = cfg.reservePoolSize ∧
      c.totalConnections = c.mainPermits + c.reservePermits ∧
      c.reserveInUse = c.reservePermits ∧
      c.mainPermits ≤ cfg.maxDbConnections ∧ c.reservePermits ≤ cfg.reservePoolSize := by
  obtain ⟨hmain, hreserve, htotal, hinUse⟩ := accounted_invariant.holds hc
  exact ⟨hmain, hreserve, htotal, hinUse, by omega, by omega⟩

/-- Two main permits taken, a reserve request granted and received: a reachable state with
permits of both kinds. -/
theorem coordinator_accounting_both_kinds :
    let cfg : CoordinatorConfig := ⟨2, 1⟩
    let c : Coordinator := ⟨0, 0, 3, 1, 2, 1, 0, 0, 0⟩
    Reachable Coordinator.step (Coordinator.init cfg) c ∧
      (c.dbSemaphore + c.mainPermits = cfg.maxDbConnections ∧
        c.reserveSemaphore + c.reservePermits + c.granted = cfg.reservePoolSize ∧
        c.totalConnections = c.mainPermits + c.reservePermits ∧
        c.reserveInUse = c.reservePermits ∧
        c.mainPermits ≤ cfg.maxDbConnections ∧ c.reservePermits ≤ cfg.reservePoolSize) := by
  have hrun : run Coordinator.step (Coordinator.init ⟨2, 1⟩)
      [.tryAcquire, .tryAcquire, .sendReserveRequest, .grant true, .receiveGrant] =
        some ⟨0, 0, 3, 1, 2, 1, 0, 0, 0⟩ := by
    decide
  have hreach : Reachable Coordinator.step (Coordinator.init ⟨2, 1⟩) ⟨0, 0, 3, 1, 2, 1, 0, 0, 0⟩ :=
    Reachable.init.run hrun
  exact ⟨hreach, coordinator_accounting ⟨2, 1⟩ hreach⟩

end Accounting

end PgDoorman.Pool
