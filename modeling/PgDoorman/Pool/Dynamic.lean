import PgDoorman.Transition.Run

/-!
# The registry of dynamic pools

`POOLS` maps each `(database, user)` identifier to its `ConnectionPool`, and `DYNAMIC_POOLS`
holds the identifiers whose pools an `auth_query` login built. Both are `ArcSwap` cells: a
writer loads a snapshot, clones it, changes the clone and stores it, with no compare-and-swap.
`create_dynamic_pool` is a plain function, run by logins on several worker threads at once, so
the load and the store of two logins interleave.

## The model

The two cells, and one task per login with the pool identifier it asks for and the pool
instance it builds. A step is one load or one store: the fast path's `get_pool`, the slow
path's `POOLS.load()` and its re-check and `POOLS.store`, then `register_dynamic_pool`'s load
and store. Every login here carries the same `startup_parameters` overlay, so the overlay-drift
branches are not taken and are left out.

## Main definitions

* `Registry`, `LoginPc`, `RegistryAction`, `step`
* `InsertionsKept`: every pool a login stored and returned as new is still in `POOLS`

## Main results

* `create_dynamic_pool_loses_insert`: two logins for different users, interleaved between load
  and store, leave one of the pools they returned missing from `POOLS`
-/

namespace PgDoorman.Pool

open Transition

/-- Where one login is in `create_dynamic_pool`. Identifiers and pool instances are numbers. -/
inductive LoginPc where
  /-- Before the fast path's `get_pool`. -/
  | start (id inst : Nat)
  /-- The pool is built; before the slow path's `POOLS.load()`. -/
  | building (id inst : Nat)
  /-- Holding the snapshot of `POOLS` it loaded. -/
  | inserting (id inst : Nat) (snapshot : List (Nat × Nat))
  /-- `POOLS` stored; before `register_dynamic_pool`'s load. -/
  | registering (id inst : Nat)
  /-- Holding the snapshot of `DYNAMIC_POOLS` it loaded. -/
  | registerStoring (id inst : Nat) (snapshot : List Nat)
  /-- Returned a pool built by this login, as newly created. -/
  | created (id inst : Nat)
  /-- Returned the pool another login had registered. -/
  | existing (id inst : Nat)
  deriving Repr, DecidableEq

/-- `POOLS` as identifier–instance pairs, `DYNAMIC_POOLS`, and the logins. -/
structure Registry where
  pools : List (Nat × Nat)
  dynamicPools : List Nat
  logins : List LoginPc
  deriving Repr, DecidableEq

/-- Both cells empty, and a login per request `(identifier, instance)`. -/
def Registry.init (requests : List (Nat × Nat)) : Registry :=
  ⟨[], [], requests.map fun r => .start r.1 r.2⟩

/-- `HashMap::insert` on the clone: the identifier's entry is replaced. -/
def insertPool (pools : List (Nat × Nat)) (id inst : Nat) : List (Nat × Nat) :=
  pools.filter (·.1 ≠ id) ++ [(id, inst)]

/-- The loads and stores of one login. -/
inductive RegistryAction where
  | fastPath (login : Nat)
  | load (login : Nat)
  | store (login : Nat)
  | registerLoad (login : Nat)
  | registerStore (login : Nat)
  deriving Repr, DecidableEq

namespace Registry

/-- Login `l` moves to `pc`. -/
def moveTo (r : Registry) (l : Nat) (pc : LoginPc) : Registry :=
  { r with logins := r.logins.set l pc }

/-- One load or store of login `l`; `none` when it is not there. -/
def step (r : Registry) : RegistryAction → Option Registry
  | .fastPath l =>
    match r.logins[l]? with
    | some (.start id inst) =>
      -- `get_pool`: a pool already there is returned
      match r.pools.lookup id with
      | some found => some (r.moveTo l (.existing id found))
      | none => some (r.moveTo l (.building id inst))
    | _ => none
  | .load l =>
    match r.logins[l]? with
    | some (.building id inst) => some (r.moveTo l (.inserting id inst r.pools))
    | _ => none
  | .store l =>
    match r.logins[l]? with
    | some (.inserting id inst snapshot) =>
      -- the re-check runs on the clone of the snapshot, not on the current `POOLS`
      match snapshot.lookup id with
      | some found => some (r.moveTo l (.existing id found))
      | none => some ({ r with pools := insertPool snapshot id inst }.moveTo l (.registering id inst))
    | _ => none
  | .registerLoad l =>
    match r.logins[l]? with
    | some (.registering id inst) =>
      if id ∈ r.dynamicPools then some (r.moveTo l (.created id inst))
      else some (r.moveTo l (.registerStoring id inst r.dynamicPools))
    | _ => none
  | .registerStore l =>
    match r.logins[l]? with
    | some (.registerStoring id inst snapshot) =>
      some ({ r with dynamicPools := snapshot ++ [id] }.moveTo l (.created id inst))
    | _ => none

end Registry

/-- No insertion is lost: every pool a login stored and returned as newly created is what
`POOLS` maps its identifier to. No step of the model removes a pool, so nothing may replace it. -/
def InsertionsKept (r : Registry) : Prop :=
  ∀ id inst, LoginPc.created id inst ∈ r.logins → r.pools.lookup id = some inst

/-- The check `InsertionsKept` makes of one login. -/
def LoginPc.kept (pools : List (Nat × Nat)) : LoginPc → Bool
  | .created id inst => pools.lookup id == some inst
  | _ => true

theorem insertionsKept_iff (r : Registry) :
    InsertionsKept r ↔ r.logins.all (LoginPc.kept r.pools) = true := by
  rw [List.all_eq_true]
  constructor
  · intro h pc hpc
    cases pc with
    | created id inst => simpa [LoginPc.kept] using h id inst hpc
    | _ => rfl
  · intro h id inst hmem
    simpa [LoginPc.kept] using h _ hmem

instance : DecidablePred InsertionsKept :=
  fun r => decidable_of_iff _ (insertionsKept_iff r).symm

/-- Logins of users `0` and `1`, building pools `10` and `11`, both taking the slow path: each
loads `POOLS` before the other stores. -/
def lostInsertTrace : List RegistryAction :=
  [.fastPath 0, .fastPath 1, .load 0, .load 1, .store 0, .store 1, .registerLoad 0,
   .registerStore 0]

/-- **The "atomic insert" of `create_dynamic_pool` loses an insertion.** Its `POOLS.load()`,
clone and `POOLS.store` are separate steps; the second login's store writes back a snapshot
taken before the first login's store, and the first login's pool, which it returned as newly
created, is gone from `POOLS`. -/
theorem create_dynamic_pool_loses_insert :
    ∃ r, Reachable Registry.step (Registry.init [(0, 10), (1, 11)]) r ∧ ¬ InsertionsKept r :=
  exists_reachable_of_run lostInsertTrace (by decide)

end PgDoorman.Pool
