import PgDoorman.Transition.Run

/-!
# Slot accounting of a user pool, and the direct handoff

A user pool keeps its server connections (`ObjectInner`s) in `Slots`: the idle ones in
`vec`, and their number, idle or checked out, in `size`. A checkout (`Pool::timeout_get`) that
finds no idle connection may register as a waiter: it pushes the sender of a fresh oneshot
channel onto `slots.waiters`, and `return_object` then hands the next returned connection to
the oldest waiter whose receiver is still alive, instead of the idle queue.

A connection sent into a oneshot is in flight until the receiver takes it; if the receiver
is dropped with it inside, the connection is dropped with it, and nothing decrements `size`.

## The model

Tasks are indices into a list of program counters; a step is one synchronous section of one
task, up to its next `.await`. The checkout follows `timeout_get` without a coordinator: the
semaphore, the first `try_recycle_one`, `try_anticipate`'s handoff wait (its spin of extra
recycles left out), the loop of `try_recycle_one`, and `acquire_burst_gate` with its
registration, its `select!`, the `try_recv` after it and the `try_recycle_one` that follows;
then `create_connection`. A popped or handed-off connection is in flight while `recycle`
runs. Beside the checkouts, `Object::drop` returns or evicts a connection, and `replenish`
creates one into the idle queue.

## Main definitions

* `PoolState`, `Pc`, `PoolAction`, `step`: the state, where each task is, the sections
* `Conserved`: `size` counts exactly the idle, the checked-out and the in-flight connections

## Main results

* `burst_gate_loses_handoff`: a connection handed to a burst-gate waiter while it recycles an
  idle connection is dropped with the waiter's receiver, and `size` keeps counting it
-/

namespace PgDoorman.Pool

open Transition

/-- `QueueMode`: where `push_idle` puts a connection. -/
inductive QueueMode where
  | fifo
  | lifo
  deriving Repr, DecidableEq

/-- The configuration the modelled paths read: `max_size`, the burst gate's
`max_parallel_creates`, the queue mode, and the warm threshold `try_anticipate` computes from
`max_size` and `warm_pool_ratio`. -/
structure PoolConfig where
  maxSize : Nat
  maxParallelCreates : Nat
  queueMode : QueueMode
  warmThreshold : Nat
  deriving Repr, DecidableEq

/-- `push_idle`. -/
def pushIdle (mode : QueueMode) (vec : List Nat) (conn : Nat) : List Nat :=
  match mode with
  | .fifo => vec ++ [conn]
  | .lifo => conn :: vec

/-- A oneshot channel of the direct handoff: while its receiver lives it holds at most one
connection; once the receiver is dropped it is closed, and a send fails. -/
inductive Handoff where
  | open (value : Option Nat)
  | closed
  deriving Repr, DecidableEq

/-- Where a task is. Connections are named by numbers. -/
inductive Pc where
  /-- Outside `timeout_get`, holding nothing. -/
  | idle
  /-- Holding a checked-out `Object`. -/
  | holding (conn : Nat)
  /-- Past the semaphore, at the first `try_recycle_one`. -/
  | checkout
  /-- At `try_anticipate`. -/
  | anticipation
  /-- In `try_anticipate`'s `timeout(budget, rx)`. -/
  | anticipating (rx : Nat)
  /-- In the loop of `try_recycle_one` before the burst gate. -/
  | drain
  /-- At the head of `acquire_burst_gate`'s loop. -/
  | gate
  /-- After the loop's first `try_recycle_one` failed: about to register a waiter. -/
  | gateRegister
  /-- In the `select!` on the receiver, `create_done` and the backoff. -/
  | gateSelect (rx : Nat)
  /-- After the `select!`: `try_recv`, then `try_recycle_one`, the receiver still in scope. -/
  | gateRescue (rx : Option Nat)
  /-- Awaiting `recycle` on a connection it holds, with a receiver in scope or not, and where
  it goes if the recycle fails. -/
  | recycling (conn : Nat) (rx : Option Nat) (onFail : Pc)
  /-- In `create_connection`, holding a burst gate slot. -/
  | creating
  deriving Repr, DecidableEq

/-- The pool: `Slots`, the semaphore's available permits, the burst gate, the channels, the
tasks, and the `replenish` task's burst gate slot. -/
structure PoolState where
  size : Nat
  vec : List Nat
  /-- The senders in `slots.waiters`, oldest first, by channel. -/
  waiters : List Nat
  semaphore : Nat
  inflightCreates : Nat
  channels : List Handoff
  tasks : List Pc
  replenishing : Bool
  /-- The name of the next connection created. -/
  nextConn : Nat
  deriving Repr, DecidableEq

/-- A fresh pool with `n` tasks: no connection, a full semaphore. -/
def PoolState.init (cfg : PoolConfig) (n : Nat) : PoolState :=
  ⟨0, [], [], cfg.maxSize, 0, [], List.replicate n .idle, false, 0⟩

/-- The sections of the tasks. -/
inductive PoolAction where
  /-- `acquire_semaphore`. -/
  | acquireSemaphore (t : Nat)
  /-- The first `try_recycle_one`'s pop. -/
  | checkout (t : Nat)
  /-- `try_anticipate`: the warm threshold, the capacity deficit, the registration. -/
  | anticipate (t : Nat)
  /-- `try_anticipate`'s wait yields a connection. -/
  | handoffArrives (t : Nat)
  /-- `try_anticipate`'s budget runs out, dropping the empty receiver. -/
  | handoffExpires (t : Nat)
  /-- One `try_recycle_one` of the loop before the burst gate. -/
  | drain (t : Nat)
  /-- `acquire_burst_gate`: a gate slot, or the loop's first `try_recycle_one`. -/
  | gate (t : Nat)
  /-- `acquire_burst_gate` registers a waiter and enters the `select!`. -/
  | register (t : Nat)
  /-- The `select!` returns; `biased` makes the receiver win when it holds a connection. -/
  | wake (t : Nat)
  /-- `try_recv` and the pop of the `try_recycle_one` after the `select!`. -/
  | rescue (t : Nat)
  /-- `recycle` (or `recycle_handoff`) completes, successfully or not. -/
  | recycled (t : Nat) (ok : Bool)
  /-- `create_connection` completes. -/
  | create (t : Nat)
  /-- `Object::drop`, with the connection bad or not. -/
  | release (t : Nat) (mustEvict : Bool)
  /-- `replenish` takes a burst gate slot to create a connection. -/
  | replenishStart
  /-- `replenish`'s connection is created. -/
  | replenishDone
  deriving Repr, DecidableEq

namespace PoolState

variable (cfg : PoolConfig)

/-- Task `t` moves to `pc`. -/
def moveTo (p : PoolState) (t : Nat) (pc : Pc) : PoolState :=
  { p with tasks := p.tasks.set t pc }

/-- A new oneshot whose sender joins `slots.waiters`. -/
def registerWaiter (p : PoolState) : PoolState × Nat :=
  ({ p with channels := p.channels ++ [.open none], waiters := p.waiters ++ [p.channels.length] },
    p.channels.length)

/-- Dropping a receiver, if one is in scope: its channel closes, and a connection in it is
dropped. -/
def dropReceiver (p : PoolState) : Option Nat → PoolState
  | none => p
  | some rx => { p with channels := p.channels.set rx .closed }

/-- The loop of `return_object`: pop senders until one is taken, or push to the idle queue. -/
def handoff (mode : QueueMode) (conn : Nat) (vec : List Nat) (channels : List Handoff) :
    List Nat → List Nat × List Nat × List Handoff
  | [] => ([], pushIdle mode vec conn, channels)
  | w :: ws =>
    match channels.getD w .closed with
    | .open none => (ws, vec, channels.set w (.open (some conn)))
    | _ => handoff mode conn vec channels ws

/-- `return_object`: hand the connection off or queue it, then `add_permits(1)`. -/
def returnObject (p : PoolState) (conn : Nat) : PoolState :=
  let (waiters, vec, channels) := handoff cfg.queueMode conn p.vec p.channels p.waiters
  { p with waiters := waiters, vec := vec, channels := channels, semaphore := p.semaphore + 1 }

/-- `try_recycle_one`'s pop: the front idle connection, if any. -/
def popIdle (p : PoolState) : Option (Nat × PoolState) :=
  match p.vec with
  | [] => none
  | conn :: vec => some (conn, { p with vec := vec })

/-- One section of task `t`; `none` when it is not where the action belongs. -/
def step (p : PoolState) : PoolAction → Option PoolState
  | .acquireSemaphore t =>
    if p.tasks[t]? = some .idle ∧ 0 < p.semaphore then
      some ({ p with semaphore := p.semaphore - 1 }.moveTo t .checkout)
    else none
  | .checkout t =>
    if p.tasks[t]? = some .checkout then
      match p.popIdle with
      | some (conn, p') => some (p'.moveTo t (.recycling conn none .anticipation))
      | none => some (p.moveTo t .anticipation)
    else none
  | .anticipate t =>
    if p.tasks[t]? = some .anticipation then
      -- `should_anticipate`, then the capacity deficit of a pool without a coordinator
      if p.size < cfg.warmThreshold ∨ (p.vec = [] ∧ p.size < cfg.maxSize) then
        some (p.moveTo t .drain)
      else
        let (p', rx) := p.registerWaiter
        some (p'.moveTo t (.anticipating rx))
    else none
  | .handoffArrives t =>
    match p.tasks[t]? with
    | some (.anticipating rx) =>
      match p.channels[rx]? with
      | some (.open (some conn)) =>
        some ({ p with channels := p.channels.set rx .closed }.moveTo t
          (.recycling conn none .drain))
      | _ => none
    | _ => none
  | .handoffExpires t =>
    match p.tasks[t]? with
    | some (.anticipating rx) =>
      if p.channels[rx]? = some (.open none) then
        some ({ p with channels := p.channels.set rx .closed }.moveTo t .drain)
      else none
    | _ => none
  | .drain t =>
    if p.tasks[t]? = some .drain then
      match p.popIdle with
      | some (conn, p') => some (p'.moveTo t (.recycling conn none .drain))
      | none => some (p.moveTo t .gate)
    else none
  | .gate t =>
    if p.tasks[t]? = some .gate then
      if p.inflightCreates < cfg.maxParallelCreates then
        some ({ p with inflightCreates := p.inflightCreates + 1 }.moveTo t .creating)
      else
        match p.popIdle with
        | some (conn, p') => some (p'.moveTo t (.recycling conn none .gateRegister))
        | none =>
          -- `try_recycle_one` found nothing: register at once, with no `.await` between
          let (p', rx) := p.registerWaiter
          some (p'.moveTo t (.gateSelect rx))
    else none
  | .register t =>
    if p.tasks[t]? = some .gateRegister then
      let (p', rx) := p.registerWaiter
      some (p'.moveTo t (.gateSelect rx))
    else none
  | .wake t =>
    match p.tasks[t]? with
    | some (.gateSelect rx) =>
      match p.channels[rx]? with
      | some (.open (some conn)) =>
        some ({ p with channels := p.channels.set rx (.open none) }.moveTo t
          (.recycling conn none (.gateRescue none)))
      | _ => some (p.moveTo t (.gateRescue (some rx)))
    | _ => none
  | .rescue t =>
    match p.tasks[t]? with
    | some (.gateRescue rx) =>
      -- `try_recv`: a connection that arrived after the `select!` goes to the idle queue
      let p₁ := match rx with
        | some r =>
          match p.channels[r]? with
          | some (.open (some conn)) =>
            { p with
              vec := pushIdle cfg.queueMode p.vec conn
              channels := p.channels.set r (.open none) }
          | _ => p
        | none => p
      match p₁.popIdle with
      | some (conn, p₂) => some (p₂.moveTo t (.recycling conn rx .gate))
      | none => some ((p₁.dropReceiver rx).moveTo t .gate)
    | _ => none
  | .recycled t ok =>
    match p.tasks[t]? with
    | some (.recycling conn rx onFail) =>
      -- the receiver in scope is dropped whichever way the recycle ends
      if ok then some ((p.dropReceiver rx).moveTo t (.holding conn))
      else some ({ p.dropReceiver rx with size := p.size - 1 }.moveTo t onFail)
    | _ => none
  | .create t =>
    if p.tasks[t]? = some .creating then
      some ({ p with
        size := p.size + 1
        inflightCreates := p.inflightCreates - 1
        nextConn := p.nextConn + 1 }.moveTo t (.holding p.nextConn))
    else none
  | .release t mustEvict =>
    match p.tasks[t]? with
    | some (.holding conn) =>
      if mustEvict then
        some ({ p with size := p.size - 1, semaphore := p.semaphore + 1 }.moveTo t .idle)
      else some ((p.returnObject cfg conn).moveTo t .idle)
    | _ => none
  | .replenishStart =>
    if !p.replenishing ∧ p.size < cfg.maxSize ∧ p.inflightCreates < cfg.maxParallelCreates then
      some { p with replenishing := true, inflightCreates := p.inflightCreates + 1 }
    else none
  | .replenishDone =>
    if p.replenishing then
      if p.size < cfg.maxSize then
        some { p with
          size := p.size + 1
          vec := pushIdle cfg.queueMode p.vec p.nextConn
          nextConn := p.nextConn + 1
          replenishing := false
          inflightCreates := p.inflightCreates - 1 }
      else some { p with replenishing := false, inflightCreates := p.inflightCreates - 1 }
    else none

/-- Connections held by checked-out `Object`s. -/
def checkedOut (p : PoolState) : Nat :=
  p.tasks.countP fun pc => match pc with | .holding _ => true | _ => false

/-- Connections in flight: in a oneshot not yet received, or held by a task during `recycle`. -/
def inFlight (p : PoolState) : Nat :=
  p.channels.countP (fun ch => match ch with | .open (some _) => true | _ => false) +
    p.tasks.countP fun pc => match pc with | .recycling .. => true | _ => false

end PoolState

/-- `slots.size` counts exactly the idle, the checked-out and the in-flight connections. -/
def Conserved (p : PoolState) : Prop :=
  p.size = p.vec.length + p.checkedOut + p.inFlight

instance : DecidablePred Conserved :=
  fun p => inferInstanceAs (Decidable (p.size = p.vec.length + p.checkedOut + p.inFlight))

/-! ## A handoff into a receiver kept across an `.await` -/

/-- One parallel create at a time, FIFO, no anticipation. -/
def gateConfig : PoolConfig := ⟨3, 1, .fifo, 3⟩

/-- Task 0 takes the burst gate and creates; task 1 finds the gate full and registers as a
waiter; task 0's create wakes it after `replenish` has queued an idle connection; task 1 pops
it and awaits its `recycle` with its receiver still alive, and meanwhile task 0 returns its
connection, which `return_object` sends to task 1's receiver; task 1's recycle succeeds and
the receiver is dropped with that connection inside. -/
def lostHandoffTrace : List PoolAction :=
  [.acquireSemaphore 0, .checkout 0, .anticipate 0, .drain 0, .gate 0,
   .acquireSemaphore 1, .checkout 1, .anticipate 1, .drain 1, .gate 1,
   .create 0, .replenishStart, .replenishDone,
   .wake 1, .rescue 1,
   .release 0 false,
   .recycled 1 true]

/-- **A connection handed to a burst-gate waiter is lost.** In `acquire_burst_gate` the
receiver stays alive across the `try_recycle_one` that follows the `select!` and its
`try_recv`, while its sender is still in `slots.waiters`; a connection returned during that
`.await` is sent to it and dropped with it, and `slots.size` keeps counting it. -/
theorem burst_gate_loses_handoff :
    ∃ p, Reachable (PoolState.step gateConfig) (PoolState.init gateConfig 2) p ∧ ¬ Conserved p :=
  exists_reachable_of_run lostHandoffTrace (by decide)

end PgDoorman.Pool
