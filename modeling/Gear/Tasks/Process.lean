import Mathlib

/-!
# The task pool and `process_tasks` — `pallet-gear/src/lib.rs`

The pallet schedules tasks (waking a message, removing one from the mailbox or
the waitlist, sending a delayed dispatch, ...) in `TaskPool`, a double map from
block number and task. `Pallet::process_tasks` runs at every block: it starts
at `FirstIncompleteTasksBlock` when that is set (taking it out of storage) and
at the current block otherwise, and walks the blocks up to the current one.
For each block, `drain_prefix_keys` yields its tasks one at a time, removing
each from storage as it yields it. Three checks of `GasAllowance` can stop the
walk: before a block's tasks (no gas for two writes), before a task (no gas
for its maximum and one write: the drained task is put back, `last_task`),
and after a task (no gas for one read and one write). A walk that stops
records its block as `FirstIncompleteTasksBlock`.

The weights are `RuntimeDbWeight`, and the allowance is a `u64` far below its
maximum, so its saturating addition is addition. A task is abstract: what
`get_maximum_task_gas` bounds it by and what `process_with` reports it spent
are the parameters `maxTaskGas` and `taskGas`. Running a task changes no task
of the pool here; the tasks are ordered by any linear order, which stands for
the order of their storage keys. Between two calls the pallet adds tasks at
blocks after the current one (`Event.add`); deleting a scheduled task, which
cancels it, is not modelled.
-/

namespace Gear.Tasks

/-- `RuntimeDbWeight`: the ref time of one read and of one write. -/
structure DbWeight where
  read : ℕ
  write : ℕ
deriving DecidableEq, Repr

namespace DbWeight

/-- `reads(n)`. -/
def reads (w : DbWeight) (n : ℕ) : ℕ := w.read * n

/-- `writes(n)`. -/
def writes (w : DbWeight) (n : ℕ) : ℕ := w.write * n

/-- `reads_writes(r, w)`. -/
def readsWrites (w : DbWeight) (r n : ℕ) : ℕ := w.reads r + w.writes n

@[simp] theorem reads_one (w : DbWeight) : w.reads 1 = w.read := Nat.mul_one _

@[simp] theorem writes_one (w : DbWeight) : w.writes 1 = w.write := Nat.mul_one _

@[simp] theorem writes_two (w : DbWeight) : w.writes 2 = w.write * 2 := rfl

@[simp] theorem readsWrites_one_one (w : DbWeight) : w.readsWrites 1 1 = w.read + w.write := by
  simp [readsWrites]

end DbWeight

variable {T : Type} [LinearOrder T]

/-- `TaskPoolError`. -/
inductive TaskPoolError
  | duplicateTask
  | taskNotFound
deriving DecidableEq, Repr

namespace TaskPool

/-- `TaskPool::add`: a task already scheduled at the block is an error. -/
def add (pool : Finset (ℕ × T)) (bn : ℕ) (task : T) : Except TaskPoolError (Finset (ℕ × T)) :=
  if (bn, task) ∈ pool then .error .duplicateTask else .ok (insert (bn, task) pool)

/-- The tasks `drain_prefix_keys(bn)` yields, in the order of their keys. -/
def drainPrefixKeys (pool : Finset (ℕ × T)) (bn : ℕ) : List T :=
  ((pool.filter (·.1 = bn)).image Prod.snd).sort (· ≤ ·)

end TaskPool

/-- The storage `process_tasks` reads and writes. -/
structure Scheduler (T : Type) where
  pool : Finset (ℕ × T)
  firstIncompleteTasksBlock : Option ℕ
  gasAllowance : ℕ

/-- What the loops of `process_tasks` change: the pool, the allowance, and the
tasks run so far with the block they were scheduled at, in order. -/
structure Progress (T : Type) where
  pool : Finset (ℕ × T)
  gasAllowance : ℕ
  processed : List (ℕ × T)

/-- How the loop over one block's tasks ends. -/
inductive BlockEnd (T : Type)
  /-- every task of the block was run -/
  | done
  /-- the task it could not afford, to be put back (`last_task`) -/
  | lastTask (task : T)
  /-- too little gas was left after a task -/
  | stopped
deriving DecidableEq, Repr

section Loops

variable (w : DbWeight) (maxTaskGas taskGas : T → ℕ)

/-- The loop of `process_tasks` over the tasks `drain_prefix_keys(bn)` yields;
each yielded task has left the pool. -/
def processBlock (bn : ℕ) : List T → Progress T → Progress T × BlockEnd T
  | [], p => (p, .done)
  | task :: tasks, p =>
    let p := { p with pool := p.pool.erase (bn, task), gasAllowance := p.gasAllowance - w.writes 1 }
    if p.gasAllowance - maxTaskGas task ≤ w.writes 1 then
      -- the write is refunded and the read charged
      ({ p with gasAllowance := p.gasAllowance + w.writes 1 - w.reads 1 }, .lastTask task)
    else
      let p := { p with gasAllowance := p.gasAllowance - taskGas task,
                        processed := p.processed ++ [(bn, task)] }
      if p.gasAllowance ≤ w.readsWrites 1 1 then (p, .stopped)
      else processBlock bn tasks p

/-- The loop of `process_tasks` over the blocks `bns`, with the block it
stopped at; `none` is the `unreachable!` of a task that cannot be put back. -/
def processBlocks : List ℕ → Progress T → Option (Progress T × Option ℕ)
  | [], p => some (p, none)
  | bn :: bns, p =>
    if p.gasAllowance ≤ w.writes 2 then some (p, some bn)
    else
      match processBlock w maxTaskGas taskGas bn (TaskPool.drainPrefixKeys p.pool bn) p with
      | (p, .lastTask task) =>
        match TaskPool.add p.pool bn task with
        | .ok pool => some ({ p with pool, gasAllowance := p.gasAllowance + w.writes 1 }, some bn)
        | .error _ => none
      | (p, .stopped) => some (p, some bn)
      | (p, .done) => processBlocks bns p

/-- `Pallet::process_tasks` at block `currentBn`, with the tasks it ran. -/
def processTasks (currentBn : ℕ) (s : Scheduler T) : Option (Scheduler T × List (ℕ × T)) :=
  -- `FirstIncompleteTasksBlockOf::take()`: a write when it was set, a read otherwise
  let (firstIncompleteBlock, wereEmpty, gasAllowance) :=
    match s.firstIncompleteTasksBlock with
    | some block => (block, false, s.gasAllowance - w.writes 1)
    | none => (currentBn, true, s.gasAllowance - w.reads 1)
  let bns := List.range' firstIncompleteBlock (currentBn + 1 - firstIncompleteBlock)
  (processBlocks w maxTaskGas taskGas bns ⟨s.pool, gasAllowance, []⟩).map fun (p, stoppedAt) =>
    match stoppedAt with
    | some bn =>
      (⟨p.pool, some bn, if wereEmpty then p.gasAllowance - w.writes 1 else p.gasAllowance⟩,
        p.processed)
    | none => (⟨p.pool, none, p.gasAllowance⟩, p.processed)

end Loops

/-- What happens between two calls of `process_tasks`: the pallet adds a task
at a block after the current one, or the next block begins with some gas
allowance and runs `process_tasks`, its tasks spending `taskGas`. -/
inductive Event (T : Type)
  | add (bn : ℕ) (task : T)
  | nextBlock (gasAllowance : ℕ) (taskGas : T → ℕ)

/-- The chain at block `now`, after its `process_tasks`, with every task run
so far: the block it ran in, and the block and the task. -/
structure Chain (T : Type) where
  scheduler : Scheduler T
  now : ℕ
  log : List (ℕ × ℕ × T)

namespace Chain

variable (w : DbWeight) (maxTaskGas : T → ℕ)

/-- The chain at block `now` before any task is scheduled. -/
def genesis (now : ℕ) : Chain T := ⟨⟨∅, none, 0⟩, now, []⟩

/-- One event; `none` when the pallet's `add` fails or the event is not one the
pallet makes. -/
def step (c : Chain T) : Event T → Option (Chain T)
  | .add bn task =>
    if c.now < bn then
      match TaskPool.add c.scheduler.pool bn task with
      | .ok pool => some { c with scheduler := { c.scheduler with pool } }
      | .error _ => none
    else none
  | .nextBlock gasAllowance taskGas =>
    (processTasks w maxTaskGas taskGas (c.now + 1) { c.scheduler with gasAllowance }).map
      fun (s, done) => ⟨s, c.now + 1, c.log ++ done.map ((c.now + 1, ·))⟩

/-- A run of events. -/
def run : Chain T → List (Event T) → Option (Chain T)
  | c, [] => some c
  | c, e :: es => (c.step w maxTaskGas e).bind (run · es)

end Chain

/-- The tasks a run adds. -/
def addedBy : List (Event T) → List (ℕ × T)
  | [] => []
  | .add bn task :: es => (bn, task) :: addedBy es
  | .nextBlock _ _ :: es => addedBy es

end Gear.Tasks
