import Gear.Waitlist.Hold
import Mathlib

/-!
# Waiting and waking — `pallet-gear/src/internal.rs`, `manager/journal.rs`, `manager/task.rs`

A message that ends its execution with `wait`, `wait_for` or `wait_up_to` goes
to the waitlist through `Pallet::wait_dispatch`, which schedules a task at the
hold's expected block: `WakeMessage` for `wait_for` and a full `wait_up_to`,
`RemoveFromWaitlist` for `wait` and a partial `wait_up_to`. The message leaves
the waitlist through `wake_dispatch`, called by a `wake` syscall without delay
(`JournalHandler::wake_message`), by the `WakeMessage` task and by the
`RemoveFromWaitlist` task; `wake_dispatch_requirements` deletes the
`RemoveFromWaitlist` task at the hold's expected block. A `wake` with a delay
schedules a `WakeMessage` task instead.

The model keeps the current block, the waitlist with each message's hold
interval, the task pool and the message queue. What a message does between
being queued and waiting again is not modelled: any message may end an
execution by waiting. Gas is left out (the lock and the charge for the hold
are the subject of `Gear.Waitlist.HoldFit`), and so are events, signals and the
trap reply of a removed message. `process_tasks` runs every task at or after
its block (`Gear.Tasks`); here a due task may run at any later block.
-/

namespace Gear.Waitlist

/-- `ActorId`. -/
abbrev ActorId := ℕ

/-- `MessageId`. -/
abbrev MessageId := ℕ

/-- `ScheduledTask`: the variants for the waitlist. -/
inductive ScheduledTask
  | removeFromWaitlist (programId : ActorId) (messageId : MessageId)
  | wakeMessage (programId : ActorId) (messageId : MessageId)
deriving DecidableEq, Repr

/-- `MessageWaitedRuntimeReason`. -/
inductive MessageWaitedReason
  | waitCalled
  | waitForCalled
  | waitUpToCalled
  | waitUpToCalledFull
deriving DecidableEq, Repr

/-- `Interval` of a message in the waitlist: the block it came in at and its
hold's expected block. -/
structure Interval where
  start : ℕ
  finish : ℕ
deriving DecidableEq, Repr

/-- The storage waiting and waking read and write. -/
structure State where
  now : ℕ
  waitlist : AList fun _ : ActorId × MessageId => Interval
  taskPool : Finset (ℕ × ScheduledTask)
  queue : List (ActorId × MessageId)

namespace State

variable (c : CostsPerBlock)

/-- The task `wait_dispatch` schedules at block `expected`: a `WakeMessage`,
added only when it is not there, or a `RemoveFromWaitlist`, whose
`TaskPool::add` fails when it is. -/
def scheduleWaitTask (pool : Finset (ℕ × ScheduledTask)) (expected programId messageId : ℕ) :
    MessageWaitedReason → Option (Finset (ℕ × ScheduledTask))
  | .waitForCalled | .waitUpToCalledFull =>
    let task := (expected, ScheduledTask.wakeMessage programId messageId)
    some (if task ∈ pool then pool else insert task pool)
  | .waitCalled | .waitUpToCalled =>
    let task := (expected, ScheduledTask.removeFromWaitlist programId messageId)
    if task ∈ pool then none else some (insert task pool)

/-- `Pallet::wait_dispatch`; `none` is one of its `unreachable!`s: a hold of no
block, a `RemoveFromWaitlist` task already scheduled, or a message already in
the waitlist. -/
def waitDispatch (s : State) (programId messageId : ℕ) (duration : Option ℕ)
    (reason : MessageWaitedReason) (gasLimit : ℕ) : Option State :=
  let hold := waitHold c s.now gasLimit duration
  if hold.expectedDuration s.now = 0 then none
  else
    match scheduleWaitTask s.taskPool hold.expected programId messageId reason with
    | none => none
    | some pool =>
      if (programId, messageId) ∈ s.waitlist then none
      else some { s with
        taskPool := pool
        waitlist := s.waitlist.insert (programId, messageId) ⟨s.now, hold.expected⟩ }

/-- `Pallet::wake_dispatch`: the message leaves the waitlist, and the
`RemoveFromWaitlist` task at its expected block is deleted if it is there;
`none` when the message is not in the waitlist. -/
def wakeDispatch (s : State) (programId messageId : ℕ) : Option State :=
  match s.waitlist.lookup (programId, messageId) with
  | none => none
  | some hold =>
    some { s with
      waitlist := s.waitlist.erase (programId, messageId)
      taskPool := s.taskPool.erase (hold.finish, .removeFromWaitlist programId messageId) }

/-- A message woken by `wake_dispatch` is queued; one not in the waitlist is
left alone. -/
def wakeAndQueue (s : State) (programId messageId : ℕ) : State :=
  match s.wakeDispatch programId messageId with
  | some s' => { s' with queue := s'.queue ++ [(programId, messageId)] }
  | none => s

/-- `JournalHandler::wake_message`: the `wake` syscall of a message. -/
def wakeMessage (s : State) (programId awakeningId delay : ℕ) : State :=
  if delay = 0 then s.wakeAndQueue programId awakeningId
  else if (programId, awakeningId) ∈ s.waitlist then
    let task := (s.now + delay, ScheduledTask.wakeMessage programId awakeningId)
    if task ∈ s.taskPool then s else { s with taskPool := insert task s.taskPool }
  else s

/-- `TaskHandler::wake_message`. -/
def wakeMessageTask (s : State) (programId messageId : ℕ) : State :=
  s.wakeAndQueue programId messageId

/-- `TaskHandler::remove_from_waitlist`: the message leaves the waitlist and is
not queued again; `none` is the `unreachable!` of a message not there. -/
def removeFromWaitlistTask (s : State) (programId messageId : ℕ) : Option State :=
  s.wakeDispatch programId messageId

/-- `process_tasks` running a task of the pool due by now: the task leaves the
pool as it is drained, then its handler runs. -/
def runTask (s : State) (bn : ℕ) (task : ScheduledTask) : Option State :=
  if bn ≤ s.now ∧ (bn, task) ∈ s.taskPool then
    let s := { s with taskPool := s.taskPool.erase (bn, task) }
    match task with
    | .wakeMessage programId messageId => some (s.wakeMessageTask programId messageId)
    | .removeFromWaitlist programId messageId => s.removeFromWaitlistTask programId messageId
  else none

end State

/-- What happens to the waitlist: a message ends its execution waiting, a
message calls `wake`, a due task runs, or the next block begins. -/
inductive Event
  | waitDispatch (programId messageId : ℕ) (duration : Option ℕ) (reason : MessageWaitedReason)
      (gasLimit : ℕ)
  | wake (programId awakeningId delay : ℕ)
  | runTask (bn : ℕ) (task : ScheduledTask)
  | nextBlock
deriving DecidableEq, Repr

namespace State

variable (c : CostsPerBlock)

/-- One event; `none` when it panics or is not possible. -/
def step (s : State) : Event → Option State
  | .waitDispatch programId messageId duration reason gasLimit =>
    s.waitDispatch c programId messageId duration reason gasLimit
  | .wake programId awakeningId delay => some (s.wakeMessage programId awakeningId delay)
  | .runTask bn task => s.runTask bn task
  | .nextBlock => some { s with now := s.now + 1 }

/-- A run of events. -/
def run : State → List Event → Option State
  | s, [] => some s
  | s, e :: es => (s.step c e).bind (run · es)

end State

end Gear.Waitlist
