import Mathlib

/-!
# gstd's locks and its async runtime

A program written with `gstd` runs each incoming message through
`message_loop`: the message's future lives in the `FUTURES` map of the
program's static memory (a `Task`), and every execution of the message polls
it once. The `Mutex` and `RwLock` of `gstd::sync` are static too: a lock's
owner, its reader count and its `AccessQueue` of waiting messages. A guard a
future obtained stays inside the future, so inside the task, until it is
dropped.

What a program does between two awaits is arbitrary. An execution of a
message is therefore a list of `Action`s (await a lock, drop a guard it holds)
followed by how the poll ends: the body completes, or it awaits something else
(a reply, a sleep). A lock future that is `Pending` ends the poll there. A
`Panic` is a trap: the node reverts the execution's changes to static memory.
After a trap the node runs `handle_signal` for the message, in an execution of
its own with another `msg::id()` and `msg::signal_from()` the trapped message.

`exec::wake` records the woken message for the end of the execution, and
fails on a second wake of one message (`DuplicateWaking`): the `expect` around
it panics. The `LocksMap` of wait locks and lock monitors only decides when a
waiting message resumes, the critical hook and the reply hooks never touch a
lock; they are left out, and a waiting message may resume at any time
(`Gear.Sync.Step`).
-/

namespace Gear.Sync

/-- `MessageId`. -/
abbrev MessageId := ℕ

/-- `BlockNumber`, a `u32`. -/
abbrev BlockNumber := ℕ

/-- `BlockCount`, a `u32`. -/
abbrev BlockCount := ℕ

/-- `u32::MAX`, where a `BlockNumber`'s `saturating_add` stops. -/
def blockNumberMax : ℕ := 4294967295

/-- `READERS_LIMIT`. -/
def readersLimit : ℕ := 32

/-- `u8::MAX`, where `ReadersCount`'s `saturating_add` stops. -/
def readersCountMax : ℕ := 255

/-- The state of a `Mutex`: `locked` (owner and the block its ownership ends)
and the `AccessQueue`, where `None` reads as the empty queue. -/
structure Mutex where
  locked : Option (MessageId × BlockNumber)
  queue : List MessageId
deriving DecidableEq, Repr

/-- The state of an `RwLock`: the writer, the number of readers and the
`AccessQueue`. -/
structure RwLock where
  locked : Option MessageId
  readers : ℕ
  queue : List MessageId
deriving DecidableEq, Repr

/-- A guard: `MutexGuard`, `RwLockReadGuard` or `RwLockWriteGuard`, with the
index of its lock and `holder_msg_id`. -/
inductive Guard
  | mutex (i : ℕ) (holderMsgId : MessageId)
  | read (j : ℕ) (holderMsgId : MessageId)
  | write (j : ℕ) (holderMsgId : MessageId)
deriving DecidableEq, Repr

/-- `holder_msg_id`. -/
def Guard.holderMsgId : Guard → MessageId
  | .mutex _ h | .read _ h | .write _ h => h

/-- `Task`: `lock_exceeded`, and the guards its future holds, the newest first
(the order in which the future drops them). -/
structure Task where
  lockExceeded : Bool
  guards : List Guard
deriving DecidableEq, Repr

/-- `Task::new`. -/
def Task.new : Task := ⟨false, []⟩

/-- The program's static memory: its mutexes and rwlocks, the `FUTURES` map,
and `Config::mx_lock_duration`. -/
structure Statics where
  mutexes : ℕ → Mutex
  rwlocks : ℕ → RwLock
  futures : AList (fun _ : MessageId => Task)
  mxLockDuration : BlockCount

/-- What `msg::id()`, `msg::signal_from()` and `exec::block_height()` return
during an execution. -/
structure Env where
  msgId : MessageId
  signalFrom : Option MessageId
  blockHeight : BlockNumber

/-- An execution in progress: the static memory and the messages it woke. -/
structure ExecState where
  statics : Statics
  awakening : List MessageId

/-- The panics of the lock code, each a trap. -/
inductive Panic
  /-- "... guard held by message 0x{} is being accessed by message 0x{}" -/
  | guardAccessedByOther (holder current : MessageId)
  /-- "... guard held by message 0x{} does not match lock owner message ..." -/
  | guardOwnerMismatch (holder : MessageId) (owner : Option MessageId)
  /-- "Write lock guard held by message 0x{} is being dropped for non-existing lock" -/
  | writeGuardWithoutLock (holder : MessageId)
  /-- "Message 0x{} has exceeded lock ownership time" -/
  | lockExceeded (msgId : MessageId)
  /-- "Failed to wake the message" -/
  | failedToWake (msgId : MessageId)
  /-- "`gstd::async_runtime::handle_signal()` must be called only in `handle_signal` entrypoint" -/
  | notInSignalHandler
deriving DecidableEq, Repr

namespace Statics

/-- The task of `m`'s guards; none without a task. -/
def guardsOf (s : Statics) (m : MessageId) : List Guard :=
  ((s.futures.lookup m).map Task.guards).getD []

/-- `m`'s task is marked `lock_exceeded`. -/
def exceeded (s : Statics) (m : MessageId) : Bool :=
  ((s.futures.lookup m).map Task.lockExceeded).getD false

def setMutex (s : Statics) (i : ℕ) (mx : Mutex) : Statics :=
  { s with mutexes := Function.update s.mutexes i mx }

def setRwLock (s : Statics) (j : ℕ) (rw : RwLock) : Statics :=
  { s with rwlocks := Function.update s.rwlocks j rw }

def setTask (s : Statics) (m : MessageId) (t : Task) : Statics :=
  { s with futures := s.futures.insert m t }

def eraseTask (s : Statics) (m : MessageId) : Statics :=
  { s with futures := s.futures.erase m }

/-- `m`'s task with its guards replaced by `gs`. -/
def setGuards (s : Statics) (m : MessageId) (gs : List Guard) : Statics :=
  s.setTask m { (s.futures.lookup m).getD Task.new with guards := gs }

@[simp] theorem setMutex_mutexes (s : Statics) (i : ℕ) (mx : Mutex) (i' : ℕ) :
    (s.setMutex i mx).mutexes i' = if i' = i then mx else s.mutexes i' :=
  Function.update_apply _ _ _ _

@[simp] theorem setMutex_rwlocks (s : Statics) (i : ℕ) (mx : Mutex) :
    (s.setMutex i mx).rwlocks = s.rwlocks := rfl

@[simp] theorem setMutex_futures (s : Statics) (i : ℕ) (mx : Mutex) :
    (s.setMutex i mx).futures = s.futures := rfl

@[simp] theorem setRwLock_rwlocks (s : Statics) (j : ℕ) (rw : RwLock) (j' : ℕ) :
    (s.setRwLock j rw).rwlocks j' = if j' = j then rw else s.rwlocks j' :=
  Function.update_apply _ _ _ _

@[simp] theorem setRwLock_mutexes (s : Statics) (j : ℕ) (rw : RwLock) :
    (s.setRwLock j rw).mutexes = s.mutexes := rfl

@[simp] theorem setRwLock_futures (s : Statics) (j : ℕ) (rw : RwLock) :
    (s.setRwLock j rw).futures = s.futures := rfl

@[simp] theorem setTask_mutexes (s : Statics) (m : MessageId) (t : Task) :
    (s.setTask m t).mutexes = s.mutexes := rfl

@[simp] theorem setTask_rwlocks (s : Statics) (m : MessageId) (t : Task) :
    (s.setTask m t).rwlocks = s.rwlocks := rfl

@[simp] theorem eraseTask_mutexes (s : Statics) (m : MessageId) :
    (s.eraseTask m).mutexes = s.mutexes := rfl

@[simp] theorem eraseTask_rwlocks (s : Statics) (m : MessageId) :
    (s.eraseTask m).rwlocks = s.rwlocks := rfl

theorem guardsOf_of_lookup {s : Statics} {m : MessageId} {t : Task}
    (h : s.futures.lookup m = some t) : s.guardsOf m = t.guards := by
  simp [guardsOf, h]

theorem exceeded_of_lookup {s : Statics} {m : MessageId} {t : Task}
    (h : s.futures.lookup m = some t) : s.exceeded m = t.lockExceeded := by
  simp [exceeded, h]

theorem guardsOf_of_lookup_eq_none {s : Statics} {m : MessageId}
    (h : s.futures.lookup m = none) : s.guardsOf m = [] := by
  simp [guardsOf, h]

@[simp] theorem guardsOf_setTask (s : Statics) (c : MessageId) (t : Task) (m : MessageId) :
    (s.setTask c t).guardsOf m = if m = c then t.guards else s.guardsOf m := by
  by_cases hm : m = c
  · subst hm; simp [guardsOf, setTask, AList.lookup_insert]
  · simp [guardsOf, setTask, AList.lookup_insert_ne hm, hm]

@[simp] theorem exceeded_setTask (s : Statics) (c : MessageId) (t : Task) (m : MessageId) :
    (s.setTask c t).exceeded m = if m = c then t.lockExceeded else s.exceeded m := by
  by_cases hm : m = c
  · subst hm; simp [exceeded, setTask, AList.lookup_insert]
  · simp [exceeded, setTask, AList.lookup_insert_ne hm, hm]

@[simp] theorem guardsOf_eraseTask (s : Statics) (c m : MessageId) :
    (s.eraseTask c).guardsOf m = if m = c then [] else s.guardsOf m := by
  by_cases hm : m = c
  · subst hm; simp [guardsOf, eraseTask, AList.lookup_erase]
  · simp [guardsOf, eraseTask, AList.lookup_erase_ne hm, hm]

@[simp] theorem exceeded_eraseTask (s : Statics) (c m : MessageId) :
    (s.eraseTask c).exceeded m = if m = c then false else s.exceeded m := by
  by_cases hm : m = c
  · subst hm; simp [exceeded, eraseTask, AList.lookup_erase]
  · simp [exceeded, eraseTask, AList.lookup_erase_ne hm, hm]

@[simp] theorem guardsOf_setGuards (s : Statics) (c : MessageId) (gs : List Guard) (m : MessageId) :
    (s.setGuards c gs).guardsOf m = if m = c then gs else s.guardsOf m := by
  simp [setGuards]

@[simp] theorem exceeded_setGuards (s : Statics) (c : MessageId) (gs : List Guard) :
    (s.setGuards c gs).exceeded = s.exceeded := by
  funext m
  rw [setGuards, exceeded_setTask]
  split_ifs with hm
  · subst hm
    cases h : s.futures.lookup m <;> simp [exceeded, h, Task.new]
  · rfl

@[simp] theorem setGuards_mutexes (s : Statics) (c : MessageId) (gs : List Guard) :
    (s.setGuards c gs).mutexes = s.mutexes := rfl

@[simp] theorem setGuards_rwlocks (s : Statics) (c : MessageId) (gs : List Guard) :
    (s.setGuards c gs).rwlocks = s.rwlocks := rfl

theorem guardsOf_of_futures_eq {s s' : Statics} (h : s.futures = s'.futures) :
    s.guardsOf = s'.guardsOf := by
  funext m
  simp [guardsOf, h]

theorem exceeded_of_futures_eq {s s' : Statics} (h : s.futures = s'.futures) :
    s.exceeded = s'.exceeded := by
  funext m
  simp [exceeded, h]

@[simp] theorem guardsOf_setMutex (s : Statics) (i : ℕ) (mx : Mutex) :
    (s.setMutex i mx).guardsOf = s.guardsOf := rfl

@[simp] theorem exceeded_setMutex (s : Statics) (i : ℕ) (mx : Mutex) :
    (s.setMutex i mx).exceeded = s.exceeded := rfl

@[simp] theorem guardsOf_setRwLock (s : Statics) (j : ℕ) (rw : RwLock) :
    (s.setRwLock j rw).guardsOf = s.guardsOf := rfl

@[simp] theorem exceeded_setRwLock (s : Statics) (j : ℕ) (rw : RwLock) :
    (s.setRwLock j rw).exceeded = s.exceeded := rfl

end Statics

namespace ExecState

def mutex (st : ExecState) (i : ℕ) : Mutex := st.statics.mutexes i

def rwlock (st : ExecState) (j : ℕ) : RwLock := st.statics.rwlocks j

def setMutex (st : ExecState) (i : ℕ) (mx : Mutex) : ExecState :=
  { st with statics := st.statics.setMutex i mx }

def setRwLock (st : ExecState) (j : ℕ) (rw : RwLock) : ExecState :=
  { st with statics := st.statics.setRwLock j rw }

def setTask (st : ExecState) (m : MessageId) (t : Task) : ExecState :=
  { st with statics := st.statics.setTask m t }

def eraseTask (st : ExecState) (m : MessageId) : ExecState :=
  { st with statics := st.statics.eraseTask m }

/-- `m`'s task with its guards replaced by `gs`. -/
def setGuards (st : ExecState) (m : MessageId) (gs : List Guard) : ExecState :=
  { st with statics := st.statics.setGuards m gs }

/-- A `Ready` lock future hands its guard to the future that awaited it, so to
`m`'s task. -/
def holdGuard (st : ExecState) (m : MessageId) (g : Guard) : ExecState :=
  st.setGuards m (g :: st.statics.guardsOf m)

@[simp] theorem mutex_def (st : ExecState) (i : ℕ) : st.mutex i = st.statics.mutexes i := rfl

@[simp] theorem rwlock_def (st : ExecState) (j : ℕ) : st.rwlock j = st.statics.rwlocks j := rfl

@[simp] theorem setMutex_statics (st : ExecState) (i : ℕ) (mx : Mutex) :
    (st.setMutex i mx).statics = st.statics.setMutex i mx := rfl

@[simp] theorem setRwLock_statics (st : ExecState) (j : ℕ) (rw : RwLock) :
    (st.setRwLock j rw).statics = st.statics.setRwLock j rw := rfl

@[simp] theorem setTask_statics (st : ExecState) (m : MessageId) (t : Task) :
    (st.setTask m t).statics = st.statics.setTask m t := rfl

@[simp] theorem eraseTask_statics (st : ExecState) (m : MessageId) :
    (st.eraseTask m).statics = st.statics.eraseTask m := rfl

@[simp] theorem setGuards_statics (st : ExecState) (m : MessageId) (gs : List Guard) :
    (st.setGuards m gs).statics = st.statics.setGuards m gs := rfl

@[simp] theorem setMutex_awakening (st : ExecState) (i : ℕ) (mx : Mutex) :
    (st.setMutex i mx).awakening = st.awakening := rfl

@[simp] theorem setRwLock_awakening (st : ExecState) (j : ℕ) (rw : RwLock) :
    (st.setRwLock j rw).awakening = st.awakening := rfl

end ExecState

/-- `exec::wake(id).expect("Failed to wake the message")`. -/
def wake (m : MessageId) (st : ExecState) : Except Panic ExecState :=
  if m ∈ st.awakening then .error (.failedToWake m)
  else .ok { st with awakening := st.awakening ++ [m] }

/-- `if !queue.contains(&id) { queue.enqueue(id) }`, as all three lock futures
queue a message. -/
def enqueueIfAbsent (queue : List MessageId) (m : MessageId) : List MessageId :=
  if m ∈ queue then queue else queue ++ [m]

/-- `if let Some(id) = mutex.queue.dequeue() { exec::wake(id)... }`. -/
def wakeNextMutex (i : ℕ) (st : ExecState) : Except Panic ExecState :=
  match (st.mutex i).queue with
  | [] => .ok st
  | next :: rest => wake next (st.setMutex i { st.mutex i with queue := rest })

/-- `if let Some(id) = lock.queue.dequeue() { exec::wake(id)... }`. -/
def wakeNextRwLock (j : ℕ) (st : ExecState) : Except Panic ExecState :=
  match (st.rwlock j).queue with
  | [] => .ok st
  | next :: rest => wake next (st.setRwLock j { st.rwlock j with queue := rest })

/-- `MutexLockFuture`: the mutex and `own_up_for`. -/
structure MutexLockFuture where
  mutexId : ℕ
  ownUpFor : Option BlockCount
deriving DecidableEq, Repr

namespace MutexLockFuture

/-- `acquire_lock_ownership`: the message owns the mutex until
`current_block.saturating_add(own_up_for)`. -/
def acquireLockOwnership (f : MutexLockFuture) (ownerMsgId : MessageId)
    (currentBlock : BlockNumber) (st : ExecState) : Option Guard × ExecState :=
  let ownerDeadlineBlock :=
    min (currentBlock + f.ownUpFor.getD st.statics.mxLockDuration) blockNumberMax
  (some (.mutex f.mutexId ownerMsgId),
    st.setMutex f.mutexId { st.mutex f.mutexId with locked := some (ownerMsgId, ownerDeadlineBlock) })

/-- `queue_for_lock_ownership`: `Pending`, queued once. -/
def queueForLockOwnership (f : MutexLockFuture) (rivalMsgId : MessageId) (st : ExecState) :
    Option Guard × ExecState :=
  (none, st.setMutex f.mutexId
    { st.mutex f.mutexId with queue := enqueueIfAbsent (st.mutex f.mutexId).queue rivalMsgId })

/-- The `while let Some(next_msg_id) = self.mutex.queue.dequeue()` loop of
`poll` over the queue: it passes over the ousted owner, stops at the current
message, and otherwise gives the rival to wake; with what is left of the
queue. -/
def nextRival (owner current : MessageId) : List MessageId → Option MessageId × List MessageId
  | [] => (none, [])
  | next :: rest =>
    if next = owner then nextRival owner current rest
    else if next = current then (none, rest)
    else (some next, rest)

/-- The start of `poll`'s last branch, once the owner's time is over: the
owner's task, if it still has one, is marked `lock_exceeded` and the owner
woken. -/
def oustOwner (lockOwnerMsgId : MessageId) (st : ExecState) : Except Panic ExecState :=
  match st.statics.futures.lookup lockOwnerMsgId with
  | some task => wake lockOwnerMsgId (st.setTask lockOwnerMsgId { task with lockExceeded := true })
  | none => .ok st

/-- The rest of `poll`'s last branch: the first rival in the queue is woken and
the mutex left free, or, with no rival before the current message, the current
message owns it. -/
def handOver (f : MutexLockFuture) (lockOwnerMsgId : MessageId) (env : Env) (st : ExecState) :
    Except Panic (Option Guard × ExecState) :=
  match nextRival lockOwnerMsgId env.msgId (st.mutex f.mutexId).queue with
  | (some nextMsgId, rest) => do
    let st ← wake nextMsgId (st.setMutex f.mutexId { st.mutex f.mutexId with queue := rest })
    .ok (f.queueForLockOwnership env.msgId
      (st.setMutex f.mutexId { st.mutex f.mutexId with locked := none }))
  | (none, rest) =>
    .ok (f.acquireLockOwnership env.msgId env.blockHeight
      (st.setMutex f.mutexId { st.mutex f.mutexId with queue := rest }))

/-- `MutexLockFuture::poll`; `none` is `Poll::Pending`. -/
def poll (f : MutexLockFuture) (env : Env) (st : ExecState) :
    Except Panic (Option Guard × ExecState) :=
  match (st.mutex f.mutexId).locked with
  | none => .ok (f.acquireLockOwnership env.msgId env.blockHeight st)
  | some (lockOwnerMsgId, deadlineBlock) =>
    if env.blockHeight < deadlineBlock then .ok (f.queueForLockOwnership env.msgId st)
    else do
      let st ← oustOwner lockOwnerMsgId st
      f.handOver lockOwnerMsgId env st

end MutexLockFuture

/-- `RwLockReadFuture::poll` of the `j`-th rwlock. -/
def RwLockReadFuture.poll (j : ℕ) (env : Env) (st : ExecState) : Option Guard × ExecState :=
  let lock := st.rwlock j
  let readersCount := min (lock.readers + 1) readersCountMax
  if lock.locked = none ∧ readersCount ≤ readersLimit then
    (some (.read j env.msgId), st.setRwLock j { lock with readers := readersCount })
  else (none, st.setRwLock j { lock with queue := enqueueIfAbsent lock.queue env.msgId })

/-- `RwLockWriteFuture::poll` of the `j`-th rwlock. -/
def RwLockWriteFuture.poll (j : ℕ) (env : Env) (st : ExecState) : Option Guard × ExecState :=
  let lock := st.rwlock j
  if lock.locked = none ∧ lock.readers = 0 then
    (some (.write j env.msgId), st.setRwLock j { lock with locked := some env.msgId })
  else (none, st.setRwLock j { lock with queue := enqueueIfAbsent lock.queue env.msgId })

/-- `ensure_access_by_holder`, the same in all three guards. -/
def ensureAccessByHolder (holderMsgId : MessageId) (env : Env) : Except Panic Unit :=
  if holderMsgId = env.msgId then .ok () else .error (.guardAccessedByOther holderMsgId env.msgId)

/-- `MutexGuard::drop`: the holder's signal handler may drop the guard, and
then releases the mutex only if the holder still owns it. -/
def MutexGuard.drop (i : ℕ) (holderMsgId : MessageId) (env : Env) (st : ExecState) :
    Except Panic ExecState := do
  -- `is_holder_msg_signal_handler` is `env.signalFrom = some holderMsgId`
  if env.signalFrom ≠ some holderMsgId then ensureAccessByHolder holderMsgId env
  let ownerMsgId := (st.mutex i).locked.map Prod.fst
  if ownerMsgId ≠ some holderMsgId ∧ env.signalFrom ≠ some holderMsgId then
    throw (.guardOwnerMismatch holderMsgId ownerMsgId)
  if ownerMsgId = some holderMsgId then
    let st ← wakeNextMutex i st
    pure (st.setMutex i { st.mutex i with locked := none })
  else pure st

/-- `RwLockReadGuard::drop`. -/
def RwLockReadGuard.drop (j : ℕ) (holderMsgId : MessageId) (env : Env) (st : ExecState) :
    Except Panic ExecState := do
  ensureAccessByHolder holderMsgId env
  -- `saturating_sub(1)`
  let readersCount := (st.rwlock j).readers - 1
  let st := st.setRwLock j { st.rwlock j with readers := readersCount }
  if readersCount = 0 then wakeNextRwLock j (st.setRwLock j { st.rwlock j with locked := none })
  else pure st

/-- `RwLockWriteGuard::drop`. -/
def RwLockWriteGuard.drop (j : ℕ) (holderMsgId : MessageId) (env : Env) (st : ExecState) :
    Except Panic ExecState := do
  ensureAccessByHolder holderMsgId env
  match (st.rwlock j).locked with
  | none => throw (.writeGuardWithoutLock holderMsgId)
  | some ownerMsgId =>
    if ownerMsgId ≠ holderMsgId then throw (.guardOwnerMismatch holderMsgId (some ownerMsgId))
    else wakeNextRwLock j (st.setRwLock j { st.rwlock j with locked := none })

/-- Dropping a guard. -/
def Guard.drop (env : Env) : Guard → ExecState → Except Panic ExecState
  | .mutex i h => MutexGuard.drop i h env
  | .read j h => RwLockReadGuard.drop j h env
  | .write j h => RwLockWriteGuard.drop j h env

/-- Dropping guards in order, as dropping a future drops the guards it holds. -/
def dropGuards (env : Env) : List Guard → ExecState → Except Panic ExecState
  | [], st => .ok st
  | g :: gs, st => do
    let st ← g.drop env st
    dropGuards env gs st

/-- What a future does between two awaits, as far as locks see it. -/
inductive Action
  /-- `mutex.lock()` (with `own_up_for`), awaited -/
  | lock (f : MutexLockFuture)
  /-- `rwlock.read()`, awaited -/
  | read (j : ℕ)
  /-- `rwlock.write()`, awaited -/
  | write (j : ℕ)
  /-- the `k`-th guard the future holds goes out of scope -/
  | drop (k : ℕ)
deriving DecidableEq, Repr

/-- How a poll ends once its actions ran. -/
inductive Finish
  /-- the body returns: its guards are dropped and the future is `Ready` -/
  | complete
  /-- the body awaits something else: `Pending` -/
  | await
deriving DecidableEq, Repr

/-- The poll of a lock future inside the message's future: a guard is kept in
the task and the poll goes on (`true`); `Pending` ends it. -/
def keepGuard (env : Env) : Option Guard × ExecState → Bool × ExecState
  | (some g, st) => (true, st.holdGuard env.msgId g)
  | (none, st) => (false, st)

/-- One action of the message `env.msgId`; `false` when it left the poll
`Pending`. -/
def Action.run (env : Env) : Action → ExecState → Except Panic (Bool × ExecState)
  | .lock f, st => do
    let r ← f.poll env st
    pure (keepGuard env r)
  | .read j, st => pure (keepGuard env (RwLockReadFuture.poll j env st))
  | .write j, st => pure (keepGuard env (RwLockWriteFuture.poll j env st))
  | .drop k, st =>
    let guards := st.statics.guardsOf env.msgId
    match guards[k]? with
    | none => pure (true, st)
    | some g => do
      let st ← g.drop env (st.setGuards env.msgId (guards.eraseIdx k))
      pure (true, st)

/-- One poll of the message's future: its actions, then its end; `true` when
the future is `Ready`. -/
def pollFuture (env : Env) : List Action → Finish → ExecState → Except Panic (Bool × ExecState)
  | [], .complete, st => do
    let st ← dropGuards env (st.statics.guardsOf env.msgId) (st.setGuards env.msgId [])
    pure (true, st)
  | [], .await, st => pure (false, st)
  | a :: as, fin, st => do
    let (ready, st) ← a.run env st
    if ready then pollFuture env as fin st else pure (false, st)

/-- `message_loop`: the message's task (a new one on its first execution); a
task marked `lock_exceeded` panics; the poll; a `Ready` future's task is
removed. A `Pending` one waits (`LocksMap::wait`). -/
def messageLoop (env : Env) (actions : List Action) (finish : Finish) (st : ExecState) :
    Except Panic (Bool × ExecState) := do
  let (task, st) := match st.statics.futures.lookup env.msgId with
    | some task => (task, st)
    | none => (Task.new, st.setTask env.msgId Task.new)
  if task.lockExceeded then throw (.lockExceeded env.msgId)
  let (ready, st) ← pollFuture env actions finish st
  if ready then pure (true, st.eraseTask env.msgId) else pure (false, st)

/-- `async_runtime::handle_signal`: the trapped message's task is removed and
its future dropped, with it every guard it holds. -/
def handleSignal (env : Env) (st : ExecState) : Except Panic ExecState :=
  match env.signalFrom with
  | none => .error .notInSignalHandler
  | some msgId =>
    match st.statics.futures.lookup msgId with
    | none => .ok st
    | some task => dropGuards env task.guards (st.eraseTask msgId)

/-! ## Runs of a program -/

/-- The program's static memory, the messages that are done (their future
completed, or they trapped), the messages whose `handle_signal` is due, and
the block of the latest execution: the node runs messages block by block. -/
structure System where
  statics : Statics
  finished : List MessageId
  signals : List MessageId
  lastBlock : BlockNumber

/-- A program just initialised: every lock free, no task. -/
def System.init (mxLockDuration : BlockCount) : System :=
  ⟨⟨fun _ => ⟨none, []⟩, fun _ => ⟨none, 0, []⟩, ∅, mxLockDuration⟩, [], [], 0⟩

namespace System

/-- The message `m` traps: static memory stays as it was, `m` is done and its
`handle_signal` is due. -/
def trap (s : System) (m : MessageId) : System :=
  { s with finished := m :: s.finished, signals := m :: s.signals }

/-- An execution of `m` at block `block`; a panic is a trap. -/
def execute (s : System) (m : MessageId) (block : BlockNumber) (actions : List Action)
    (finish : Finish) : System :=
  match messageLoop ⟨m, none, block⟩ actions finish ⟨s.statics, []⟩ with
  | .ok (ready, st) =>
    { s with statics := st.statics, finished := if ready then m :: s.finished else s.finished,
             lastBlock := block }
  | .error _ => { s.trap m with lastBlock := block }

/-- `handle_signal` for `m`, run as the message `sid`; a panic reverts it. -/
def signal (s : System) (m sid : MessageId) (block : BlockNumber) : System :=
  { s with
    statics := match handleSignal ⟨sid, some m, block⟩ ⟨s.statics, []⟩ with
      | .ok st => st.statics
      | .error _ => s.statics
    signals := s.signals.erase m
    lastBlock := block }

end System

/-- One step of a run: an execution of a message that is not done (at a block
no earlier than the latest one, whatever its code does), a trap of it, or a due
`handle_signal`, run no earlier either. -/
inductive Step : System → System → Prop
  | execute (s : System) {m : MessageId} (block : BlockNumber) (actions : List Action)
      (finish : Finish) (h : m ∉ s.finished) (hblock : s.lastBlock ≤ block) :
      Step s (s.execute m block actions finish)
  | trap (s : System) {m : MessageId} (h : m ∉ s.finished) : Step s (s.trap m)
  | signal (s : System) {m sid : MessageId} (block : BlockNumber) (hm : m ∈ s.signals)
      (hsid : sid ≠ m) (hblock : s.lastBlock ≤ block) : Step s (s.signal m sid block)

/-- The states a run of the program reaches, whatever `Config::mx_lock_duration`
it started with. -/
def Reachable (s : System) : Prop :=
  ∃ d, Relation.ReflTransGen Step (System.init d) s

end Gear.Sync
