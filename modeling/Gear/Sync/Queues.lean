import Gear.Sync.Signal

/-!
# The access queues of gstd's locks

An id enters a lock's `AccessQueue` when a poll of the message finds the lock
taken (`enqueueIfAbsent`), and leaves it only when a drop or an ousting
dequeues it. Two things keep ids there that are no waiters of the lock:

* a message woken by the expiry of its wait, not by `exec::wake`, polls again;
  on a free mutex it takes the mutex and does not leave the queue
  (`MutexLockFuture.poll_of_free`);
* a message that traps while it waits is done, and its `handle_signal` touches
  no queue (`trapped_waiter_stays_queued`).

A drop wakes the head of the queue, whichever message it is
(`MutexGuard.drop_of_owner`): the owner queued behind nobody wakes itself, and
a message that does wait on the mutex is not woken
(`owner_queued_wakes_itself`).
-/

namespace Gear.Sync

open Statics

variable {env : Env} {st st' : ExecState}

/-- On a free mutex the poll takes it for the current message and leaves the
queue as it is, the current message in it or not. -/
theorem MutexLockFuture.poll_of_free (f : MutexLockFuture)
    (hl : (st.statics.mutexes f.mutexId).locked = none) :
    f.poll env st = .ok (some (.mutex f.mutexId env.msgId), st.setMutex f.mutexId
      ⟨some (env.msgId, min (env.blockHeight + f.ownUpFor.getD st.statics.mxLockDuration)
        blockNumberMax), (st.statics.mutexes f.mutexId).queue⟩) := by
  simp [MutexLockFuture.poll, MutexLockFuture.acquireLockOwnership, hl]

/-- The owner's drop frees the mutex, and dequeues and wakes the head of the
queue, whichever message that is. -/
theorem MutexGuard.drop_of_owner {i : ℕ} {h q : MessageId} {d : BlockNumber}
    {rest : List MessageId} (hl : (st.statics.mutexes i).locked = some (h, d))
    (hq : (st.statics.mutexes i).queue = q :: rest) (hd : MutexGuard.drop i h env st = .ok st') :
    st'.awakening = st.awakening ++ [q] ∧ st'.statics.mutexes i = ⟨none, rest⟩ := by
  -- the holder owns the mutex: whoever drops the guard releases it
  have hrel : (wakeNextMutex i st >>= fun st =>
      Except.ok (st.setMutex i ⟨none, (st.statics.mutexes i).queue⟩)) = .ok st' := by
    by_cases hs : env.signalFrom = some h
    · simpa [MutexGuard.drop, hs, hl] using hd
    · by_cases hh : h = env.msgId
      · simpa [MutexGuard.drop, hs, hl, hh, ensureAccessByHolder] using hd
      · simp [MutexGuard.drop, hs, hh, ensureAccessByHolder] at hd
  obtain ⟨st₁, hw, he⟩ := Except.bind_eq_ok.mp hrel
  simp only [wakeNextMutex, ExecState.mutex_def, hq] at hw
  unfold wake at hw
  split at hw
  · cases hw
  · cases hw
    cases he
    simp

/-- A `handle_signal` for a message that holds no guard completes and changes
no lock. -/
theorem handleSignal_of_guardsOf_nil {m : MessageId} (hc : env.signalFrom = some m)
    (hg : st.statics.guardsOf m = []) :
    ∃ st', handleSignal env st = .ok st' ∧ st'.statics.mutexes = st.statics.mutexes ∧
      st'.statics.rwlocks = st.statics.rwlocks := by
  cases hl : st.statics.futures.lookup m with
  | none => exact ⟨st, by simp [handleSignal, hc, hl], rfl, rfl⟩
  | some task =>
    have ht : task.guards = [] := by rw [← guardsOf_of_lookup hl, hg]
    exact ⟨st.eraseTask m, by simp [handleSignal, hc, hl, ht, dropGuards], rfl, rfl⟩

/-- A message that holds no guard and traps, while it waits in lock queues, is
done once its `handle_signal` ran, and every lock, its queue included, is as it
was: the message's id stays in each queue it was in. -/
theorem trapped_waiter_stays_queued (s : System) (m sid : MessageId) (b : BlockNumber)
    (hg : s.statics.guardsOf m = []) :
    m ∈ ((s.trap m).signal m sid b).finished ∧
      ((s.trap m).signal m sid b).statics.mutexes = s.statics.mutexes ∧
      ((s.trap m).signal m sid b).statics.rwlocks = s.statics.rwlocks := by
  obtain ⟨st, hsig, hmx, hrw⟩ :=
    @handleSignal_of_guardsOf_nil ⟨sid, some m, b⟩ ⟨s.statics, []⟩ m rfl hg
  refine ⟨by simp [System.signal, System.trap], ?_, ?_⟩ <;>
    simp only [System.signal, System.trap, hsig]
  · exact hmx
  · exact hrw

/-- With `Config`'s defaults (`mx_lock_duration` and `wait_up_to` 100 blocks):
messages 1, 2 and 3 lock mutex 0 at block 0; 1 owns it, 2 and 3 queue, and 3's
wait ends at block 100. At block 99 message 1 completes: its drop wakes 2. At
block 100 message 3's wait expires first: it takes the free mutex and stays
queued, then awaits a reply. Message 2 runs and queues behind it. When 3
completes at block 101 its drop wakes 3 itself and leaves the mutex free, with
message 2, alive and pending on it, queued and not woken. -/
theorem owner_queued_wakes_itself :
    ∃ s : System, Reachable s ∧
      (s.statics.mutexes 0).locked.map Prod.fst = some 3 ∧ (s.statics.mutexes 0).queue = [3, 2] ∧
      2 ∉ s.finished ∧ (s.statics.futures.lookup 2).isSome ∧
      ∃ st, messageLoop ⟨3, none, 101⟩ [] .complete ⟨s.statics, []⟩ = .ok (true, st) ∧
        st.awakening = [3] ∧ st.statics.mutexes 0 = ⟨none, [2]⟩ := by
  have run := ((((((Relation.ReflTransGen.refl (r := Step) (a := System.init 100)).tail
    (Step.execute (m := 1) _ 0 [.lock ⟨0, none⟩] .await (by decide) (by decide))).tail
    (Step.execute (m := 2) _ 0 [.lock ⟨0, none⟩] .await (by decide) (by decide))).tail
    (Step.execute (m := 3) _ 0 [.lock ⟨0, none⟩] .await (by decide) (by decide))).tail
    (Step.execute (m := 1) _ 99 [] .complete (by decide) (by decide))).tail
    (Step.execute (m := 3) _ 100 [.lock ⟨0, none⟩] .await (by decide) (by decide))).tail
    (Step.execute (m := 2) _ 100 [.lock ⟨0, none⟩] .await (by decide) (by decide))
  exact ⟨_, ⟨100, run⟩, by decide, by decide, by decide, by decide, _, rfl, by decide, by decide⟩

end Gear.Sync
