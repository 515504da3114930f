import Gear.Sync.Runtime
import Gear.Lib.ExceptBind

/-!
# What each lock operation does to static memory

One lemma per function of the runtime model, stating everything a successful
call can do to the static memory; the invariant proofs cite these and never
unfold a poll or a drop. Waking changes nothing static. A drop changes only its
lock, and never the `FUTURES` map. A poll changes only its lock, except that
ousting an overstaying `Mutex` owner marks the owner's task (`Ousted`).
-/

namespace Gear.Sync

variable {env : Env} {st st' : ExecState}

theorem Statics.setMutex_self (s : Statics) (i : ℕ) : s.setMutex i (s.mutexes i) = s := by
  simp [setMutex]

theorem Statics.setRwLock_self (s : Statics) (j : ℕ) : s.setRwLock j (s.rwlocks j) = s := by
  simp [setRwLock]

theorem wake_statics {m : MessageId} (h : wake m st = .ok st') : st'.statics = st.statics := by
  unfold wake at h
  split at h
  · cases h
  · cases h
    rfl

theorem wakeNextMutex_ok {i : ℕ} (h : wakeNextMutex i st = .ok st') :
    ∃ q, st'.statics = st.statics.setMutex i { st.statics.mutexes i with queue := q } := by
  unfold wakeNextMutex at h
  split at h
  · cases h
    exact ⟨_, (st.statics.setMutex_self i).symm⟩
  · rename_i next rest _
    exact ⟨rest, by simpa using wake_statics h⟩

theorem wakeNextRwLock_ok {j : ℕ} (h : wakeNextRwLock j st = .ok st') :
    ∃ q, st'.statics = st.statics.setRwLock j { st.statics.rwlocks j with queue := q } := by
  unfold wakeNextRwLock at h
  split at h
  · cases h
    exact ⟨_, (st.statics.setRwLock_self j).symm⟩
  · rename_i next rest _
    exact ⟨rest, by simpa using wake_statics h⟩

/-- A `MutexGuard` drop either releases the mutex its holder owns, or, run by
the holder's signal handler after an ousting, leaves everything as it is. -/
theorem MutexGuard.drop_ok {i : ℕ} {h : MessageId} (hd : MutexGuard.drop i h env st = .ok st') :
    (∃ d q, (st.statics.mutexes i).locked = some (h, d) ∧
        st'.statics = st.statics.setMutex i ⟨none, q⟩) ∨
      ((st.statics.mutexes i).locked.map Prod.fst ≠ some h ∧ env.signalFrom = some h ∧
        st'.statics = st.statics) := by
  by_cases ho : (st.statics.mutexes i).locked.map Prod.fst = some h
  · obtain ⟨⟨o, d⟩, hl, hoh⟩ := Option.map_eq_some_iff.mp ho
    obtain rfl : o = h := hoh
    -- the holder owns the mutex: whoever drops the guard releases it
    have hrel : (wakeNextMutex i st >>= fun st =>
        Except.ok (st.setMutex i ⟨none, (st.statics.mutexes i).queue⟩)) = .ok st' := by
      by_cases hs : env.signalFrom = some o
      · simpa [MutexGuard.drop, hs, hl] using hd
      · by_cases hh : o = env.msgId
        · simpa [MutexGuard.drop, hs, hl, hh, ensureAccessByHolder] using hd
        · simp [MutexGuard.drop, hs, hh, ensureAccessByHolder] at hd
    obtain ⟨st₁, hw, he⟩ := Except.bind_eq_ok.mp hrel
    obtain ⟨q, hq⟩ := wakeNextMutex_ok hw
    refine .inl ⟨d, q, hl, ?_⟩
    rw [← Except.ok.inj he]
    simp [hq, Statics.setMutex, Function.update_idem]
  · right
    by_cases hs : env.signalFrom = some h
    · simp [MutexGuard.drop, hs, ho] at hd
      exact ⟨ho, hs, by rw [← hd]⟩
    · by_cases hh : h = env.msgId
      · subst hh
        simp [MutexGuard.drop, hs, ho, ensureAccessByHolder] at hd
      · simp [MutexGuard.drop, hs, hh, ensureAccessByHolder] at hd

/-- An `RwLockReadGuard` drop, by its holder, takes one reader off. -/
theorem RwLockReadGuard.drop_ok {j : ℕ} {h : MessageId}
    (hd : RwLockReadGuard.drop j h env st = .ok st') :
    h = env.msgId ∧ ∃ rw, st'.statics = st.statics.setRwLock j rw ∧
      rw.readers = (st.statics.rwlocks j).readers - 1 ∧
      (rw.locked = none ∨ rw.locked = (st.statics.rwlocks j).locked) := by
  by_cases hh : h = env.msgId
  · refine ⟨hh, ?_⟩
    simp only [RwLockReadGuard.drop, ensureAccessByHolder, hh, if_true, Except.ok_bind] at hd
    split at hd
    · -- the last reader: the lock is free and the next waiter woken
      obtain ⟨q, hq⟩ := wakeNextRwLock_ok hd
      exact ⟨⟨none, (st.statics.rwlocks j).readers - 1, q⟩,
        by simp [hq, Statics.setRwLock, Function.update_idem], rfl, .inl rfl⟩
    · cases hd
      exact ⟨_, rfl, rfl, .inr rfl⟩
  · simp [RwLockReadGuard.drop, ensureAccessByHolder, hh] at hd

/-- An `RwLockWriteGuard` drop, by its holder and of the lock it holds, frees
the lock. -/
theorem RwLockWriteGuard.drop_ok {j : ℕ} {h : MessageId}
    (hd : RwLockWriteGuard.drop j h env st = .ok st') :
    h = env.msgId ∧ (st.statics.rwlocks j).locked = some h ∧
      ∃ q, st'.statics = st.statics.setRwLock j
        { st.statics.rwlocks j with locked := none, queue := q } := by
  by_cases hh : h = env.msgId
  · subst hh
    simp only [RwLockWriteGuard.drop, ensureAccessByHolder, if_true, Except.ok_bind] at hd
    split at hd
    · cases hd
    · rename_i o ho
      split at hd
      · cases hd
      · rename_i hne
        obtain ⟨q, hq⟩ := wakeNextRwLock_ok hd
        simp only [ExecState.rwlock_def] at ho
        refine ⟨rfl, by rw [ho, not_not.mp hne], q, ?_⟩
        simp [hq, Statics.setRwLock, Function.update_idem]
  · simp [RwLockWriteGuard.drop, ensureAccessByHolder, hh] at hd

/-- An `RwLockReadGuard` is dropped by its holder only. -/
theorem RwLockReadGuard.drop_not_holder {j : ℕ} {h : MessageId} (hne : h ≠ env.msgId) :
    RwLockReadGuard.drop j h env st = .error (.guardAccessedByOther h env.msgId) := by
  simp [RwLockReadGuard.drop, ensureAccessByHolder, hne]

/-- An `RwLockWriteGuard` is dropped by its holder only. -/
theorem RwLockWriteGuard.drop_not_holder {j : ℕ} {h : MessageId} (hne : h ≠ env.msgId) :
    RwLockWriteGuard.drop j h env st = .error (.guardAccessedByOther h env.msgId) := by
  simp [RwLockWriteGuard.drop, ensureAccessByHolder, hne]

/-- No drop touches the `FUTURES` map. -/
theorem Guard.drop_futures {g : Guard} (hd : g.drop env st = .ok st') :
    st'.statics.futures = st.statics.futures := by
  cases g with
  | mutex i h =>
    rcases MutexGuard.drop_ok hd with ⟨d, q, -, hs⟩ | ⟨-, -, hs⟩ <;> rw [hs]
    rfl
  | read j h =>
    obtain ⟨-, rw, hs, -⟩ := RwLockReadGuard.drop_ok hd
    rw [hs]
    rfl
  | write j h =>
    obtain ⟨-, -, q, hs⟩ := RwLockWriteGuard.drop_ok hd
    rw [hs]
    rfl

theorem dropGuards_futures {gs : List Guard} (hd : dropGuards env gs st = .ok st') :
    st'.statics.futures = st.statics.futures := by
  induction gs generalizing st with
  | nil =>
    cases hd
    rfl
  | cons g gs ih =>
    obtain ⟨st1, h1, h2⟩ := Except.bind_eq_ok.mp hd
    rw [ih h2, Guard.drop_futures h1]

/-- The read poll: a reader more when the lock has no writer and room for a
reader, otherwise `Pending` with the message queued. -/
theorem RwLockReadFuture.poll_cases (j : ℕ) (env : Env) (st : ExecState) :
    ((st.statics.rwlocks j).locked = none ∧ (st.statics.rwlocks j).readers + 1 ≤ readersLimit ∧
      RwLockReadFuture.poll j env st = (some (.read j env.msgId),
        st.setRwLock j { st.statics.rwlocks j with readers := (st.statics.rwlocks j).readers + 1 })) ∨
    ∃ q, RwLockReadFuture.poll j env st =
      (none, st.setRwLock j { st.statics.rwlocks j with queue := q }) := by
  by_cases hc : (st.statics.rwlocks j).locked = none ∧
      min ((st.statics.rwlocks j).readers + 1) readersCountMax ≤ readersLimit
  · have hle : (st.statics.rwlocks j).readers + 1 ≤ readersLimit := by
      simp only [readersCountMax, readersLimit] at hc ⊢
      omega
    have hmin : min ((st.statics.rwlocks j).readers + 1) readersCountMax =
        (st.statics.rwlocks j).readers + 1 := by
      simp only [readersCountMax, readersLimit] at hle ⊢
      omega
    left
    refine ⟨hc.1, hle, ?_⟩
    simp only [RwLockReadFuture.poll, ExecState.rwlock_def, hc.1, hmin, hle, and_self, if_true]
  · right
    simp only [RwLockReadFuture.poll, ExecState.rwlock_def, hc, if_false]
    exact ⟨_, rfl⟩

/-- The write poll: the lock is the message's when it is free of writers and
readers, otherwise `Pending` with the message queued. -/
theorem RwLockWriteFuture.poll_cases (j : ℕ) (env : Env) (st : ExecState) :
    ((st.statics.rwlocks j).locked = none ∧ (st.statics.rwlocks j).readers = 0 ∧
      RwLockWriteFuture.poll j env st = (some (.write j env.msgId),
        st.setRwLock j { st.statics.rwlocks j with locked := some env.msgId })) ∨
    ∃ q, RwLockWriteFuture.poll j env st =
      (none, st.setRwLock j { st.statics.rwlocks j with queue := q }) := by
  by_cases hc : (st.statics.rwlocks j).locked = none ∧ (st.statics.rwlocks j).readers = 0
  · left
    refine ⟨hc.1, hc.2, ?_⟩
    simp only [RwLockWriteFuture.poll, ExecState.rwlock_def, hc, and_self, if_true]
  · right
    simp only [RwLockWriteFuture.poll, ExecState.rwlock_def, hc, if_false]
    exact ⟨_, rfl⟩

/-- `s₁` is `s` after the owner of the `i`-th mutex was ousted: the owner's
task, if it has one, is marked `lock_exceeded`. -/
def Ousted (s s₁ : Statics) (i : ℕ) : Prop :=
  ∃ o d, (s.mutexes i).locked = some (o, d) ∧
    (s.futures.lookup o = none ∧ s₁ = s ∨
      ∃ t, s.futures.lookup o = some t ∧ s₁ = s.setTask o { t with lockExceeded := true })

theorem MutexLockFuture.oustOwner_ok {o : MessageId} (h : MutexLockFuture.oustOwner o st = .ok st') :
    st'.statics = st.statics ∧ st.statics.futures.lookup o = none ∨
      ∃ t, st.statics.futures.lookup o = some t ∧
        st'.statics = st.statics.setTask o { t with lockExceeded := true } := by
  unfold MutexLockFuture.oustOwner at h
  split at h
  · rename_i t ht
    exact .inr ⟨t, ht, by simpa using wake_statics h⟩
  · rename_i ht
    cases h
    exact .inl ⟨rfl, ht⟩

/-- `MutexLockFuture::poll`: `Pending` with only the queue changed; or an
ousting, after which the mutex is free (`Pending`) or the message's (`Ready`);
or, on a free mutex, `Ready` with the message the owner. -/
theorem MutexLockFuture.poll_ok {f : MutexLockFuture} {r : Option Guard}
    (h : f.poll env st = .ok (r, st')) :
    (r = none ∧ ∃ q, st'.statics =
      st.statics.setMutex f.mutexId { st.statics.mutexes f.mutexId with queue := q }) ∨
    (∃ s₁, Ousted st.statics s₁ f.mutexId ∧
      ((r = none ∧ ∃ q, st'.statics = s₁.setMutex f.mutexId ⟨none, q⟩) ∨
       (r = some (.mutex f.mutexId env.msgId) ∧
         ∃ d q, st'.statics = s₁.setMutex f.mutexId ⟨some (env.msgId, d), q⟩))) ∨
    ((st.statics.mutexes f.mutexId).locked = none ∧ r = some (.mutex f.mutexId env.msgId) ∧
      ∃ d, st'.statics = st.statics.setMutex f.mutexId
        { st.statics.mutexes f.mutexId with locked := some (env.msgId, d) }) := by
  unfold MutexLockFuture.poll at h
  split at h
  · -- a free mutex
    rename_i hl
    cases h
    exact .inr (.inr ⟨hl, rfl, _, rfl⟩)
  · rename_i o d hl
    split at h
    · -- the owner's time is not over: queued
      cases h
      exact .inl ⟨rfl, _, rfl⟩
    · right; left
      obtain ⟨st₁, h₁, h₂⟩ := Except.bind_eq_ok.mp h
      have hous : Ousted st.statics st₁.statics f.mutexId := by
        rcases MutexLockFuture.oustOwner_ok h₁ with ⟨hs, hn⟩ | ⟨t, ht, hs⟩
        · exact ⟨o, d, hl, .inl ⟨hn, hs⟩⟩
        · exact ⟨o, d, hl, .inr ⟨t, ht, hs⟩⟩
      refine ⟨st₁.statics, hous, ?_⟩
      unfold MutexLockFuture.handOver at h₂
      split at h₂
      · -- a rival is woken, the mutex left free
        rename_i next rest _
        obtain ⟨st₂, h₃, h₄⟩ := Except.bind_eq_ok.mp h₂
        cases h₄
        refine .inl ⟨rfl, enqueueIfAbsent rest env.msgId, ?_⟩
        simp [wake_statics h₃, Statics.setMutex, Function.update_idem]
      · -- no rival before the current message: it owns the mutex
        rename_i rest _
        cases h₂
        refine .inr ⟨rfl, min (env.blockHeight + f.ownUpFor.getD st₁.statics.mxLockDuration)
          blockNumberMax, rest, ?_⟩
        simp [Statics.setMutex, Function.update_idem]

end Gear.Sync
