import Gear.Waitlist.Waiting

/-!
# The timers of a wait outlive it

`wake_dispatch` deletes the `RemoveFromWaitlist` task of the wait it ends, so
such a task always belongs to its message's current wait and ends it only at
its own expected block (`RemoveTasksCurrent`). It deletes no `WakeMessage`
task: the one `wait_for` scheduled stays in the pool when the message is woken
early, no event but running it takes it out (`run_keeps_wakeMessage`), and
when it runs it wakes the message from whatever wait the message is in then
(`runTask_wakeMessage_ends_wait`). So a message woken early that waits again,
even with a plain `wait`, is woken at the old timer's block
(`leftover_wake_task_ends_later_wait`).
-/

namespace Gear.Waitlist

namespace State

variable (c : CostsPerBlock)

theorem wakeDispatch_eq_some {s s' : State} {p m : ℕ} :
    s.wakeDispatch p m = some s' ↔ ∃ i, s.waitlist.lookup (p, m) = some i ∧
      { s with
        waitlist := s.waitlist.erase (p, m)
        taskPool := s.taskPool.erase (i.finish, .removeFromWaitlist p m) } = s' := by
  unfold wakeDispatch
  split <;> simp_all

/-- `wake_dispatch` takes no `WakeMessage` task out of the pool. -/
theorem wakeDispatch_keeps_wakeMessage {s s' : State} {p m bn p' m' : ℕ}
    (h : s.wakeDispatch p m = some s') (ht : (bn, .wakeMessage p' m') ∈ s.taskPool) :
    (bn, .wakeMessage p' m') ∈ s'.taskPool := by
  obtain ⟨i, -, rfl⟩ := wakeDispatch_eq_some.mp h
  exact Finset.mem_erase.mpr ⟨by simp, ht⟩

theorem wakeAndQueue_keeps_wakeMessage {s : State} {p m bn p' m' : ℕ}
    (ht : (bn, .wakeMessage p' m') ∈ s.taskPool) :
    (bn, .wakeMessage p' m') ∈ (s.wakeAndQueue p m).taskPool := by
  unfold wakeAndQueue
  split
  next s' h =>
    have hs' := wakeDispatch_keeps_wakeMessage h ht
    exact hs'
  next => exact ht

/-- The task a wait schedules is added to the pool. -/
theorem scheduleWaitTask_subset {pool pool' : Finset (ℕ × ScheduledTask)} {e p m : ℕ}
    {reason : MessageWaitedReason} (h : scheduleWaitTask pool e p m reason = some pool') :
    pool ⊆ pool' := by
  cases reason <;> simp only [scheduleWaitTask] at h <;> (try split at h) <;> cases h <;>
    first | exact Finset.Subset.refl _ | exact Finset.subset_insert _ _

/-- `wait_dispatch`, when it returns: a hold of some block, the task scheduled,
and the message in the waitlist with its interval. -/
theorem waitDispatch_eq_some {s s' : State} {p m : ℕ} {d : Option ℕ}
    {reason : MessageWaitedReason} {g : ℕ} (h : s.waitDispatch c p m d reason g = some s') :
    (waitHold c s.now g d).expectedDuration s.now ≠ 0 ∧ (p, m) ∉ s.waitlist ∧
      scheduleWaitTask s.taskPool (waitHold c s.now g d).expected p m reason = some s'.taskPool ∧
      s'.waitlist = s.waitlist.insert (p, m) ⟨s.now, (waitHold c s.now g d).expected⟩ ∧
      s'.now = s.now ∧ s'.queue = s.queue := by
  simp only [waitDispatch] at h
  split at h
  · cases h
  next hpos =>
    split at h
    · cases h
    next pool hpool =>
      split at h
      · cases h
      next hnot =>
        cases h
        exact ⟨hpos, hnot, hpool, rfl, rfl, rfl⟩

/-- `wait_dispatch` only adds tasks. -/
theorem waitDispatch_taskPool_subset {s s' : State} {p m : ℕ} {d : Option ℕ}
    {reason : MessageWaitedReason} {g : ℕ} (h : s.waitDispatch c p m d reason g = some s') :
    s.taskPool ⊆ s'.taskPool :=
  scheduleWaitTask_subset (waitDispatch_eq_some c h).2.2.1

/-- A `wake` keeps every `WakeMessage` task. -/
theorem wakeMessage_keeps_wakeMessage {s : State} {p m delay bn p' m' : ℕ}
    (ht : (bn, .wakeMessage p' m') ∈ s.taskPool) :
    (bn, .wakeMessage p' m') ∈ (s.wakeMessage p m delay).taskPool := by
  unfold wakeMessage
  split
  · exact wakeAndQueue_keeps_wakeMessage ht
  split
  · dsimp only
    split
    · exact ht
    · exact Finset.mem_insert_of_mem ht
  · exact ht

/-- A `WakeMessage` task leaves the pool only by running. -/
theorem step_keeps_wakeMessage {s s' : State} {e : Event} {bn p m : ℕ}
    (ht : (bn, .wakeMessage p m) ∈ s.taskPool) (h : s.step c e = some s')
    (he : e ≠ .runTask bn (.wakeMessage p m)) : (bn, .wakeMessage p m) ∈ s'.taskPool := by
  cases e with
  | waitDispatch p' m' d reason g => exact waitDispatch_taskPool_subset c h ht
  | wake p' m' delay =>
    cases h
    exact wakeMessage_keeps_wakeMessage ht
  | runTask bn' task =>
    simp only [step, runTask] at h
    split at h
    · -- the task run is another one, so ours is still drained-free
      have hne : (bn', task) ≠ (bn, .wakeMessage p m) := fun heq => by
        cases heq
        exact he rfl
      have ht' : (bn, .wakeMessage p m) ∈ s.taskPool.erase (bn', task) :=
        Finset.mem_erase.mpr ⟨hne.symm, ht⟩
      cases task with
      | wakeMessage p'' m'' =>
        cases h
        exact wakeAndQueue_keeps_wakeMessage ht'
      | removeFromWaitlist p'' m'' => exact wakeDispatch_keeps_wakeMessage h ht'
    · cases h
  | nextBlock =>
    cases h
    exact ht

theorem run_cons_eq_some {s s' : State} {e : Event} {es : List Event} :
    s.run c (e :: es) = some s' ↔ ∃ s₁, s.step c e = some s₁ ∧ s₁.run c es = some s' := by
  simp [run, Option.bind_eq_some_iff]

/-- Over a run that does not run it, a `WakeMessage` task stays in the pool. -/
theorem run_keeps_wakeMessage {s s' : State} {es : List Event} {bn p m : ℕ}
    (ht : (bn, .wakeMessage p m) ∈ s.taskPool) (h : s.run c es = some s')
    (hes : ∀ e ∈ es, e ≠ .runTask bn (.wakeMessage p m)) : (bn, .wakeMessage p m) ∈ s'.taskPool := by
  induction es generalizing s with
  | nil =>
    cases h
    exact ht
  | cons e es ih =>
    obtain ⟨s₁, h₁, h₂⟩ := (run_cons_eq_some c).mp h
    exact ih (step_keeps_wakeMessage c ht h₁ (hes e List.mem_cons_self)) h₂
      fun e' he' => hes e' (List.mem_cons_of_mem _ he')

/-- A due `WakeMessage` task wakes its message from whatever wait it is in, and
queues it. -/
theorem runTask_wakeMessage_ends_wait {s : State} {bn p m : ℕ}
    (ht : (bn, .wakeMessage p m) ∈ s.taskPool) (hdue : bn ≤ s.now) (hin : (p, m) ∈ s.waitlist) :
    ∃ s', s.runTask bn (.wakeMessage p m) = some s' ∧ (p, m) ∉ s'.waitlist ∧
      s'.queue = s.queue ++ [(p, m)] := by
  obtain ⟨i, hi⟩ := Option.isSome_iff_exists.mp (AList.lookup_isSome.mpr hin)
  refine ⟨_, by simp only [runTask, hdue, ht, and_self, if_true]; rfl, ?_, ?_⟩ <;>
  · simp [wakeMessageTask, wakeAndQueue, wakeDispatch, hi]

/-- `wait_for` schedules a `WakeMessage` task at its hold's expected block and
puts the message in the waitlist. -/
theorem waitDispatch_waitFor {s s₁ : State} {p m d g : ℕ}
    (h : s.waitDispatch c p m (some d) .waitForCalled g = some s₁) :
    ((waitHold c s.now g (some d)).expected, .wakeMessage p m) ∈ s₁.taskPool ∧
      s₁.waitlist.lookup (p, m) = some ⟨s.now, (waitHold c s.now g (some d)).expected⟩ ∧
      s₁.now = s.now := by
  obtain ⟨-, -, hpool, hwl, hnow, -⟩ := waitDispatch_eq_some c h
  simp only [scheduleWaitTask, Option.some.injEq] at hpool
  refine ⟨?_, by simp [hwl], hnow⟩
  rw [← hpool]
  split
  · assumption
  · exact Finset.mem_insert_self _ _

/-- A message in the waitlist that calls wait with `wait_for(d)`, is woken by a
`wake` without delay, and is in the waitlist again later, in whatever wait, is
woken from it and queued by the old wait's `WakeMessage` task at that wait's
expected block, unless that task ran in between. -/
theorem leftover_wake_task_ends_later_wait (s s₁ t : State) (p m d g : ℕ) (es : List Event)
    (hwait : s.waitDispatch c p m (some d) .waitForCalled g = some s₁)
    (hrun : (s₁.wakeMessage p m 0).run c es = some t)
    (hes : ∀ e ∈ es, e ≠ .runTask (waitHold c s.now g (some d)).expected (.wakeMessage p m))
    (hin : (p, m) ∈ t.waitlist) (hdue : (waitHold c s.now g (some d)).expected ≤ t.now) :
    (p, m) ∉ (s₁.wakeMessage p m 0).waitlist ∧
    ∃ t', t.runTask (waitHold c s.now g (some d)).expected (.wakeMessage p m) = some t' ∧
      (p, m) ∉ t'.waitlist ∧ t'.queue = t.queue ++ [(p, m)] := by
  obtain ⟨ht, hlook, -⟩ := waitDispatch_waitFor c hwait
  -- the early wake ends the first wait and leaves its timer
  have hwoken : (p, m) ∉ (s₁.wakeMessage p m 0).waitlist := by
    simp [wakeMessage, wakeAndQueue, wakeDispatch, hlook]
  have ht₁ : (_, ScheduledTask.wakeMessage p m) ∈ (s₁.wakeMessage p m 0).taskPool :=
    wakeMessage_keeps_wakeMessage ht
  exact ⟨hwoken, runTask_wakeMessage_ends_wait (run_keeps_wakeMessage c ht₁ hrun hes) hdue hin⟩

/-- Running `wait_for(10)` with a gas limit of 100 at a waitlist rent of 1 and
no `reserve_for`, message 2 of program 1 is woken at once by a `wake`, then
calls plain `wait`, whose hold runs to block 100. At block 10 the first
wait's `WakeMessage` task takes it out of the waitlist. -/
theorem leftover_wake_task_ends_plain_wait : ∃ s₁ t t',
    (⟨0, ∅, ∅, []⟩ : State).waitDispatch ⟨1, 0⟩ 1 2 (some 10) .waitForCalled 100 = some s₁ ∧
    (s₁.wakeMessage 1 2 0).run ⟨1, 0⟩
      (.waitDispatch 1 2 none .waitCalled 100 :: List.replicate 10 .nextBlock) = some t ∧
    t.waitlist.lookup (1, 2) = some ⟨0, 100⟩ ∧ t.now = 10 ∧
    t.runTask 10 (.wakeMessage 1 2) = some t' ∧ (1, 2) ∉ t'.waitlist := by
  obtain ⟨s₁, h₁⟩ : ∃ s₁,
      (⟨0, ∅, ∅, []⟩ : State).waitDispatch ⟨1, 0⟩ 1 2 (some 10) .waitForCalled 100 = some s₁ :=
    ⟨_, rfl⟩
  obtain ⟨t, h₂, hlook, hnow⟩ : ∃ t,
      (((⟨0, ∅, ∅, []⟩ : State).waitDispatch ⟨1, 0⟩ 1 2 (some 10) .waitForCalled 100).bind
        fun s₁ => (s₁.wakeMessage 1 2 0).run ⟨1, 0⟩
          (.waitDispatch 1 2 none .waitCalled 100 :: List.replicate 10 .nextBlock)) = some t ∧
      t.waitlist.lookup (1, 2) = some ⟨0, 100⟩ ∧ t.now = 10 := ⟨_, rfl, rfl, rfl⟩
  rw [h₁, Option.bind_some] at h₂
  obtain ⟨-, t', hrun, hout, -⟩ := leftover_wake_task_ends_later_wait ⟨1, 0⟩ _ s₁ t 1 2 10 100 _
    h₁ h₂ (by decide) (AList.lookup_isSome.mp (by rw [hlook]; rfl)) (by rw [hnow]; decide)
  exact ⟨s₁, t, t', h₁, h₂, hlook, hnow, hrun, hout⟩

/-! ## `RemoveFromWaitlist` tasks belong to the current wait -/

/-- Every `RemoveFromWaitlist` task of the pool is at the expected block of its
message's wait. -/
def RemoveTasksCurrent (s : State) : Prop :=
  ∀ bn p m, (bn, .removeFromWaitlist p m) ∈ s.taskPool →
    ∃ i, s.waitlist.lookup (p, m) = some i ∧ i.finish = bn

theorem RemoveTasksCurrent.wakeDispatch {s s' : State} {p m : ℕ} (hs : s.RemoveTasksCurrent)
    (h : s.wakeDispatch p m = some s') : s'.RemoveTasksCurrent := by
  obtain ⟨i, hi, rfl⟩ := wakeDispatch_eq_some.mp h
  intro bn p' m' hmem
  obtain ⟨hne, hmem⟩ := Finset.mem_erase.mp hmem
  obtain ⟨i', hi', hfin⟩ := hs bn p' m' hmem
  by_cases hk : (p', m') = (p, m)
  · -- the task of the wait that ended is the one deleted
    obtain ⟨rfl, rfl⟩ := Prod.mk.inj hk
    rw [hi, Option.some.injEq] at hi'
    subst hi'
    exact absurd (by rw [hfin]) hne
  · exact ⟨i', by rw [AList.lookup_erase_ne hk]; exact hi', hfin⟩

theorem RemoveTasksCurrent.wakeAndQueue {s : State} {p m : ℕ} (hs : s.RemoveTasksCurrent) :
    (s.wakeAndQueue p m).RemoveTasksCurrent := by
  unfold State.wakeAndQueue
  split
  next s' h =>
    have hs' := hs.wakeDispatch h
    exact hs'
  next => exact hs

/-- A task a wait schedules is new, or was there. -/
theorem mem_scheduleWaitTask {pool pool' : Finset (ℕ × ScheduledTask)} {e p m bn p' m' : ℕ}
    {reason : MessageWaitedReason} (h : scheduleWaitTask pool e p m reason = some pool')
    (hmem : (bn, .removeFromWaitlist p' m') ∈ pool') :
    (bn, .removeFromWaitlist p' m') ∈ pool ∨ (bn = e ∧ p' = p ∧ m' = m) := by
  cases reason <;> simp only [scheduleWaitTask] at h <;> (try split at h) <;> cases h <;>
    simp_all <;> exact hmem.symm

theorem RemoveTasksCurrent.waitDispatch {s s' : State} {p m : ℕ} {d : Option ℕ}
    {reason : MessageWaitedReason} {g : ℕ} (hs : s.RemoveTasksCurrent)
    (h : s.waitDispatch c p m d reason g = some s') : s'.RemoveTasksCurrent := by
  obtain ⟨-, hnot, hpool, hwl, -, -⟩ := waitDispatch_eq_some c h
  intro bn p' m' hmem
  rw [hwl]
  -- the task is the one scheduled now, or an older one, of another message
  rcases mem_scheduleWaitTask hpool hmem with hold | ⟨rfl, rfl, rfl⟩
  · obtain ⟨i, hi, hfin⟩ := hs bn p' m' hold
    have hk : (p', m') ≠ (p, m) := fun hk =>
      hnot (hk ▸ AList.lookup_isSome.mp (by rw [hi]; rfl))
    exact ⟨i, by rw [AList.lookup_insert_ne hk]; exact hi, hfin⟩
  · exact ⟨_, AList.lookup_insert _, rfl⟩

theorem RemoveTasksCurrent.wakeMessage {s : State} {p m delay : ℕ} (hs : s.RemoveTasksCurrent) :
    (s.wakeMessage p m delay).RemoveTasksCurrent := by
  unfold State.wakeMessage
  split
  · exact hs.wakeAndQueue
  split
  · dsimp only
    split
    · exact hs
    · intro bn p' m' hmem
      rcases Finset.mem_insert.mp hmem with h | h
      · cases h
      · exact hs bn p' m' h
  · exact hs

theorem RemoveTasksCurrent.runTask {s s' : State} {bn : ℕ} {task : ScheduledTask}
    (hs : s.RemoveTasksCurrent) (h : s.runTask bn task = some s') : s'.RemoveTasksCurrent := by
  simp only [State.runTask] at h
  split at h
  · have hs' : RemoveTasksCurrent { s with taskPool := s.taskPool.erase (bn, task) } :=
      fun bn' p' m' hmem => hs bn' p' m' (Finset.mem_of_mem_erase hmem)
    cases task with
    | wakeMessage p m =>
      cases h
      exact hs'.wakeAndQueue
    | removeFromWaitlist p m => exact hs'.wakeDispatch h
  · cases h

theorem RemoveTasksCurrent.step {s s' : State} {e : Event} (hs : s.RemoveTasksCurrent)
    (h : s.step c e = some s') : s'.RemoveTasksCurrent := by
  cases e with
  | waitDispatch p m d reason g => exact hs.waitDispatch c h
  | wake p m delay =>
    cases h
    exact hs.wakeMessage
  | runTask bn task => exact hs.runTask h
  | nextBlock =>
    cases h
    exact hs

theorem RemoveTasksCurrent.run {s s' : State} {es : List Event} (hs : s.RemoveTasksCurrent)
    (h : s.run c es = some s') : s'.RemoveTasksCurrent := by
  induction es generalizing s with
  | nil =>
    cases h
    exact hs
  | cons e es ih =>
    obtain ⟨s₁, h₁, h₂⟩ := (run_cons_eq_some c).mp h
    exact ih (hs.step c h₁) h₂

/-- Over any run from storage where it holds, a `RemoveFromWaitlist` task that
runs ends the wait it was scheduled for, at that wait's expected block. -/
theorem run_removeFromWaitlist_own_wait {s t t' : State} {es : List Event} {bn p m : ℕ}
    (hs : s.RemoveTasksCurrent) (h : s.run c es = some t)
    (ht : t.runTask bn (.removeFromWaitlist p m) = some t') :
    ∃ i, t.waitlist.lookup (p, m) = some i ∧ i.finish = bn := by
  simp only [State.runTask] at ht
  split at ht
  next hdue => exact hs.run c h bn p m hdue.2
  next => cases ht

end State

end Gear.Waitlist
