import Gear.Sync.Spec
import Gear.Lib.AListSum

/-!
# Exclusion of gstd's locks over every run

A guard is held by a message while it sits in the message's task. `LockInv`
says how the locks' static state counts the guards:

* every guard in a task is held by the task's message;
* a message whose task is not marked `lock_exceeded` and holds a guard of a
  mutex owns the mutex, and holds one guard of it; the owner of a mutex holds
  a guard of it;
* the writer of an rwlock holds its one write guard, and there is no reader;
  `readers` is the number of read guards, at most `READERS_LIMIT`.

It holds of a new program and every step of a run keeps it
(`reachable_lockInv`): an execution's polls and drops one by one, a trap
because nothing static changes, and a `handle_signal` run because it drops
the trapped message's guards as that message would. Mutual exclusion follows
(`locks_exclusive`).

The drops of a future being dropped are followed with the guards still
counted in the task (`LockInv (s.setTask m ⟨ex, gs⟩)` with the guards `gs`
not yet dropped), since the source removes the task from `FUTURES` first.
-/

namespace Gear.Sync

namespace Statics

/-- The read guards of the `j`-th rwlock, over all tasks. -/
def readGuards (s : Statics) (j : ℕ) : ℕ :=
  s.futures.sumBy fun m t => t.guards.count (.read j m)

/-- No message whose task is not marked `lock_exceeded` holds a guard of the
`i`-th mutex. -/
def NoActiveHolder (s : Statics) (i : ℕ) : Prop :=
  ∀ m, s.exceeded m = false → (s.guardsOf m).count (.mutex i m) = 0

@[simp] theorem readGuards_setMutex (s : Statics) (i : ℕ) (mx : Mutex) :
    (s.setMutex i mx).readGuards = s.readGuards := rfl

@[simp] theorem readGuards_setRwLock (s : Statics) (j : ℕ) (rw : RwLock) :
    (s.setRwLock j rw).readGuards = s.readGuards := rfl

/-- A message's read guards counted apart from the others'. -/
theorem readGuards_eq_erase (s : Statics) (c : MessageId) (j : ℕ) :
    s.readGuards j = (s.futures.erase c).sumBy (fun m t => t.guards.count (.read j m)) +
      (s.guardsOf c).count (.read j c) := by
  cases h : s.futures.lookup c with
  | none =>
    rw [guardsOf_of_lookup_eq_none h, AList.erase_of_lookup_eq_none h]
    rfl
  | some t =>
    rw [guardsOf_of_lookup h]
    exact AList.sumBy_erase_add _ h

theorem readGuards_setTask (s : Statics) (c : MessageId) (t : Task) (j : ℕ) :
    (s.setTask c t).readGuards j = (s.futures.erase c).sumBy (fun m t => t.guards.count (.read j m)) +
      t.guards.count (.read j c) :=
  AList.sumBy_insert _ _ _ _

theorem readGuards_eraseTask (s : Statics) (c : MessageId) (j : ℕ) :
    (s.eraseTask c).readGuards j = (s.futures.erase c).sumBy (fun m t => t.guards.count (.read j m)) :=
  rfl

theorem readGuards_setGuards (s : Statics) (c : MessageId) (gs : List Guard) (j : ℕ) :
    (s.setGuards c gs).readGuards j =
      (s.futures.erase c).sumBy (fun m t => t.guards.count (.read j m)) + gs.count (.read j c) :=
  readGuards_setTask _ _ _ _

end Statics

open Statics

/-- The invariant of the locks' static state (module doc). -/
structure LockInv (s : Statics) : Prop where
  holder : ∀ m, ∀ g ∈ s.guardsOf m, g.holderMsgId = m
  mutex_owner : ∀ i m, s.exceeded m = false → 0 < (s.guardsOf m).count (.mutex i m) →
    ∃ d, (s.mutexes i).locked = some (m, d)
  mutex_single : ∀ i m, s.exceeded m = false → (s.guardsOf m).count (.mutex i m) ≤ 1
  mutex_held : ∀ i o d, (s.mutexes i).locked = some (o, d) →
    0 < (s.guardsOf o).count (.mutex i o)
  write_count : ∀ j m,
    (s.guardsOf m).count (.write j m) = if (s.rwlocks j).locked = some m then 1 else 0
  writer_alone : ∀ j, (s.rwlocks j).locked ≠ none → (s.rwlocks j).readers = 0
  readers : ∀ j, (s.rwlocks j).readers = s.readGuards j
  readers_le : ∀ j, (s.rwlocks j).readers ≤ readersLimit

namespace LockInv

variable {s s' : Statics}

/-- The invariant reads each task's guards up to order, the marks only of
tasks that hold guards, the read guards only through their number, and of the
locks only owners and reader counts. -/
theorem congr (h : LockInv s) (hg : ∀ m, (s'.guardsOf m).Perm (s.guardsOf m))
    (he : ∀ m, s'.exceeded m = false → s'.guardsOf m ≠ [] → s.exceeded m = false)
    (hr : ∀ j, s'.readGuards j = s.readGuards j)
    (hmx : ∀ i, (s'.mutexes i).locked = (s.mutexes i).locked)
    (hrw : ∀ j, (s'.rwlocks j).locked = (s.rwlocks j).locked ∧
      (s'.rwlocks j).readers = (s.rwlocks j).readers) : LockInv s' where
  holder m g hg' := h.holder m g ((hg m).mem_iff.mp hg')
  mutex_owner i m hex hpos := by
    have hne : s'.guardsOf m ≠ [] := fun h0 => by simp [h0] at hpos
    rw [(hg m).count_eq] at hpos
    rw [hmx]
    exact h.mutex_owner i m (he m hex hne) hpos
  mutex_single i m hex := by
    by_cases h0 : s'.guardsOf m = []
    · simp [h0]
    · rw [(hg m).count_eq]
      exact h.mutex_single i m (he m hex h0)
  mutex_held i o d hl := by
    rw [(hg o).count_eq]
    exact h.mutex_held i o d (by rw [← hmx]; exact hl)
  write_count j m := by
    rw [(hg m).count_eq, (hrw j).1]
    exact h.write_count j m
  writer_alone j hl := by
    rw [(hrw j).2]
    exact h.writer_alone j (by rw [← (hrw j).1]; exact hl)
  readers j := by rw [(hrw j).2, hr]; exact h.readers j
  readers_le j := by rw [(hrw j).2]; exact h.readers_le j

theorem setMutex_queue (h : LockInv s) (i : ℕ) (q : List MessageId) :
    LockInv (s.setMutex i { s.mutexes i with queue := q }) :=
  h.congr (fun _ => by simp) (fun _ hex _ => by simpa using hex) (fun _ => rfl)
    (fun i' => by by_cases hi : i' = i <;> simp [hi]) (fun _ => by simp)

theorem setRwLock_queue (h : LockInv s) (j : ℕ) (q : List MessageId) :
    LockInv (s.setRwLock j { s.rwlocks j with queue := q }) :=
  h.congr (fun _ => by simp) (fun _ hex _ => by simpa using hex) (fun _ => rfl)
    (fun _ => by simp) (fun j' => by by_cases hj : j' = j <;> simp [hj])

/-- Marking a task `lock_exceeded` only weakens what is asked of it. -/
theorem mark (h : LockInv s) {o : MessageId} {t : Task} (ht : s.futures.lookup o = some t) :
    LockInv (s.setTask o { t with lockExceeded := true }) := by
  refine h.congr (fun m => ?_) (fun m hex _ => ?_) (fun j => ?_) (fun _ => rfl)
    (fun _ => ⟨rfl, rfl⟩)
  · by_cases hm : m = o
    · subst hm; simp [guardsOf_of_lookup ht]
    · simp [hm]
  · by_cases hm : m = o
    · subst hm; simp at hex
    · simpa [hm] using hex
  · rw [readGuards_setTask, readGuards_eq_erase s o, guardsOf_of_lookup ht]

/-- A new task holds nothing. -/
theorem newTask (h : LockInv s) {c : MessageId} (hc : s.futures.lookup c = none) :
    LockInv (s.setTask c Task.new) := by
  refine h.congr (fun m => ?_) (fun m hex _ => ?_) (fun j => ?_) (fun _ => rfl)
    (fun _ => ⟨rfl, rfl⟩)
  · by_cases hm : m = c
    · subst hm; simp [Task.new, guardsOf_of_lookup_eq_none hc]
    · simp [hm]
  · by_cases hm : m = c
    · subst hm; simp [exceeded, hc]
    · simpa [hm] using hex
  · rw [readGuards_setTask, readGuards_eq_erase s c, guardsOf_of_lookup_eq_none hc]
    rfl

/-- A task that holds no guard can go. -/
theorem eraseTask (h : LockInv s) {c : MessageId} (hc : s.guardsOf c = []) :
    LockInv (s.eraseTask c) := by
  refine h.congr (fun m => ?_) (fun m hex hne => ?_) (fun j => ?_) (fun _ => rfl)
    (fun _ => ⟨rfl, rfl⟩)
  · by_cases hm : m = c
    · subst hm; simp [hc]
    · simp [hm]
  · by_cases hm : m = c
    · subst hm; simp at hne
    · simpa [hm] using hex
  · rw [readGuards_eraseTask, readGuards_eq_erase s c, hc]
    rfl

/-- A step that changes only the `i`-th mutex and its guards keeps the
invariant once the mutex's own facts hold after it. -/
theorem update_mutex (h : LockInv s) (i : ℕ)
    (hg : ∀ m g, g ≠ .mutex i m → (s'.guardsOf m).count g = (s.guardsOf m).count g)
    (hsub : ∀ m, ∀ g ∈ s'.guardsOf m, g ∈ s.guardsOf m ∨ g = .mutex i m)
    (he : ∀ m, s'.exceeded m = s.exceeded m)
    (hmx : ∀ i', i' ≠ i → s'.mutexes i' = s.mutexes i')
    (hrw : s'.rwlocks = s.rwlocks) (hr : ∀ j, s'.readGuards j = s.readGuards j)
    (howner : ∀ m, s'.exceeded m = false → 0 < (s'.guardsOf m).count (.mutex i m) →
      ∃ d, (s'.mutexes i).locked = some (m, d))
    (hsingle : ∀ m, s'.exceeded m = false → (s'.guardsOf m).count (.mutex i m) ≤ 1)
    (hheld : ∀ o d, (s'.mutexes i).locked = some (o, d) →
      0 < (s'.guardsOf o).count (.mutex i o)) : LockInv s' where
  holder m g hg' := by
    rcases hsub m g hg' with hg' | rfl
    · exact h.holder m g hg'
    · rfl
  mutex_owner i' m hex hpos := by
    by_cases hi : i' = i
    · subst hi; exact howner m hex hpos
    · rw [hg m _ (by simp [hi])] at hpos
      rw [he] at hex
      rw [hmx i' hi]
      exact h.mutex_owner i' m hex hpos
  mutex_single i' m hex := by
    by_cases hi : i' = i
    · subst hi; exact hsingle m hex
    · rw [hg m _ (by simp [hi])]
      exact h.mutex_single i' m (by rw [← he]; exact hex)
  mutex_held i' o d hl := by
    by_cases hi : i' = i
    · subst hi; exact hheld o d hl
    · rw [hg o _ (by simp [hi])]
      exact h.mutex_held i' o d (by rw [← hmx i' hi]; exact hl)
  write_count j m := by
    rw [hg m _ (by simp), hrw]
    exact h.write_count j m
  writer_alone j := by rw [hrw]; exact h.writer_alone j
  readers j := by rw [hrw, hr]; exact h.readers j
  readers_le j := by rw [hrw]; exact h.readers_le j

/-- A step that changes only the `j`-th rwlock and its guards keeps the
invariant once the rwlock's own facts hold after it. -/
theorem update_rwlock (h : LockInv s) (j : ℕ)
    (hg : ∀ m g, g ≠ .read j m → g ≠ .write j m →
      (s'.guardsOf m).count g = (s.guardsOf m).count g)
    (hsub : ∀ m, ∀ g ∈ s'.guardsOf m, g ∈ s.guardsOf m ∨ g = .read j m ∨ g = .write j m)
    (he : ∀ m, s'.exceeded m = s.exceeded m)
    (hmx : s'.mutexes = s.mutexes) (hrw : ∀ j', j' ≠ j → s'.rwlocks j' = s.rwlocks j')
    (hr : ∀ j', j' ≠ j → s'.readGuards j' = s.readGuards j')
    (hwrite : ∀ m, (s'.guardsOf m).count (.write j m) =
      if (s'.rwlocks j).locked = some m then 1 else 0)
    (halone : (s'.rwlocks j).locked ≠ none → (s'.rwlocks j).readers = 0)
    (hreaders : (s'.rwlocks j).readers = s'.readGuards j)
    (hle : (s'.rwlocks j).readers ≤ readersLimit) : LockInv s' where
  holder m g hg' := by
    rcases hsub m g hg' with hg' | rfl | rfl
    · exact h.holder m g hg'
    · rfl
    · rfl
  mutex_owner i m hex hpos := by
    rw [hg m _ (by simp) (by simp)] at hpos
    rw [he] at hex
    rw [hmx]
    exact h.mutex_owner i m hex hpos
  mutex_single i m hex := by
    rw [hg m _ (by simp) (by simp)]
    exact h.mutex_single i m (by rw [← he]; exact hex)
  mutex_held i o d hl := by
    rw [hg o _ (by simp) (by simp)]
    exact h.mutex_held i o d (by rw [← hmx]; exact hl)
  write_count j' m := by
    by_cases hj : j' = j
    · subst hj; exact hwrite m
    · rw [hg m _ (by simp) (by simp [hj]), hrw j' hj]
      exact h.write_count j' m
  writer_alone j' := by
    by_cases hj : j' = j
    · subst hj; exact halone
    · rw [hrw j' hj]; exact h.writer_alone j'
  readers j' := by
    by_cases hj : j' = j
    · subst hj; exact hreaders
    · rw [hrw j' hj, hr j' hj]; exact h.readers j'
  readers_le j' := by
    by_cases hj : j' = j
    · subst hj; exact hle
    · rw [hrw j' hj]; exact h.readers_le j'

/-- After an ousting no unmarked task holds a guard of the mutex: the owner
was the only one, and it is now marked or has no task. -/
theorem ousted (h : LockInv s) {s₁ : Statics} {i : ℕ} (hous : Ousted s s₁ i) :
    LockInv s₁ ∧ s₁.NoActiveHolder i := by
  obtain ⟨o, d, hl, ⟨hn, rfl⟩ | ⟨t, ht, rfl⟩⟩ := hous
  · refine ⟨h, fun m hex => Nat.eq_zero_of_not_pos fun hpos => ?_⟩
    obtain ⟨d', hd'⟩ := h.mutex_owner i m hex hpos
    rw [hl] at hd'
    obtain rfl : o = m := (Prod.mk.inj (Option.some.inj hd')).1
    simp [guardsOf_of_lookup_eq_none hn] at hpos
  · refine ⟨h.mark ht, fun m hex => Nat.eq_zero_of_not_pos fun hpos => ?_⟩
    by_cases hm : m = o
    · subst hm; simp at hex
    · simp only [guardsOf_setTask, exceeded_setTask, hm, if_false] at hex hpos
      obtain ⟨d', hd'⟩ := h.mutex_owner i m hex hpos
      rw [hl] at hd'
      exact hm (Prod.mk.inj (Option.some.inj hd')).1.symm

/-- With no unmarked holder the mutex can be left free. -/
theorem free (h : LockInv s) {i : ℕ} (hna : s.NoActiveHolder i) (q : List MessageId) :
    LockInv (s.setMutex i ⟨none, q⟩) :=
  h.update_mutex i (fun _ _ _ => rfl) (fun _ _ hg => .inl hg) (fun _ => rfl)
    (fun i' hi => by simp [hi]) rfl (fun _ => rfl)
    (fun m hex hpos => by simp [hna m hex] at hpos)
    (fun m hex => by simp [hna m hex])
    (fun o d hl => by simp at hl)

/-- With no unmarked holder, the current message can own the mutex and hold
its guard. -/
theorem acquire (h : LockInv s) {i : ℕ} (hna : s.NoActiveHolder i) (c : MessageId)
    (d : BlockNumber) (q : List MessageId) :
    LockInv ((s.setMutex i ⟨some (c, d), q⟩).setGuards c (.mutex i c :: s.guardsOf c)) := by
  refine h.update_mutex i (fun m g hg => ?_) (fun m g hg => ?_) (fun m => by simp)
    (fun i' hi => by simp [hi]) rfl (fun j => ?_) (fun m hex hpos => ?_) (fun m hex => ?_)
    (fun o d' hl => ?_)
  · by_cases hm : m = c
    · subst hm; simp [Ne.symm hg]
    · simp [hm]
  · by_cases hm : m = c
    · subst hm
      simp only [guardsOf_setGuards, if_true, List.mem_cons] at hg
      exact hg.symm
    · simp only [guardsOf_setGuards, guardsOf_setMutex, hm, if_false] at hg
      exact .inl hg
  · rw [readGuards_setGuards, readGuards_eq_erase s c]
    simp
  · by_cases hm : m = c
    · exact ⟨d, by simp [hm]⟩
    · simp only [guardsOf_setGuards, exceeded_setGuards, exceeded_setMutex, guardsOf_setMutex, hm,
        if_false] at hex hpos
      simp [hna m hex] at hpos
  · simp only [exceeded_setGuards, exceeded_setMutex] at hex
    by_cases hm : m = c
    · subst hm; simp [hna m hex]
    · simp [hm, hna m hex]
  · simp only [setGuards_mutexes, setMutex_mutexes, if_true, Option.some.injEq, Prod.mk.injEq] at hl
    obtain ⟨rfl, -⟩ := hl
    simp

/-- A reader more, on an rwlock without writer and with room for one. -/
theorem read (h : LockInv s) {j : ℕ} (hl : (s.rwlocks j).locked = none)
    (hle : (s.rwlocks j).readers + 1 ≤ readersLimit) (c : MessageId) :
    LockInv ((s.setRwLock j { s.rwlocks j with readers := (s.rwlocks j).readers + 1 }).setGuards c
      (.read j c :: s.guardsOf c)) := by
  refine h.update_rwlock j (fun m g hg _ => ?_) (fun m g hg => ?_) (fun m => by simp) rfl
    (fun j' hj => by simp [hj]) (fun j' hj => ?_) (fun m => ?_) (fun hl' => ?_) ?_ ?_
  · by_cases hm : m = c
    · subst hm; simp [Ne.symm hg]
    · simp [hm]
  · by_cases hm : m = c
    · subst hm
      simp only [guardsOf_setGuards, if_true, List.mem_cons] at hg
      rcases hg with rfl | hg
      · exact .inr (.inl rfl)
      · exact .inl hg
    · simp only [guardsOf_setGuards, guardsOf_setRwLock, hm, if_false] at hg
      exact .inl hg
  · rw [readGuards_setGuards, readGuards_eq_erase s c]
    simp [Ne.symm hj]
  · by_cases hm : m = c
    · subst hm; simp [h.write_count j m, hl]
    · simp [hm, h.write_count j m, hl]
  · simp [hl] at hl'
  · rw [readGuards_setGuards]
    simp [h.readers j, readGuards_eq_erase s c]
    omega
  · simpa using hle

/-- The writer, on an rwlock without writer and readers. -/
theorem write (h : LockInv s) {j : ℕ} (hl : (s.rwlocks j).locked = none)
    (hr0 : (s.rwlocks j).readers = 0) (c : MessageId) :
    LockInv ((s.setRwLock j { s.rwlocks j with locked := some c }).setGuards c
      (.write j c :: s.guardsOf c)) := by
  refine h.update_rwlock j (fun m g _ hg => ?_) (fun m g hg => ?_) (fun m => by simp) rfl
    (fun j' hj => by simp [hj]) (fun j' _ => ?_) (fun m => ?_) (fun _ => by simpa using hr0) ?_
    (by simp [hr0])
  · by_cases hm : m = c
    · subst hm; simp [Ne.symm hg]
    · simp [hm]
  · by_cases hm : m = c
    · subst hm
      simp only [guardsOf_setGuards, if_true, List.mem_cons] at hg
      rcases hg with rfl | hg
      · exact .inr (.inr rfl)
      · exact .inl hg
    · simp only [guardsOf_setGuards, guardsOf_setRwLock, hm, if_false] at hg
      exact .inl hg
  · rw [readGuards_setGuards, readGuards_eq_erase s c]
    simp
  · by_cases hm : m = c
    · subst hm; simp [h.write_count j m, hl]
    · simp [hm, h.write_count j m, hl, Ne.symm hm]
  · have h0 := h.readers j
    rw [hr0, readGuards_eq_erase s c] at h0
    rw [readGuards_setGuards]
    simp [hr0]
    omega

section Drop

/-! A guard being dropped is still counted in the task of its message `m`,
with the guards `rest` that follow it. -/

variable {m : MessageId} {ex : Bool} {rest : List Guard} {env : Env} {st st' : ExecState}

/-- A `MutexGuard` drop: the mutex is released if its holder owned it, and is
left alone otherwise. -/
theorem drop_mutex {i : ℕ} {k : MessageId}
    (h : LockInv (st.statics.setTask m ⟨ex, .mutex i k :: rest⟩))
    (hd : MutexGuard.drop i k env st = .ok st') : LockInv (st'.statics.setTask m ⟨ex, rest⟩) := by
  have hk : k = m := h.holder m (.mutex i k) (by simp)
  subst hk
  have hsub : ∀ m', ∀ g ∈ (st.statics.setTask k ⟨ex, rest⟩).guardsOf m',
      g ∈ (st.statics.setTask k ⟨ex, .mutex i k :: rest⟩).guardsOf m' ∨ g = .mutex i m' := by
    intro m' g hg
    by_cases hm : m' = k
    · subst hm; simp only [guardsOf_setTask, if_true] at hg ⊢; exact .inl (List.mem_cons_of_mem _ hg)
    · simp only [guardsOf_setTask, hm, if_false] at hg ⊢; exact .inl hg
  have hcount : ∀ m' g, g ≠ .mutex i m' → ((st.statics.setTask k ⟨ex, rest⟩).guardsOf m').count g =
      ((st.statics.setTask k ⟨ex, .mutex i k :: rest⟩).guardsOf m').count g := by
    intro m' g hg
    by_cases hm : m' = k
    · subst hm; simp [Ne.symm hg]
    · simp [hm]
  have hsingle : ∀ m', (st.statics.setTask k ⟨ex, rest⟩).exceeded m' = false →
      ((st.statics.setTask k ⟨ex, rest⟩).guardsOf m').count (.mutex i m') ≤ 1 := by
    intro m' hex
    have := h.mutex_single i m' (by simpa using hex)
    by_cases hm : m' = k
    · subst hm; simp at this ⊢; omega
    · simpa [hm] using this
  rcases MutexGuard.drop_ok hd with ⟨d, q, hl, hs⟩ | ⟨hne, -, hs⟩
  · -- the holder owned the mutex: it is free now, and no unmarked task holds a guard of it
    rw [hs]
    refine h.update_mutex i (fun m' g hg => hcount m' g hg) (fun m' g hg => hsub m' g hg)
      (fun _ => by simp) (fun i' hi => by simp [hi]) rfl (fun j => ?_) (fun m' hex hpos => ?_)
      (fun m' hex => hsingle m' (by simpa using hex)) (fun o d' hl' => by simp at hl')
    · rw [readGuards_setTask, readGuards_setTask]
      simp
    · simp only [exceeded_setTask, setTask_mutexes, setMutex_mutexes, if_true] at hex ⊢
      by_cases hm : m' = k
      · subst hm
        have h1 := h.mutex_single i m' (by simpa using hex)
        simp only [guardsOf_setTask, if_true, List.count_cons_self] at h1 hpos
        omega
      · simp only [guardsOf_setTask, hm, if_false] at hex hpos
        obtain ⟨d', hd'⟩ := h.mutex_owner i m' (by simpa [hm] using hex) (by simpa [hm] using hpos)
        simp only [setTask_mutexes, hl, Option.some.injEq, Prod.mk.injEq] at hd'
        exact absurd hd'.1.symm hm
  · -- the signal handler of a holder ousted meanwhile: nothing changes
    rw [hs]
    refine h.update_mutex i (fun m' g hg => hcount m' g hg) (fun m' g hg => hsub m' g hg)
      (fun _ => by simp) (fun _ _ => rfl) rfl (fun j => ?_) (fun m' hex hpos => ?_)
      (fun m' hex => hsingle m' hex) (fun o d' hl' => ?_)
    · rw [readGuards_setTask, readGuards_setTask]
      simp
    · by_cases hm : m' = k
      · subst hm
        obtain ⟨d', hd'⟩ := h.mutex_owner i m' (by simpa using hex) (by simp)
        simp only [setTask_mutexes] at hd'
        simp [hd'] at hne
      · have hc : (st.statics.setTask k ⟨ex, rest⟩).guardsOf m' =
            (st.statics.setTask k ⟨ex, .mutex i k :: rest⟩).guardsOf m' := by simp [hm]
        rw [hc] at hpos
        exact h.mutex_owner i m' (by simpa [hm] using hex) hpos
    · have hok : o ≠ k := fun hok => hne (by simp [hok, show (st.statics.mutexes i).locked = _ from hl'])
      have := h.mutex_held i o d' hl'
      simpa [hok] using this

/-- An `RwLockReadGuard` drop: one reader less. -/
theorem drop_read {j : ℕ} {k : MessageId}
    (h : LockInv (st.statics.setTask m ⟨ex, .read j k :: rest⟩))
    (hd : RwLockReadGuard.drop j k env st = .ok st') : LockInv (st'.statics.setTask m ⟨ex, rest⟩) := by
  have hk : k = m := h.holder m (.read j k) (by simp)
  subst hk
  obtain ⟨-, rw, hs, hrd, hlk⟩ := RwLockReadGuard.drop_ok hd
  -- a read guard is counted, so the lock has no writer
  have hpos : 0 < (st.statics.rwlocks j).readers := by
    have := h.readers j
    rw [readGuards_setTask] at this
    simp at this
    omega
  have hfree : (st.statics.rwlocks j).locked = none := by
    by_contra hne
    have := h.writer_alone j hne
    simp at this
    omega
  have hnone : rw.locked = none := by rcases hlk with hlk | hlk <;> simp [hlk, hfree]
  rw [hs]
  refine h.update_rwlock j (fun m' g hg _ => ?_) (fun m' g hg => ?_) (fun _ => by simp)
    rfl (fun j' hj => by simp [hj]) (fun j' hj => ?_) (fun m' => ?_) (fun hl => by simp [hnone] at hl)
    ?_ ?_
  · by_cases hm : m' = k
    · subst hm; simp [Ne.symm hg]
    · simp [hm]
  · by_cases hm : m' = k
    · subst hm; simp only [guardsOf_setTask, if_true] at hg ⊢
      exact .inl (List.mem_cons_of_mem _ hg)
    · simp only [guardsOf_setTask, hm, if_false] at hg ⊢
      exact .inl hg
  · rw [readGuards_setTask, readGuards_setTask]
    simp [Ne.symm hj]
  · have hw := h.write_count j m'
    simp only [setTask_rwlocks, hfree] at hw
    by_cases hm : m' = k
    · subst hm; simp at hw; simp [hw, hnone]
    · simp [hm] at hw; simp [hm, hw, hnone]
  · have := h.readers j
    rw [readGuards_setTask] at this
    rw [readGuards_setTask]
    simp at this ⊢
    omega
  · have := h.readers_le j
    simp at this ⊢
    omega

/-- An `RwLockWriteGuard` drop: the rwlock has no writer any more. -/
theorem drop_write {j : ℕ} {k : MessageId}
    (h : LockInv (st.statics.setTask m ⟨ex, .write j k :: rest⟩))
    (hd : RwLockWriteGuard.drop j k env st = .ok st') : LockInv (st'.statics.setTask m ⟨ex, rest⟩) := by
  have hk : k = m := h.holder m (.write j k) (by simp)
  subst hk
  obtain ⟨-, hlk, q, hs⟩ := RwLockWriteGuard.drop_ok hd
  rw [hs]
  refine h.update_rwlock j (fun m' g _ hg => ?_) (fun m' g hg => ?_) (fun _ => by simp)
    rfl (fun j' hj => by simp [hj]) (fun j' _ => ?_) (fun m' => ?_) (fun hl => by simp at hl)
    ?_ ?_
  · by_cases hm : m' = k
    · subst hm; simp [Ne.symm hg]
    · simp [hm]
  · by_cases hm : m' = k
    · subst hm; simp only [guardsOf_setTask, if_true] at hg ⊢
      exact .inl (List.mem_cons_of_mem _ hg)
    · simp only [guardsOf_setTask, hm, if_false] at hg ⊢
      exact .inl hg
  · rw [readGuards_setTask, readGuards_setTask]
    simp
  · -- the holder held the one write guard
    have hw := h.write_count j m'
    simp only [setTask_rwlocks, hlk] at hw
    by_cases hm : m' = k
    · subst hm; simp at hw; simp [hw]
    · simp [hm, Ne.symm hm] at hw; simp [hm, hw]
  · have := h.readers j
    rw [readGuards_setTask] at this
    rw [readGuards_setTask]
    simp at this ⊢
    omega
  · simpa using h.readers_le j

theorem drop {g : Guard} (h : LockInv (st.statics.setTask m ⟨ex, g :: rest⟩))
    (hd : g.drop env st = .ok st') : LockInv (st'.statics.setTask m ⟨ex, rest⟩) := by
  cases g with
  | mutex i k => exact drop_mutex h hd
  | read j k => exact drop_read h hd
  | write j k => exact drop_write h hd

/-- The drops of a future being dropped, one after the other. -/
theorem dropGuards {gs : List Guard} (h : LockInv (st.statics.setTask m ⟨ex, gs⟩))
    (hd : Gear.Sync.dropGuards env gs st = .ok st') :
    LockInv (st'.statics.setTask m ⟨ex, []⟩) := by
  induction gs generalizing st with
  | nil =>
    cases hd
    exact h
  | cons g gs ih =>
    obtain ⟨st₁, h₁, h₂⟩ := Except.bind_eq_ok.mp hd
    exact ih (h.drop h₁) h₂

end Drop

/-- What `c`'s task held, put back in any order over a static memory that
differs from `s` only in `c`'s task: the state a drop starts from. -/
theorem restore (h : LockInv s) {c : MessageId} {gs : List Guard} (hgs : gs.Perm (s.guardsOf c))
    (hf : s'.futures.erase c = s.futures.erase c) (hmx : s'.mutexes = s.mutexes)
    (hrw : s'.rwlocks = s.rwlocks) : LockInv (s'.setTask c ⟨s.exceeded c, gs⟩) := by
  have hlook : ∀ m, m ≠ c → s'.futures.lookup m = s.futures.lookup m := fun m hm => by
    rw [← AList.lookup_erase_ne hm, hf, AList.lookup_erase_ne hm]
  refine h.congr (fun m => ?_) (fun m hex _ => ?_) (fun j => ?_) (fun i => by simp [hmx])
    (fun j => by simp [hrw])
  · by_cases hm : m = c
    · subst hm; simpa using hgs
    · rw [guardsOf_setTask, if_neg hm]
      simp [guardsOf, hlook m hm]
  · by_cases hm : m = c
    · subst hm; simpa using hex
    · rw [exceeded_setTask, if_neg hm] at hex
      simpa [exceeded, hlook m hm] using hex
  · rw [readGuards_setTask, hf, readGuards_eq_erase s c, hgs.count_eq]

/-- The state a drop ends in: `c`'s task as `s` has it. -/
theorem of_setTask_eq {ex : Bool} {gs : List Guard} (h : LockInv (s.setTask c ⟨ex, gs⟩))
    (hg : s.guardsOf c = gs) (he : s.exceeded c = ex) : LockInv s :=
  h.congr (fun m => by by_cases hm : m = c <;> simp [hm, hg])
    (fun m hex _ => by
      by_cases hm : m = c
      · subst hm; simpa [he] using hex
      · simpa [hm] using hex)
    (fun j => by rw [readGuards_setTask, readGuards_eq_erase s c, hg]) (fun _ => rfl)
    (fun _ => ⟨rfl, rfl⟩)

/-- A task that holds nothing counts for nothing, whatever its mark. -/
theorem of_setTask_nil {ex : Bool} (h : LockInv (s.setTask c ⟨ex, []⟩)) (hc : s.guardsOf c = []) :
    LockInv s :=
  h.congr (fun m => by by_cases hm : m = c <;> simp [hm, hc])
    (fun m hex hne => by
      by_cases hm : m = c
      · subst hm; exact absurd hc hne
      · simpa [hm] using hex)
    (fun j => by rw [readGuards_setTask, readGuards_eq_erase s c, hc]) (fun _ => rfl)
    (fun _ => ⟨rfl, rfl⟩)

/-- On a free mutex no unmarked task holds a guard of it. -/
theorem noActiveHolder_of_free (h : LockInv s) {i : ℕ} (hl : (s.mutexes i).locked = none) :
    s.NoActiveHolder i := fun m hex => Nat.eq_zero_of_not_pos fun hpos => by
  obtain ⟨d, hd⟩ := h.mutex_owner i m hex hpos
  rw [hl] at hd
  cases hd

section Execution

variable {env : Env} {st st' : ExecState}

/-- One action of the current message. -/
theorem run {a : Action} {ready : Bool} (h : LockInv st.statics)
    (hr : a.run env st = .ok (ready, st')) : LockInv st'.statics := by
  cases a with
  | lock f =>
    obtain ⟨⟨r, st₁⟩, hp, hk⟩ := Except.bind_eq_ok.mp hr
    simp only [Except.pure_eq_ok, Except.ok.injEq] at hk
    rcases MutexLockFuture.poll_ok hp with ⟨rfl, q, hq⟩ | ⟨s₁, hous, hend⟩ | ⟨hl, rfl, d, hq⟩
    · -- queued
      simp only [keepGuard, Prod.mk.injEq] at hk
      rw [← hk.2, hq]
      exact h.setMutex_queue _ q
    · obtain ⟨h₁, hna⟩ := h.ousted hous
      rcases hend with ⟨rfl, q, hq⟩ | ⟨rfl, d, q, hq⟩
      · -- a rival woken, the mutex left free
        simp only [keepGuard, Prod.mk.injEq] at hk
        rw [← hk.2, hq]
        exact h₁.free hna q
      · -- the current message took over
        simp only [keepGuard, Prod.mk.injEq] at hk
        rw [← hk.2]
        simp only [ExecState.holdGuard, ExecState.setGuards_statics, hq, guardsOf_setMutex]
        exact h₁.acquire hna _ d q
    · -- a free mutex
      simp only [keepGuard, Prod.mk.injEq] at hk
      rw [← hk.2]
      simp only [ExecState.holdGuard, ExecState.setGuards_statics, hq, guardsOf_setMutex]
      exact h.acquire (h.noActiveHolder_of_free hl) _ d _
  | read j =>
    simp only [Action.run, Except.pure_eq_ok, Except.ok.injEq] at hr
    rcases RwLockReadFuture.poll_cases j env st with ⟨hl, hle, hp⟩ | ⟨q, hp⟩ <;>
      simp only [hp, keepGuard, Prod.mk.injEq] at hr <;> rw [← hr.2]
    · exact h.read hl hle _
    · exact h.setRwLock_queue j q
  | write j =>
    simp only [Action.run, Except.pure_eq_ok, Except.ok.injEq] at hr
    rcases RwLockWriteFuture.poll_cases j env st with ⟨hl, hr0, hp⟩ | ⟨q, hp⟩ <;>
      simp only [hp, keepGuard, Prod.mk.injEq] at hr <;> rw [← hr.2]
    · exact h.write hl hr0 _
    · exact h.setRwLock_queue j q
  | drop k =>
    simp only [Action.run] at hr
    split at hr
    · simp only [Except.pure_eq_ok, Except.ok.injEq, Prod.mk.injEq] at hr
      rw [← hr.2]
      exact h
    · rename_i g hg
      obtain ⟨st₁, hd, he⟩ := Except.bind_eq_ok.mp hr
      simp only [Except.pure_eq_ok, Except.ok.injEq, Prod.mk.injEq] at he
      rw [← he.2]
      -- the guard leaves the task and is dropped
      obtain ⟨hk, rfl⟩ := List.getElem?_eq_some_iff.mp hg
      have hperm := (List.perm_cons_erase (List.getElem_mem hk)).trans ((List.erase_getElem hk).cons _)
      have h₁ := @LockInv.restore _
        (st.setGuards env.msgId ((st.statics.guardsOf env.msgId).eraseIdx k)).statics h _ _
        hperm.symm (AList.erase_insert_self _ _ _) rfl rfl
      have hf := Guard.drop_futures hd
      refine (LockInv.drop h₁ hd).of_setTask_eq ?_ ?_
      · rw [guardsOf_of_futures_eq hf]
        simp
      · rw [exceeded_of_futures_eq hf]
        simp

/-- A ready future's task holds nothing any more. -/
theorem pollFuture_ready {as : List Action} {fin : Finish}
    (hp : pollFuture env as fin st = .ok (true, st')) : st'.statics.guardsOf env.msgId = [] := by
  induction as generalizing st with
  | nil =>
    cases fin with
    | complete =>
      obtain ⟨st₁, hd, he⟩ := Except.bind_eq_ok.mp hp
      simp only [Except.pure_eq_ok, Except.ok.injEq, Prod.mk.injEq] at he
      rw [← he.2, guardsOf, dropGuards_futures hd]
      simp [Statics.setGuards, Statics.setTask, AList.lookup_insert]
    | await => cases hp
  | cons a as ih =>
    obtain ⟨⟨r, st₁⟩, -, hrest⟩ := Except.bind_eq_ok.mp hp
    cases r with
    | true => exact ih hrest
    | false => cases hrest

/-- A poll of the current message's future. -/
theorem pollFuture {as : List Action} {fin : Finish} {ready : Bool} (h : LockInv st.statics)
    (hp : Gear.Sync.pollFuture env as fin st = .ok (ready, st')) : LockInv st'.statics := by
  induction as generalizing st with
  | nil =>
    cases fin with
    | complete =>
      -- the body returned: the task's guards are dropped in order
      obtain ⟨st₁, hd, he⟩ := Except.bind_eq_ok.mp hp
      simp only [Except.pure_eq_ok, Except.ok.injEq, Prod.mk.injEq] at he
      rw [← he.2]
      have h₁ := @LockInv.restore _ (st.setGuards env.msgId []).statics h _ _ (List.Perm.refl _)
        (AList.erase_insert_self _ _ _) rfl rfl
      refine (LockInv.dropGuards h₁ hd).of_setTask_nil ?_
      rw [guardsOf, dropGuards_futures hd]
      simp [Statics.setGuards, Statics.setTask, AList.lookup_insert]
    | await =>
      simp only [Gear.Sync.pollFuture, Except.pure_eq_ok, Except.ok.injEq, Prod.mk.injEq] at hp
      rw [← hp.2]
      exact h
  | cons a as ih =>
    obtain ⟨⟨r, st₁⟩, ha, hrest⟩ := Except.bind_eq_ok.mp hp
    cases r with
    | true => exact ih (h.run ha) hrest
    | false =>
      simp only [Except.pure_eq_ok, Except.ok.injEq, Prod.mk.injEq, Bool.false_eq_true,
        if_false] at hrest
      rw [← hrest.2]
      exact h.run ha

/-- An execution of a message through `message_loop`. -/
theorem messageLoop {as : List Action} {fin : Finish} {ready : Bool} (h : LockInv st.statics)
    (hm : Gear.Sync.messageLoop env as fin st = .ok (ready, st')) : LockInv st'.statics := by
  unfold Gear.Sync.messageLoop at hm
  split at hm
  rename_i task st₀ hst
  -- the message's own task, or a new one
  have h₀ : LockInv st₀.statics := by
    split at hst
    · cases hst
      exact h
    · rename_i hc
      cases hst
      exact h.newTask hc
  split at hm
  · cases hm
  · dsimp only at hm
    obtain ⟨⟨r, st₁⟩, hp, he⟩ := Except.bind_eq_ok.mp hm
    have h₁ := h₀.pollFuture hp
    cases r with
    | true =>
      simp only [if_true, Except.pure_eq_ok, Except.ok.injEq, Prod.mk.injEq] at he
      rw [← he.2]
      exact h₁.eraseTask (pollFuture_ready hp)
    | false =>
      simp only [Bool.false_eq_true, if_false, Except.pure_eq_ok, Except.ok.injEq,
        Prod.mk.injEq] at he
      rw [← he.2]
      exact h₁

/-- `handle_signal`: the trapped message's task goes, its guards are dropped
in order. -/
theorem handleSignal (h : LockInv st.statics) (hs : Gear.Sync.handleSignal env st = .ok st') :
    LockInv st'.statics := by
  unfold Gear.Sync.handleSignal at hs
  split at hs
  · cases hs
  · rename_i m _
    split at hs
    · cases hs
      exact h
    · rename_i task ht
      have h₁ := @LockInv.restore _ (st.eraseTask m).statics h m _ (List.Perm.refl _)
        (by simp [Statics.eraseTask, AList.erase_of_lookup_eq_none (AList.lookup_erase _ _)])
        rfl rfl
      rw [guardsOf_of_lookup ht, exceeded_of_lookup ht] at h₁
      refine (LockInv.dropGuards h₁ hs).of_setTask_nil ?_
      rw [guardsOf, dropGuards_futures hs]
      simp [Statics.eraseTask, AList.lookup_erase]

end Execution

/-- A new program: every lock free, no task. -/
theorem init (d : BlockCount) : LockInv (System.init d).statics where
  holder _ _ hg := by simp [System.init, guardsOf] at hg
  mutex_owner _ _ _ hpos := by simp [System.init, guardsOf] at hpos
  mutex_single _ _ _ := by simp [System.init, guardsOf]
  mutex_held _ _ _ hl := by simp [System.init] at hl
  write_count _ _ := by simp [System.init, guardsOf]
  writer_alone _ hl := by simp [System.init] at hl
  readers _ := rfl
  readers_le _ := by simp [System.init, readersLimit]

/-- Of the messages whose task is not marked `lock_exceeded`, at most one
holds a guard of a mutex, and holds one. -/
theorem mutex_exclusive (h : LockInv s) (i : ℕ) :
    (∀ m₁ m₂, s.exceeded m₁ = false → s.exceeded m₂ = false →
      .mutex i m₁ ∈ s.guardsOf m₁ → .mutex i m₂ ∈ s.guardsOf m₂ → m₁ = m₂) ∧
    ∀ m, s.exceeded m = false → (s.guardsOf m).count (.mutex i m) ≤ 1 := by
  refine ⟨fun m₁ m₂ he₁ he₂ hg₁ hg₂ => ?_, fun m hex => h.mutex_single i m hex⟩
  -- both own the mutex, which has one owner
  obtain ⟨d₁, hd₁⟩ := h.mutex_owner i m₁ he₁ (List.count_pos_iff.mpr hg₁)
  obtain ⟨d₂, hd₂⟩ := h.mutex_owner i m₂ he₂ (List.count_pos_iff.mpr hg₂)
  rw [hd₁, Option.some.injEq, Prod.mk.injEq] at hd₂
  exact hd₂.1

/-- An rwlock has one writer, which holds its one write guard, and no reader;
or no writer, and as many readers as read guards, at most `READERS_LIMIT`. -/
theorem rwlock_exclusive (h : LockInv s) (j : ℕ) :
    (∃ w, (s.rwlocks j).locked = some w ∧ (s.guardsOf w).count (.write j w) = 1 ∧
        (∀ m, m ≠ w → (s.guardsOf m).count (.write j m) = 0) ∧
        (s.rwlocks j).readers = 0 ∧ s.readGuards j = 0) ∨
      ((s.rwlocks j).locked = none ∧ (∀ m, (s.guardsOf m).count (.write j m) = 0) ∧
        (s.rwlocks j).readers = s.readGuards j ∧ s.readGuards j ≤ readersLimit) := by
  cases hl : (s.rwlocks j).locked with
  | some w =>
    have hr0 : (s.rwlocks j).readers = 0 := h.writer_alone j (by simp [hl])
    refine .inl ⟨w, rfl, by simp [h.write_count j w, hl], fun m hm => ?_, hr0, ?_⟩
    · simp [h.write_count j m, hl, Ne.symm hm]
    · rw [← h.readers j, hr0]
  | none =>
    refine .inr ⟨rfl, fun m => by simp [h.write_count j m, hl], h.readers j, ?_⟩
    rw [← h.readers j]
    exact h.readers_le j

/-- One step of a run. -/
theorem step {s s' : System} (h : LockInv s.statics) (hs : Step s s') : LockInv s'.statics := by
  cases hs with
  | execute block actions finish _ =>
    unfold System.execute
    split
    · rename_i ready st hm
      exact h.messageLoop hm
    · exact h
  | trap => exact h
  | signal block _ _ =>
    unfold System.signal
    split
    · rename_i st hsig
      exact h.handleSignal hsig
    · exact h

end LockInv

/-- The run lemma: the invariant holds in every reachable state. -/
theorem reachable_lockInv {s : System} (hs : Reachable s) : LockInv s.statics := by
  obtain ⟨d, hs⟩ := hs
  induction hs with
  | refl => exact LockInv.init d
  | tail _ hstep ih => exact ih.step hstep

/-- Mutual exclusion of gstd's locks in every reachable state. -/
theorem locks_exclusive {s : System} (hs : Reachable s) (i j : ℕ) :
    ((∀ m₁ m₂, s.statics.exceeded m₁ = false → s.statics.exceeded m₂ = false →
        .mutex i m₁ ∈ s.statics.guardsOf m₁ → .mutex i m₂ ∈ s.statics.guardsOf m₂ → m₁ = m₂) ∧
      ∀ m, s.statics.exceeded m = false → (s.statics.guardsOf m).count (.mutex i m) ≤ 1) ∧
    ((∃ w, (s.statics.rwlocks j).locked = some w ∧
        (s.statics.guardsOf w).count (.write j w) = 1 ∧
        (∀ m, m ≠ w → (s.statics.guardsOf m).count (.write j m) = 0) ∧
        (s.statics.rwlocks j).readers = 0 ∧ s.statics.readGuards j = 0) ∨
      ((s.statics.rwlocks j).locked = none ∧
        (∀ m, (s.statics.guardsOf m).count (.write j m) = 0) ∧
        (s.statics.rwlocks j).readers = s.statics.readGuards j ∧
        s.statics.readGuards j ≤ readersLimit)) :=
  ⟨(reachable_lockInv hs).mutex_exclusive i, (reachable_lockInv hs).rwlock_exclusive j⟩

end Gear.Sync
