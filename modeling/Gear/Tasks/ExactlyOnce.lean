import Gear.Tasks.Process

/-!
# Every scheduled task runs once, in block order

The loop over one block's tasks runs a prefix of them and takes out of the
pool exactly those and the one it could not afford (`processBlock_drains`);
`processBlocks` puts that one back, which never fails, since it was just
taken out (`processBlocks_isSome`). Over the blocks of a call, the tasks run
are distinct tasks of the pool, in block order, and the pool keeps the rest;
a call that stops records a block no later than any task left in the walked
blocks (`processBlocks_drains`).

Between blocks the chain keeps `Chain.Inv`: the first incomplete block is at
most the block of every pending task, a pending task with no such block is
of a later block, no task runs twice, and every task ran at or after its
block, after every task of an earlier block and before every pending one.
No event loses a task (`run_accounts`). With an allowance that affords every
task due (`ampleAllowance`), a call does not stop, so once every block from
some block on has one, the chain is up to date at each of them
(`run_upToDate`). `process_tasks_runs_each_task_once` puts these together over
any run.
-/

namespace Gear.Tasks

variable {T : Type} [LinearOrder T]

namespace TaskPool

theorem add_eq_ok {pool pool' : Finset (ℕ × T)} {bn : ℕ} {task : T} :
    add pool bn task = .ok pool' ↔ (bn, task) ∉ pool ∧ insert (bn, task) pool = pool' := by
  unfold add
  split <;> simp_all

@[simp] theorem mem_drainPrefixKeys {pool : Finset (ℕ × T)} {bn : ℕ} {t : T} :
    t ∈ drainPrefixKeys pool bn ↔ (bn, t) ∈ pool := by
  simp [drainPrefixKeys]

theorem nodup_drainPrefixKeys (pool : Finset (ℕ × T)) (bn : ℕ) :
    (drainPrefixKeys pool bn).Nodup :=
  Finset.sort_nodup _ _

/-- The tasks of a block depend only on the pool's tasks of that block. -/
theorem drainPrefixKeys_congr {P Q : Finset (ℕ × T)} {bn : ℕ}
    (h : ∀ t, (bn, t) ∈ P ↔ (bn, t) ∈ Q) : drainPrefixKeys P bn = drainPrefixKeys Q bn := by
  unfold drainPrefixKeys
  congr 1
  ext t
  simp [h]

end TaskPool

section Loops

variable (w : DbWeight) (maxTaskGas taskGas : T → ℕ)

/-- What the loop over the tasks `ts` of block `bn` did, from `p` to `p'`,
ending with `e`: it ran `done`, the first of `ts`, and took out of the pool
those and the task it could not afford. -/
structure DrainedBlock (bn : ℕ) (ts : List T) (p p' : Progress T) (e : BlockEnd T)
    (done : List T) : Prop where
  initial : done <+: ts
  processed : p'.processed = p.processed ++ done.map ((bn, ·))
  pool : ∀ x, x ∈ p'.pool ↔
    x ∈ p.pool ∧ (∀ t ∈ done, x ≠ (bn, t)) ∧ ∀ t, e = .lastTask t → x ≠ (bn, t)
  all_done : e = .done → done = ts
  last : ∀ t, e = .lastTask t → done ++ [t] <+: ts

theorem processBlock_drains (bn : ℕ) (ts : List T) (p : Progress T) :
    ∃ done, DrainedBlock bn ts p (processBlock w maxTaskGas taskGas bn ts p).1
      (processBlock w maxTaskGas taskGas bn ts p).2 done := by
  induction ts generalizing p with
  | nil => exact ⟨[], List.nil_prefix, by simp [processBlock], by simp [processBlock],
      fun _ => rfl, by simp [processBlock]⟩
  | cons task tasks ih =>
    simp only [processBlock]
    split
    · -- the task cannot be afforded: it leaves the pool to be put back
      refine ⟨[], List.nil_prefix, by simp, ?_, by simp, ?_⟩
      · intro x
        simp [Finset.mem_erase, and_comm]
      · simp
    · split
      · -- the task ran and too little gas is left
        refine ⟨[task], by simp, by simp, ?_, by simp, by simp⟩
        intro x
        simp [Finset.mem_erase, and_comm]
      · -- the task ran; the loop goes on with the next
        obtain ⟨done, hd⟩ := ih ⟨p.pool.erase (bn, task),
          p.gasAllowance - w.writes 1 - taskGas task, p.processed ++ [(bn, task)]⟩
        refine ⟨task :: done, List.cons_prefix_cons.mpr ⟨rfl, hd.initial⟩, ?_, ?_,
          fun he => by rw [hd.all_done he], fun t he => ?_⟩
        · rw [hd.processed]
          simp
        · intro x
          rw [hd.pool x, Finset.mem_erase, List.forall_mem_cons]
          tauto
        · exact List.cons_prefix_cons.mpr ⟨rfl, hd.last t he⟩

/-- The task a block's loop could not afford is one of the block's tasks it
did not run. -/
theorem DrainedBlock.lastTask_mem {bn : ℕ} {p p' : Progress T} {done : List T} {task : T}
    (hd : DrainedBlock bn (TaskPool.drainPrefixKeys p.pool bn) p p' (.lastTask task) done) :
    (bn, task) ∈ p.pool ∧ task ∉ done := by
  have hpre := hd.last task rfl
  have hnd : (done ++ [task]).Nodup := (TaskPool.nodup_drainPrefixKeys _ _).sublist hpre.sublist
  refine ⟨TaskPool.mem_drainPrefixKeys.mp (hpre.subset (by simp)), fun ht => ?_⟩
  exact List.disjoint_of_nodup_append hnd ht (List.mem_singleton_self task)

omit [LinearOrder T] in
/-- A block's loop that did not stop at an unaffordable task took out of the
pool exactly the tasks it ran. -/
theorem DrainedBlock.pool_of_ne {bn : ℕ} {ts : List T} {p p' : Progress T} {e : BlockEnd T}
    {done : List T} (hd : DrainedBlock bn ts p p' e done) (he : ∀ t, e ≠ .lastTask t) :
    ∀ x, x ∈ p'.pool ↔ x ∈ p.pool ∧ x ∉ done.map ((bn, ·)) := by
  intro x
  rw [hd.pool x]
  simp [he, eq_comm]

/-- What the loop over the blocks `bns` did, from `p` to `p'`, stopping at
`stop`: it ran `L`, distinct tasks of the pool in block order, and left the
rest of the pool; a loop that stopped at a block ran no task of a later block
and left none of an earlier one. -/
structure DrainedBlocks (bns : List ℕ) (p p' : Progress T) (stop : Option ℕ)
    (L : List (ℕ × T)) : Prop where
  processed : p'.processed = p.processed ++ L
  nodup : L.Nodup
  mem : ∀ x ∈ L, x ∈ p.pool ∧ x.1 ∈ bns
  in_order : (L.map Prod.fst).Pairwise (· ≤ ·)
  pool : ∀ x, x ∈ p'.pool ↔ x ∈ p.pool ∧ x ∉ L
  all_done : stop = none → ∀ x ∈ p'.pool, x.1 ∉ bns
  stopped : ∀ s, stop = some s →
    s ∈ bns ∧ (∀ x ∈ L, x.1 ≤ s) ∧ ∀ x ∈ p'.pool, x.1 ∈ bns → s ≤ x.1

omit [LinearOrder T] in
theorem drainedBlocks_nil (p : Progress T) : DrainedBlocks [] p p none [] where
  processed := by simp
  nodup := List.nodup_nil
  mem := by simp
  in_order := List.Pairwise.nil
  pool := by simp
  all_done := by simp
  stopped := by simp

/-- A loop that stops at block `bn`, having run the first tasks `done` of the
block. -/
theorem drainedBlocks_stop {bn : ℕ} {bns : List ℕ} {p p' : Progress T} {done : List T}
    (hbns : ∀ b ∈ bns, bn < b) (hdone : done <+: TaskPool.drainPrefixKeys p.pool bn)
    (hproc : p'.processed = p.processed ++ done.map ((bn, ·)))
    (hpool : ∀ x, x ∈ p'.pool ↔ x ∈ p.pool ∧ x ∉ done.map ((bn, ·))) :
    DrainedBlocks (bn :: bns) p p' (some bn) (done.map ((bn, ·))) where
  processed := hproc
  nodup := ((TaskPool.nodup_drainPrefixKeys _ _).sublist hdone.sublist).map
    fun _ _ h => (Prod.mk.inj h).2
  mem := by
    intro x hx
    obtain ⟨t, ht, rfl⟩ := List.mem_map.mp hx
    exact ⟨TaskPool.mem_drainPrefixKeys.mp (hdone.subset ht), List.mem_cons_self⟩
  in_order := by simp
  pool := hpool
  all_done := by simp
  stopped := by
    rintro s ⟨⟩
    refine ⟨List.mem_cons_self, by simp, ?_⟩
    intro x _ hx
    rcases List.mem_cons.mp hx with h | h
    · exact h.ge
    · exact (hbns _ h).le

/-- A block all of whose tasks ran, then the loop over the later blocks. -/
theorem DrainedBlocks.cons {bn : ℕ} {bns : List ℕ} {p p₁ p' : Progress T} {stop : Option ℕ}
    {L : List (ℕ × T)} (hbns : ∀ b ∈ bns, bn < b)
    (hproc : p₁.processed = p.processed ++ (TaskPool.drainPrefixKeys p.pool bn).map ((bn, ·)))
    (hpool : ∀ x, x ∈ p₁.pool ↔
      x ∈ p.pool ∧ x ∉ (TaskPool.drainPrefixKeys p.pool bn).map ((bn, ·)))
    (h : DrainedBlocks bns p₁ p' stop L) :
    DrainedBlocks (bn :: bns) p p' stop
      ((TaskPool.drainPrefixKeys p.pool bn).map ((bn, ·)) ++ L) := by
  -- no task of block `bn` is left
  have hgone : ∀ x ∈ p₁.pool, x.1 ≠ bn := by
    intro x hx hbn
    obtain ⟨hxp, hxd⟩ := (hpool x).mp hx
    exact hxd (List.mem_map.mpr ⟨x.2, TaskPool.mem_drainPrefixKeys.mpr (by rwa [← hbn]),
      by rw [← hbn]⟩)
  have hfst : ∀ x ∈ (TaskPool.drainPrefixKeys p.pool bn).map ((bn, ·)), x.1 = bn := by
    intro x hx
    obtain ⟨t, -, rfl⟩ := List.mem_map.mp hx
    rfl
  refine ⟨by rw [h.processed, hproc, List.append_assoc], ?_, ?_, ?_, ?_, ?_, ?_⟩
  · refine List.nodup_append.mpr ⟨?_, h.nodup, ?_⟩
    · exact (TaskPool.nodup_drainPrefixKeys _ _).map fun _ _ h => (Prod.mk.inj h).2
    · intro x hx y hy hxy
      subst hxy
      exact ((hpool x).mp (h.mem x hy).1).2 hx
  · intro x hx
    rcases List.mem_append.mp hx with hx | hx
    · obtain ⟨t, ht, rfl⟩ := List.mem_map.mp hx
      exact ⟨TaskPool.mem_drainPrefixKeys.mp ht, List.mem_cons_self⟩
    · obtain ⟨hx₁, hbx⟩ := h.mem x hx
      exact ⟨((hpool x).mp hx₁).1, List.mem_cons_of_mem _ hbx⟩
  · rw [List.map_append, List.pairwise_append]
    refine ⟨by simp, h.in_order, ?_⟩
    intro a ha b hb
    obtain ⟨x, hx, rfl⟩ := List.mem_map.mp ha
    obtain ⟨y, hy, rfl⟩ := List.mem_map.mp hb
    rw [hfst x hx]
    exact (hbns _ (h.mem y hy).2).le
  · intro x
    rw [h.pool x, hpool x, List.mem_append]
    tauto
  · intro hstop x hx hbx
    have hx₁ := ((h.pool x).mp hx).1
    rcases List.mem_cons.mp hbx with hbn | hbns'
    · exact hgone x hx₁ hbn
    · exact h.all_done hstop x hx hbns'
  · intro s hs
    obtain ⟨hsb, hL, hleft⟩ := h.stopped s hs
    refine ⟨List.mem_cons_of_mem _ hsb, ?_, ?_⟩
    · intro x hx
      rcases List.mem_append.mp hx with hx | hx
      · exact (hfst x hx).symm ▸ (hbns s hsb).le
      · exact hL x hx
    · intro x hx hbx
      have hx₁ := ((h.pool x).mp hx).1
      rcases List.mem_cons.mp hbx with hbn | hbns'
      · exact absurd hbn (hgone x hx₁)
      · exact hleft x hx hbns'

/-- The loop over the blocks, on strictly increasing blocks. -/
theorem processBlocks_drains {bns : List ℕ} (hbns : bns.Pairwise (· < ·)) {p p' : Progress T}
    {stop : Option ℕ} (h : processBlocks w maxTaskGas taskGas bns p = some (p', stop)) :
    ∃ L, DrainedBlocks bns p p' stop L := by
  induction bns generalizing p with
  | nil =>
    simp only [processBlocks, Option.some.injEq, Prod.mk.injEq] at h
    obtain ⟨rfl, rfl⟩ := h
    exact ⟨[], drainedBlocks_nil p⟩
  | cons bn bns ih =>
    obtain ⟨hlt, hbns⟩ := List.pairwise_cons.mp hbns
    simp only [processBlocks] at h
    split at h
    · -- too little gas for the block
      simp only [Option.some.injEq, Prod.mk.injEq] at h
      obtain ⟨rfl, rfl⟩ := h
      exact ⟨[], drainedBlocks_stop hlt List.nil_prefix (by simp) (by simp)⟩
    obtain ⟨done, hd⟩ :=
      processBlock_drains w maxTaskGas taskGas bn (TaskPool.drainPrefixKeys p.pool bn) p
    split at h
    next p₁ task heq =>
      -- the unaffordable task is put back
      rw [heq] at hd
      obtain ⟨hmem, hnot⟩ := hd.lastTask_mem
      split at h
      next pool hadd =>
        obtain ⟨-, rfl⟩ := TaskPool.add_eq_ok.mp hadd
        simp only [Option.some.injEq, Prod.mk.injEq] at h
        obtain ⟨rfl, rfl⟩ := h
        refine ⟨_, drainedBlocks_stop hlt hd.initial hd.processed fun x => ?_⟩
        rw [Finset.mem_insert, hd.pool x]
        by_cases hx : x = (bn, task)
        · subst hx
          simpa using ⟨hmem, hnot⟩
        · simp [hx, eq_comm]
      next => cases h
    next p₁ heq =>
      rw [heq] at hd
      simp only [Option.some.injEq, Prod.mk.injEq] at h
      obtain ⟨rfl, rfl⟩ := h
      exact ⟨_, drainedBlocks_stop hlt hd.initial hd.processed (hd.pool_of_ne (by simp))⟩
    next p₁ heq =>
      rw [heq] at hd
      have hall := hd.all_done rfl
      subst hall
      obtain ⟨L, hL⟩ := ih hbns h
      exact ⟨_, hL.cons hlt hd.processed (hd.pool_of_ne (by simp))⟩

/-- The loop over the blocks never reaches its `unreachable!`: the task put
back was just taken out of the pool. -/
theorem processBlocks_isSome (bns : List ℕ) (p : Progress T) :
    (processBlocks w maxTaskGas taskGas bns p).isSome := by
  induction bns generalizing p with
  | nil => rfl
  | cons bn bns ih =>
    simp only [processBlocks]
    split
    · rfl
    obtain ⟨done, hd⟩ :=
      processBlock_drains w maxTaskGas taskGas bn (TaskPool.drainPrefixKeys p.pool bn) p
    split
    next p₁ task heq =>
      rw [heq] at hd
      have hout : (bn, task) ∉ p₁.pool := fun h => ((hd.pool _).mp h).2.2 task rfl rfl
      simp [TaskPool.add, hout]
    next => rfl
    next p₁ _ => exact ih p₁

/-- `process_tasks` walks the blocks from the first incomplete one, or from
the current one, over the pool, and keeps the pool it leaves, the block it
stopped at and the tasks it ran. -/
theorem processTasks_eq_some {now : ℕ} {s s' : Scheduler T} {L : List (ℕ × T)}
    (h : processTasks w maxTaskGas taskGas now s = some (s', L)) :
    ∃ a p, processBlocks w maxTaskGas taskGas
        (List.range' (s.firstIncompleteTasksBlock.getD now)
          (now + 1 - s.firstIncompleteTasksBlock.getD now)) ⟨s.pool, a, []⟩ =
        some (p, s'.firstIncompleteTasksBlock) ∧ s'.pool = p.pool ∧ L = p.processed ∧
      s.gasAllowance ≤ a + w.reads 1 + w.writes 1 := by
  unfold processTasks at h
  cases hm : s.firstIncompleteTasksBlock <;>
  · simp only [hm, Option.getD_some, Option.getD_none, Option.map_eq_some_iff] at h ⊢
    obtain ⟨⟨p, stop⟩, hb, hf⟩ := h
    cases stop <;>
    · simp only [Prod.mk.injEq] at hf
      obtain ⟨rfl, rfl⟩ := hf
      exact ⟨_, p, hb, rfl, rfl, by omega⟩

/-- What a call of `process_tasks` at block `now` did, from `s` to `s'`: it ran
`L`, distinct tasks of the pool due by `now`, in block order, and left the
rest; the first incomplete block it records is at most `now`, after every task
it ran and before every task left, and with none recorded every task left is
of a later block. -/
structure Called (now : ℕ) (s s' : Scheduler T) (L : List (ℕ × T)) : Prop where
  nodup : L.Nodup
  mem : ∀ x ∈ L, x ∈ s.pool ∧ x.1 ≤ now
  in_order : (L.map Prod.fst).Pairwise (· ≤ ·)
  pool : ∀ x, x ∈ s'.pool ↔ x ∈ s.pool ∧ x ∉ L
  all_done : s'.firstIncompleteTasksBlock = none → ∀ x ∈ s'.pool, now < x.1
  stopped : ∀ m, s'.firstIncompleteTasksBlock = some m →
    m ≤ now ∧ (∀ x ∈ L, x.1 ≤ m) ∧ ∀ x ∈ s'.pool, m ≤ x.1

/-- A call on a pool none of whose tasks is before the block the walk starts
at. -/
theorem processTasks_called {now : ℕ} {s s' : Scheduler T} {L : List (ℕ × T)}
    (hpool : ∀ x ∈ s.pool, s.firstIncompleteTasksBlock.getD now ≤ x.1)
    (h : processTasks w maxTaskGas taskGas now s = some (s', L)) : Called now s s' L := by
  obtain ⟨a, p, hb, hpool', rfl, -⟩ := processTasks_eq_some w maxTaskGas taskGas h
  obtain ⟨L, hL⟩ := processBlocks_drains w maxTaskGas taskGas (List.pairwise_lt_range' 1) hb
  -- a block of the walk is at most `now`; a pool task outside it is after `now`
  set first := s.firstIncompleteTasksBlock.getD now
  have hwalk : ∀ b, b ∈ List.range' first (now + 1 - first) → b ≤ now := by
    intro b hb
    rw [List.mem_range'_1] at hb
    omega
  have hafter : ∀ x ∈ s.pool, x.1 ∉ List.range' first (now + 1 - first) → now < x.1 := by
    intro x hx hnot
    have := hpool x hx
    rw [List.mem_range'_1] at hnot
    omega
  rw [hL.processed, List.nil_append]
  refine ⟨hL.nodup, fun x hx => ⟨(hL.mem x hx).1, hwalk _ (hL.mem x hx).2⟩, hL.in_order,
    fun x => by rw [hpool', hL.pool x], ?_, ?_⟩
  · intro hnone x hx
    rw [hpool'] at hx
    exact hafter x ((hL.pool x).mp hx).1 (hL.all_done hnone x hx)
  · intro m hm
    obtain ⟨hmb, hmL, hmpool⟩ := hL.stopped m hm
    refine ⟨hwalk m hmb, hmL, fun x hx => ?_⟩
    rw [hpool'] at hx
    by_cases hxb : x.1 ∈ List.range' first (now + 1 - first)
    · exact hmpool x hx hxb
    · exact ((hwalk m hmb).trans_lt (hafter x ((hL.pool x).mp hx).1 hxb)).le

/-- `process_tasks` never reaches its `unreachable!`. -/
theorem processTasks_isSome (now : ℕ) (s : Scheduler T) :
    (processTasks w maxTaskGas taskGas now s).isSome := by
  unfold processTasks
  cases s.firstIncompleteTasksBlock <;>
  · simp only [Option.isSome_map]
    exact processBlocks_isSome w maxTaskGas taskGas _ _

/-- What a task may take of the allowance: a write, its maximum and the gas it
spends. -/
def taskCost (task : T) : ℕ := w.writes 1 + maxTaskGas task + taskGas task

/-- What the checks of `process_tasks` keep back: a read and a write, and one
more write, and one. -/
def checkMargin : ℕ := w.readsWrites 1 1 + w.writes 1 + 1

/-- An allowance with which `process_tasks` at block `now` affords every task
of the blocks it walks: the first read or write, the margin of the checks, and
each task's cost. -/
def ampleAllowance (now : ℕ) (s : Scheduler T) : ℕ :=
  let first := s.firstIncompleteTasksBlock.getD now
  w.reads 1 + w.writes 1 + checkMargin w +
    ((List.range' first (now + 1 - first)).map fun bn =>
      ((TaskPool.drainPrefixKeys s.pool bn).map (taskCost w maxTaskGas taskGas)).sum).sum

/-- With the margin and the cost of its tasks, a block's loop runs them all and
keeps the margin. -/
theorem processBlock_ample (bn : ℕ) (ts : List T) (p : Progress T) (extra : ℕ)
    (h : checkMargin w + (ts.map (taskCost w maxTaskGas taskGas)).sum + extra ≤ p.gasAllowance) :
    (processBlock w maxTaskGas taskGas bn ts p).2 = .done ∧
      checkMargin w + extra ≤ (processBlock w maxTaskGas taskGas bn ts p).1.gasAllowance := by
  induction ts generalizing p with
  | nil => simpa [processBlock] using h
  | cons task tasks ih =>
    simp only [List.map_cons, List.sum_cons, taskCost, checkMargin, DbWeight.readsWrites_one_one,
      DbWeight.writes_one] at h
    have hmax : ¬p.gasAllowance - w.writes 1 - maxTaskGas task ≤ w.writes 1 := by
      simp only [DbWeight.writes_one]
      omega
    have hleft : ¬p.gasAllowance - w.writes 1 - taskGas task ≤ w.readsWrites 1 1 := by
      simp only [DbWeight.writes_one, DbWeight.readsWrites_one_one]
      omega
    simp only [processBlock, hmax, hleft, if_false]
    refine ih _ ?_
    simp only [checkMargin, DbWeight.readsWrites_one_one, DbWeight.writes_one]
    omega

/-- With an ample allowance the loop over distinct blocks does not stop. -/
theorem processBlocks_ample {bns : List ℕ} (hbns : bns.Nodup) {p p' : Progress T}
    {stop : Option ℕ}
    (ha : checkMargin w + (bns.map fun bn =>
      ((TaskPool.drainPrefixKeys p.pool bn).map (taskCost w maxTaskGas taskGas)).sum).sum ≤
        p.gasAllowance)
    (h : processBlocks w maxTaskGas taskGas bns p = some (p', stop)) : stop = none := by
  induction bns generalizing p with
  | nil =>
    simp only [processBlocks, Option.some.injEq, Prod.mk.injEq] at h
    exact h.2.symm
  | cons bn bns ih =>
    obtain ⟨hbn, hbns⟩ := List.nodup_cons.mp hbns
    simp only [List.map_cons, List.sum_cons, ← Nat.add_assoc] at ha
    have hblock : ¬p.gasAllowance ≤ w.writes 2 := by
      simp only [checkMargin, DbWeight.readsWrites_one_one, DbWeight.writes_one] at ha
      simp only [DbWeight.writes_two]
      omega
    obtain ⟨hdone, hgas⟩ := processBlock_ample w maxTaskGas taskGas bn _ p _ ha
    obtain ⟨done, hd⟩ :=
      processBlock_drains w maxTaskGas taskGas bn (TaskPool.drainPrefixKeys p.pool bn) p
    rcases hpb : processBlock w maxTaskGas taskGas bn (TaskPool.drainPrefixKeys p.pool bn) p
      with ⟨p₁, e⟩
    rw [hpb] at hdone hgas hd
    subst hdone
    simp only [processBlocks, hblock, if_false, hpb] at h
    refine ih hbns ?_ h
    -- the later blocks keep their tasks
    have hsame : ∀ b ∈ bns, TaskPool.drainPrefixKeys p₁.pool b = TaskPool.drainPrefixKeys p.pool b := by
      intro b hb
      refine TaskPool.drainPrefixKeys_congr fun t => ?_
      have hne : b ≠ bn := fun h => hbn (h ▸ hb)
      rw [hd.pool]
      simp [hne]
    rwa [List.map_congr_left fun b hb => by rw [hsame b hb]]

/-- With an ample allowance `process_tasks` records no incomplete block. -/
theorem processTasks_ample {now : ℕ} {s s' : Scheduler T} {L : List (ℕ × T)}
    (ha : ampleAllowance w maxTaskGas taskGas now s ≤ s.gasAllowance)
    (h : processTasks w maxTaskGas taskGas now s = some (s', L)) :
    s'.firstIncompleteTasksBlock = none := by
  obtain ⟨a, p, hb, -, -, hfirst⟩ := processTasks_eq_some w maxTaskGas taskGas h
  refine processBlocks_ample w maxTaskGas taskGas List.nodup_range' ?_ hb
  simp only [ampleAllowance] at ha
  simp only at hfirst ⊢
  omega

end Loops

namespace Chain

variable (w : DbWeight) (maxTaskGas : T → ℕ)

theorem step_add_eq_some {c c' : Chain T} {bn : ℕ} {task : T} :
    c.step w maxTaskGas (.add bn task) = some c' ↔
      c.now < bn ∧ (bn, task) ∉ c.scheduler.pool ∧
        { c with scheduler := { c.scheduler with pool := insert (bn, task) c.scheduler.pool } } =
          c' := by
  by_cases hn : c.now < bn <;> by_cases hm : (bn, task) ∈ c.scheduler.pool <;>
    simp [step, TaskPool.add, hn, hm]

theorem step_nextBlock_eq_some {c c' : Chain T} {a : ℕ} {taskGas : T → ℕ} :
    c.step w maxTaskGas (.nextBlock a taskGas) = some c' ↔
      ∃ s L, processTasks w maxTaskGas taskGas (c.now + 1)
          { c.scheduler with gasAllowance := a } = some (s, L) ∧
        ⟨s, c.now + 1, c.log ++ L.map ((c.now + 1, ·))⟩ = c' := by
  simp [step]

/-- The next block's `process_tasks` always returns. -/
theorem step_nextBlock_isSome (c : Chain T) (a : ℕ) (taskGas : T → ℕ) :
    (c.step w maxTaskGas (.nextBlock a taskGas)).isSome := by
  simp only [step, Option.isSome_map]
  exact processTasks_isSome w maxTaskGas taskGas _ _

/-- The invariant of the chain between blocks: the walk of the next call
starts at or before every pending task; no task ran twice or is both pending
and run; and every task ran at or after its block, before the current one, in
block order, and before every pending task. -/
structure Inv (c : Chain T) : Prop where
  marker_le_now : ∀ m, c.scheduler.firstIncompleteTasksBlock = some m → m ≤ c.now
  pending_from : ∀ x ∈ c.scheduler.pool,
    c.scheduler.firstIncompleteTasksBlock.getD (c.now + 1) ≤ x.1
  ran_once : (c.log.map (·.2)).Nodup
  pending_not_ran : ∀ x ∈ c.scheduler.pool, x ∉ c.log.map (·.2)
  ran_late : ∀ e ∈ c.log, e.2.1 ≤ e.1 ∧ e.1 ≤ c.now
  ran_in_order : (c.log.map (·.2.1)).Pairwise (· ≤ ·)
  ran_before_pending : ∀ e ∈ c.log, ∀ x ∈ c.scheduler.pool, e.2.1 ≤ x.1

omit [LinearOrder T] in
theorem inv_genesis (n : ℕ) : Inv (genesis n : Chain T) where
  marker_le_now := by simp [genesis]
  pending_from := by simp [genesis]
  ran_once := by simp [genesis]
  pending_not_ran := by simp [genesis]
  ran_late := by simp [genesis]
  ran_in_order := by simp [genesis]
  ran_before_pending := by simp [genesis]

/-- A task added at a later block keeps the invariant. -/
theorem Inv.add {c : Chain T} {bn : ℕ} {task : T} (hc : c.Inv) (hn : c.now < bn) :
    Inv { c with scheduler := { c.scheduler with pool := insert (bn, task) c.scheduler.pool } } := by
  -- a task that ran is of a block at most `now`
  have hran : ∀ e ∈ c.log, e.2.1 < bn := fun e he => by
    have := hc.ran_late e he
    omega
  refine ⟨hc.marker_le_now, ?_, hc.ran_once, ?_, hc.ran_late, hc.ran_in_order, ?_⟩
  · intro x hx
    rcases Finset.mem_insert.mp hx with rfl | hx
    · cases hm : c.scheduler.firstIncompleteTasksBlock with
      | none => exact hn
      | some m => simpa using (hc.marker_le_now m hm).trans hn.le
    · exact hc.pending_from x hx
  · intro x hx
    rcases Finset.mem_insert.mp hx with rfl | hx
    · intro hmem
      obtain ⟨e, he, hex⟩ := List.mem_map.mp hmem
      exact absurd (hex ▸ hran e he) (lt_irrefl _)
    · exact hc.pending_not_ran x hx
  · intro e he x hx
    rcases Finset.mem_insert.mp hx with rfl | hx
    · exact (hran e he).le
    · exact hc.ran_before_pending e he x hx

/-- The next block's `process_tasks` keeps the invariant. -/
theorem Inv.nextBlock {c : Chain T} {a : ℕ} {taskGas : T → ℕ} {s : Scheduler T}
    {L : List (ℕ × T)} (hc : c.Inv)
    (h : processTasks w maxTaskGas taskGas (c.now + 1) { c.scheduler with gasAllowance := a } =
      some (s, L)) :
    Inv ⟨s, c.now + 1, c.log ++ L.map ((c.now + 1, ·))⟩ := by
  have hL := processTasks_called w maxTaskGas taskGas
    (s := { c.scheduler with gasAllowance := a }) hc.pending_from h
  -- a task left pending is pending before, and after every task run now
  have hleft : ∀ x ∈ s.pool, x ∈ c.scheduler.pool ∧ ∀ y ∈ L, y.1 ≤ x.1 := by
    intro x hx
    refine ⟨((hL.pool x).mp hx).1, fun y hy => ?_⟩
    cases hm : s.firstIncompleteTasksBlock with
    | none => exact ((hL.mem y hy).2.trans_lt (hL.all_done hm x hx)).le
    | some m => exact ((hL.stopped m hm).2.1 y hy).trans ((hL.stopped m hm).2.2 x hx)
  refine ⟨fun m hm => (hL.stopped m hm).1, ?_, ?_, ?_, ?_, ?_, ?_⟩
  · intro x hx
    cases hm : s.firstIncompleteTasksBlock with
    | none => exact hL.all_done hm x hx
    | some m => simpa using (hL.stopped m hm).2.2 x hx
  · simp only [List.map_append, List.map_map]
    refine List.nodup_append.mpr ⟨hc.ran_once, ?_, ?_⟩
    · simpa [Function.comp_def] using hL.nodup
    · intro x hx y hy hxy
      subst hxy
      simp only [List.mem_map, Function.comp_apply] at hy
      obtain ⟨z, hz, rfl⟩ := hy
      exact hc.pending_not_ran z (hL.mem z hz).1 hx
  · intro x hx hmem
    rw [List.map_append, List.mem_append] at hmem
    rcases hmem with hmem | hmem
    · exact hc.pending_not_ran x (hleft x hx).1 hmem
    · simp only [List.map_map, List.mem_map, Function.comp_apply] at hmem
      obtain ⟨y, hy, rfl⟩ := hmem
      exact ((hL.pool y).mp hx).2 hy
  · intro e he
    rcases List.mem_append.mp he with he | he
    · have := hc.ran_late e he
      exact ⟨this.1, this.2.trans (Nat.le_succ _)⟩
    · obtain ⟨y, hy, rfl⟩ := List.mem_map.mp he
      exact ⟨(hL.mem y hy).2, le_rfl⟩
  · simp only [List.map_append, List.map_map]
    refine List.pairwise_append.mpr ⟨hc.ran_in_order, by simpa [Function.comp_def] using
      hL.in_order, ?_⟩
    intro i hi j hj
    obtain ⟨e, he, rfl⟩ := List.mem_map.mp hi
    simp only [List.mem_map, Function.comp_apply] at hj
    obtain ⟨y, hy, rfl⟩ := hj
    exact hc.ran_before_pending e he y (hL.mem y hy).1
  · intro e he x hx
    rcases List.mem_append.mp he with he | he
    · exact hc.ran_before_pending e he x (hleft x hx).1
    · obtain ⟨y, hy, rfl⟩ := List.mem_map.mp he
      exact (hleft x hx).2 y hy

/-- Every event keeps the invariant. -/
theorem Inv.step {c c' : Chain T} {e : Event T} (hc : c.Inv)
    (h : c.step w maxTaskGas e = some c') : c'.Inv := by
  cases e with
  | add bn task =>
    obtain ⟨hn, -, rfl⟩ := (step_add_eq_some w maxTaskGas).mp h
    exact hc.add hn
  | nextBlock a taskGas =>
    obtain ⟨s, L, hp, rfl⟩ := (step_nextBlock_eq_some w maxTaskGas).mp h
    exact hc.nextBlock w maxTaskGas hp

theorem run_cons_eq_some {c c' : Chain T} {e : Event T} {es : List (Event T)} :
    c.run w maxTaskGas (e :: es) = some c' ↔
      ∃ c₁, c.step w maxTaskGas e = some c₁ ∧ c₁.run w maxTaskGas es = some c' := by
  simp [run, Option.bind_eq_some_iff]

theorem Inv.run {c c' : Chain T} {es : List (Event T)} (hc : c.Inv)
    (h : c.run w maxTaskGas es = some c') : c'.Inv := by
  induction es generalizing c with
  | nil =>
    cases h
    exact hc
  | cons e es ih =>
    obtain ⟨c₁, h₁, h₂⟩ := (run_cons_eq_some w maxTaskGas).mp h
    exact ih (hc.step w maxTaskGas h₁) h₂

omit [LinearOrder T] in
theorem addedBy_cons (e : Event T) (es : List (Event T)) :
    addedBy (e :: es) = addedBy [e] ++ addedBy es := by
  cases e <;> rfl

/-- An event adds its task to the pending ones, or runs pending tasks; no task
is lost. -/
theorem step_accounts {c c' : Chain T} {e : Event T} (hc : c.Inv)
    (h : c.step w maxTaskGas e = some c') (x : ℕ × T) :
    (x ∈ c'.scheduler.pool ∨ x ∈ c'.log.map (·.2)) ↔
      (x ∈ c.scheduler.pool ∨ x ∈ c.log.map (·.2) ∨ x ∈ addedBy [e]) := by
  cases e with
  | add bn task =>
    obtain ⟨-, -, rfl⟩ := (step_add_eq_some w maxTaskGas).mp h
    simp only [Finset.mem_insert, addedBy, List.mem_singleton]
    tauto
  | nextBlock a taskGas =>
    obtain ⟨s, L, hp, rfl⟩ := (step_nextBlock_eq_some w maxTaskGas).mp h
    have hL := processTasks_called w maxTaskGas taskGas
      (s := { c.scheduler with gasAllowance := a }) hc.pending_from hp
    have hmem := hL.mem x
    simp only [List.map_append, List.map_map, List.mem_append, addedBy, List.not_mem_nil,
      or_false]
    rw [hL.pool x]
    simp only [Function.comp_def, List.map_id']
    tauto

/-- Over a run, every task is pending or has run exactly when it was pending
or had run at the start, or the run added it. -/
theorem run_accounts {c c' : Chain T} {es : List (Event T)} (hc : c.Inv)
    (h : c.run w maxTaskGas es = some c') (x : ℕ × T) :
    (x ∈ c'.scheduler.pool ∨ x ∈ c'.log.map (·.2)) ↔
      (x ∈ c.scheduler.pool ∨ x ∈ c.log.map (·.2) ∨ x ∈ addedBy es) := by
  induction es generalizing c with
  | nil =>
    cases h
    simp [addedBy]
  | cons e es ih =>
    obtain ⟨c₁, h₁, h₂⟩ := (run_cons_eq_some w maxTaskGas).mp h
    have hstep := step_accounts w maxTaskGas hc h₁ x
    rw [ih (hc.step w maxTaskGas h₁) h₂, addedBy_cons, List.mem_append]
    tauto

/-- No block is incomplete and every pending task is of a later block. -/
def UpToDate (c : Chain T) : Prop :=
  c.scheduler.firstIncompleteTasksBlock = none ∧ ∀ x ∈ c.scheduler.pool, c.now < x.1

/-- From block `n₀` on, the allowance of every block of the run is ample. -/
def Ample (n₀ : ℕ) : Chain T → List (Event T) → Prop
  | _, [] => True
  | c, e :: es =>
    (∀ a taskGas, e = .nextBlock a taskGas → n₀ ≤ c.now + 1 →
      ampleAllowance w maxTaskGas taskGas (c.now + 1) c.scheduler ≤ a) ∧
    ∀ c', c.step w maxTaskGas e = some c' → Ample n₀ c' es

/-- A task added at a later block keeps the chain up to date. -/
theorem UpToDate.add {c : Chain T} {bn : ℕ} {task : T} (hc : c.UpToDate) (hn : c.now < bn) :
    UpToDate { c with scheduler := { c.scheduler with pool := insert (bn, task) c.scheduler.pool } } := by
  refine ⟨hc.1, fun x hx => ?_⟩
  rcases Finset.mem_insert.mp hx with rfl | hx
  · exact hn
  · exact hc.2 x hx

/-- A block with an ample allowance brings the chain up to date. -/
theorem upToDate_nextBlock {c : Chain T} {a : ℕ} {taskGas : T → ℕ} {s : Scheduler T}
    {L : List (ℕ × T)} (hc : c.Inv)
    (ha : ampleAllowance w maxTaskGas taskGas (c.now + 1) c.scheduler ≤ a)
    (h : processTasks w maxTaskGas taskGas (c.now + 1) { c.scheduler with gasAllowance := a } =
      some (s, L)) :
    UpToDate (⟨s, c.now + 1, c.log ++ L.map ((c.now + 1, ·))⟩ : Chain T) := by
  have hL := processTasks_called w maxTaskGas taskGas
    (s := { c.scheduler with gasAllowance := a }) hc.pending_from h
  have hnone := processTasks_ample w maxTaskGas taskGas (s := { c.scheduler with gasAllowance := a })
    ha h
  exact ⟨hnone, hL.all_done hnone⟩

/-- Once the allowance is ample from block `n₀` on, the chain is up to date at
every block from `n₀` on that it reaches up to date or after a block. -/
theorem run_upToDate {n₀ : ℕ} {c c' : Chain T} {es : List (Event T)} (hc : c.Inv)
    (ha : Ample w maxTaskGas n₀ c es) (h : c.run w maxTaskGas es = some c') (hn : n₀ ≤ c'.now)
    (hstart : c.UpToDate ∨ c.now < c'.now) : c'.UpToDate := by
  induction es generalizing c with
  | nil =>
    cases h
    exact hstart.resolve_right (lt_irrefl _)
  | cons e es ih =>
    obtain ⟨c₁, h₁, h₂⟩ := (run_cons_eq_some w maxTaskGas).mp h
    refine ih (hc.step w maxTaskGas h₁) (ha.2 c₁ h₁) h₂ ?_
    cases e with
    | add bn task =>
      obtain ⟨hbn, -, rfl⟩ := (step_add_eq_some w maxTaskGas).mp h₁
      exact hstart.imp (fun hu => hu.add hbn) id
    | nextBlock a taskGas =>
      obtain ⟨s, L, hp, rfl⟩ := (step_nextBlock_eq_some w maxTaskGas).mp h₁
      by_cases hn₁ : n₀ ≤ c.now + 1
      · -- an ample block
        exact .inl (upToDate_nextBlock w maxTaskGas hc (ha.1 a taskGas rfl hn₁) hp)
      · -- a block before `n₀`: the run goes on to a later one
        exact .inr (lt_of_lt_of_le (not_le.mp hn₁) hn)

end Chain

/-- Over any run from a block with nothing scheduled: every task added is
pending or has run, never both, and none ran twice; each ran at or after its
block, in block order, and before every pending task; the first incomplete
block is at most the block of every pending task; the next block's
`process_tasks` always returns; and once the allowance is ample from block `n₀`
on, at every block from `n₀` on no block is incomplete and every task due has
run. -/
theorem process_tasks_runs_each_task_once (w : DbWeight) (maxTaskGas : T → ℕ) (n : ℕ)
    (es : List (Event T)) (c : Chain T) (h : (Chain.genesis n).run w maxTaskGas es = some c) :
    (∀ x, x ∈ addedBy es ↔ x ∈ c.scheduler.pool ∨ x ∈ c.log.map (·.2)) ∧
    (∀ x ∈ c.scheduler.pool, x ∉ c.log.map (·.2)) ∧
    (c.log.map (·.2)).Nodup ∧
    (∀ e ∈ c.log, e.2.1 ≤ e.1) ∧
    (c.log.map (·.2.1)).Pairwise (· ≤ ·) ∧
    (∀ e ∈ c.log, ∀ x ∈ c.scheduler.pool, e.2.1 ≤ x.1) ∧
    (∀ m, c.scheduler.firstIncompleteTasksBlock = some m → ∀ x ∈ c.scheduler.pool, m ≤ x.1) ∧
    (∀ a taskGas, (c.step w maxTaskGas (.nextBlock a taskGas)).isSome) ∧
    ∀ n₀, Chain.Ample w maxTaskGas n₀ (Chain.genesis n) es → n₀ ≤ c.now →
      c.scheduler.firstIncompleteTasksBlock = none ∧
        ∀ x ∈ addedBy es, x.1 ≤ c.now → x ∈ c.log.map (·.2) := by
  have hinv := (Chain.inv_genesis n).run w maxTaskGas h
  -- nothing is pending or has run at the start
  have hacc : ∀ x, x ∈ addedBy es ↔ x ∈ c.scheduler.pool ∨ x ∈ c.log.map (·.2) := fun x => by
    rw [Chain.run_accounts w maxTaskGas (Chain.inv_genesis n) h x]
    simp [Chain.genesis]
  refine ⟨hacc, hinv.pending_not_ran, hinv.ran_once, fun e he => (hinv.ran_late e he).1,
    hinv.ran_in_order, hinv.ran_before_pending, ?_, Chain.step_nextBlock_isSome w maxTaskGas c, ?_⟩
  · intro m hm x hx
    simpa [hm] using hinv.pending_from x hx
  · intro n₀ ha hn
    have hup := Chain.run_upToDate w maxTaskGas (Chain.inv_genesis n) ha h hn
      (.inl ⟨rfl, by simp [Chain.genesis]⟩)
    refine ⟨hup.1, fun x hx hxn => ?_⟩
    rcases (hacc x).mp hx with hp | hr
    · exact absurd (hup.2 x hp) (not_lt.mpr hxn)
    · exact hr

/-- Task 5 of block 1, put back at block 1 for want of gas, and task 7 of
block 2 both run at block 2, once each. -/
theorem runs_each_task_once_after_put_back :
    (Chain.genesis 0 : Chain ℕ).run ⟨1, 1⟩ (fun _ => 1)
        [.add 1 5, .add 2 7, .nextBlock 4 (fun _ => 1), .nextBlock 100 (fun _ => 1)] =
      some ⟨⟨∅, none, 95⟩, 2, [(2, 1, 5), (2, 2, 7)]⟩ ∧
    ([(2, 1, 5), (2, 2, 7)].map (·.2) : List (ℕ × ℕ)).Nodup := by
  have hrun : (Chain.genesis 0 : Chain ℕ).run ⟨1, 1⟩ (fun _ => 1)
      [.add 1 5, .add 2 7, .nextBlock 4 (fun _ => 1), .nextBlock 100 (fun _ => 1)] =
      some ⟨⟨∅, none, 95⟩, 2, [(2, 1, 5), (2, 2, 7)]⟩ := by
    simp [Chain.run, Chain.step, Chain.genesis, TaskPool.add, processTasks, processBlocks,
      processBlock, TaskPool.drainPrefixKeys, Finset.filter_singleton, Finset.sort_singleton,
      Finset.filter_insert, List.range', Finset.erase_insert_of_ne, Finset.erase_singleton]
  exact ⟨hrun, (process_tasks_runs_each_task_once _ _ _ _ _ hrun).2.2.1⟩

end Gear.Tasks
