import Gear.Sync.Exclusion

/-!
# `handle_signal` and the locks of a trapped message

A message that traps has its execution reverted; Gear then runs
`handle_signal` for it, as another message with `msg::signal_from()` the
trapped one. The default handler removes the message's task and drops its
future, and with it every guard the future holds. `MutexGuard::drop` lets the
holder's signal handler through (`is_holder_msg_signal_handler`); the two
rwlock guards call `ensure_access_by_holder` whoever drops them, and it panics
when `msg::id()` is not the holder.

A `handle_signal` that completes leaves no lock counting the trapped message
(`signal_releases`). But one of a message holding an rwlock guard always
panics (`handleSignal_ne_ok`) and is reverted in turn, and no later step
changes the guards of a message that is done and signalled (`Step.done`): the
rwlock counts the trapped message for the rest of every run
(`rwlock_guard_outlives_signal`).
-/

namespace Gear.Sync

open Statics

section Frame

/-! ## Each step changes the guards of its own message only -/

variable {env : Env} {st st' : ExecState} {m : MessageId}

/-- Ousting an owner marks its task and changes no guard. -/
theorem Ousted.guardsOf_eq {s s₁ : Statics} {i : ℕ} (h : Ousted s s₁ i) :
    s₁.guardsOf = s.guardsOf := by
  funext m
  obtain ⟨o, d, -, ⟨-, rfl⟩ | ⟨t, ht, rfl⟩⟩ := h
  · rfl
  · by_cases hm : m = o
    · subst hm
      simp [guardsOf_of_lookup ht]
    · simp [hm]

theorem MutexLockFuture.poll_guardsOf {f : MutexLockFuture} {r : Option Guard}
    (h : f.poll env st = .ok (r, st')) : st'.statics.guardsOf = st.statics.guardsOf := by
  rcases MutexLockFuture.poll_ok h with ⟨-, q, hq⟩ | ⟨s₁, hous, ⟨-, q, hq⟩ | ⟨-, d, q, hq⟩⟩ |
      ⟨-, -, d, hq⟩
  · simp [hq]
  · simp [hq, hous.guardsOf_eq]
  · simp [hq, hous.guardsOf_eq]
  · simp [hq]

theorem RwLockReadFuture.poll_guardsOf (j : ℕ) :
    (RwLockReadFuture.poll j env st).2.statics.guardsOf = st.statics.guardsOf := by
  rcases RwLockReadFuture.poll_cases j env st with ⟨-, -, hp⟩ | ⟨q, hp⟩ <;> simp [hp]

theorem RwLockWriteFuture.poll_guardsOf (j : ℕ) :
    (RwLockWriteFuture.poll j env st).2.statics.guardsOf = st.statics.guardsOf := by
  rcases RwLockWriteFuture.poll_cases j env st with ⟨-, -, hp⟩ | ⟨q, hp⟩ <;> simp [hp]

theorem keepGuard_guardsOf (r : Option Guard × ExecState) (hm : m ≠ env.msgId) :
    (keepGuard env r).2.statics.guardsOf m = r.2.statics.guardsOf m := by
  obtain ⟨_ | g, st⟩ := r <;> simp [keepGuard, ExecState.holdGuard, hm]

theorem Action.run_guardsOf {a : Action} {r : Bool} (h : a.run env st = .ok (r, st'))
    (hm : m ≠ env.msgId) : st'.statics.guardsOf m = st.statics.guardsOf m := by
  cases a with
  | lock f =>
    obtain ⟨p, hp, hk⟩ := Except.bind_eq_ok.mp h
    simp only [Except.pure_eq_ok, Except.ok.injEq] at hk
    obtain rfl : (keepGuard env p).2 = st' := congrArg Prod.snd hk
    rw [keepGuard_guardsOf p hm, MutexLockFuture.poll_guardsOf hp]
  | read j =>
    simp only [Action.run, Except.pure_eq_ok, Except.ok.injEq] at h
    obtain rfl : (keepGuard env (RwLockReadFuture.poll j env st)).2 = st' := congrArg Prod.snd h
    rw [keepGuard_guardsOf _ hm, RwLockReadFuture.poll_guardsOf]
  | write j =>
    simp only [Action.run, Except.pure_eq_ok, Except.ok.injEq] at h
    obtain rfl : (keepGuard env (RwLockWriteFuture.poll j env st)).2 = st' := congrArg Prod.snd h
    rw [keepGuard_guardsOf _ hm, RwLockWriteFuture.poll_guardsOf]
  | drop k =>
    simp only [Action.run] at h
    split at h
    · simp only [Except.pure_eq_ok, Except.ok.injEq, Prod.mk.injEq] at h
      rw [← h.2]
    · -- the guard leaves the current message's task and is dropped
      obtain ⟨st₁, hd, he⟩ := Except.bind_eq_ok.mp h
      simp only [Except.pure_eq_ok, Except.ok.injEq, Prod.mk.injEq] at he
      rw [← he.2, guardsOf_of_futures_eq (Guard.drop_futures hd)]
      simp [hm]

theorem pollFuture_guardsOf {as : List Action} {fin : Finish} {r : Bool}
    (h : pollFuture env as fin st = .ok (r, st')) (hm : m ≠ env.msgId) :
    st'.statics.guardsOf m = st.statics.guardsOf m := by
  induction as generalizing st with
  | nil =>
    cases fin with
    | complete =>
      obtain ⟨st₁, hd, he⟩ := Except.bind_eq_ok.mp h
      simp only [Except.pure_eq_ok, Except.ok.injEq, Prod.mk.injEq] at he
      rw [← he.2, guardsOf_of_futures_eq (dropGuards_futures hd)]
      simp [hm]
    | await =>
      simp only [pollFuture, Except.pure_eq_ok, Except.ok.injEq, Prod.mk.injEq] at h
      rw [← h.2]
  | cons a as ih =>
    obtain ⟨⟨ready, st₁⟩, ha, hrest⟩ := Except.bind_eq_ok.mp h
    rw [← Action.run_guardsOf ha hm]
    cases ready with
    | true => exact ih hrest
    | false =>
      simp only [Bool.false_eq_true, if_false, Except.pure_eq_ok, Except.ok.injEq,
        Prod.mk.injEq] at hrest
      rw [← hrest.2]

theorem messageLoop_guardsOf {as : List Action} {fin : Finish} {r : Bool}
    (h : messageLoop env as fin st = .ok (r, st')) (hm : m ≠ env.msgId) :
    st'.statics.guardsOf m = st.statics.guardsOf m := by
  unfold messageLoop at h
  split at h
  rename_i task st₀ hst
  -- a new task is the current message's
  have h₀ : st₀.statics.guardsOf m = st.statics.guardsOf m := by
    split at hst
    · cases hst
      rfl
    · cases hst
      simp [hm]
  split at h
  · cases h
  · dsimp only at h
    obtain ⟨⟨ready, st₁⟩, hp, he⟩ := Except.bind_eq_ok.mp h
    rw [← h₀, ← pollFuture_guardsOf hp hm]
    cases ready with
    | true =>
      simp only [if_true, Except.pure_eq_ok, Except.ok.injEq, Prod.mk.injEq] at he
      rw [← he.2]
      simp [hm]
    | false =>
      simp only [Bool.false_eq_true, if_false, Except.pure_eq_ok, Except.ok.injEq,
        Prod.mk.injEq] at he
      rw [← he.2]

theorem handleSignal_guardsOf {c : MessageId} (h : handleSignal env st = .ok st')
    (hc : env.signalFrom = some c) (hm : m ≠ c) :
    st'.statics.guardsOf m = st.statics.guardsOf m := by
  simp only [handleSignal, hc] at h
  split at h
  · cases h
    rfl
  · rw [guardsOf_of_futures_eq (dropGuards_futures h)]
    simp [hm]

/-- A `handle_signal` that completes leaves the trapped message no guard. -/
theorem handleSignal_guardsOf_self {c : MessageId} (h : handleSignal env st = .ok st')
    (hc : env.signalFrom = some c) : st'.statics.guardsOf c = [] := by
  simp only [handleSignal, hc] at h
  split at h
  · rename_i hl
    cases h
    exact guardsOf_of_lookup_eq_none hl
  · rw [guardsOf_of_futures_eq (dropGuards_futures h)]
    simp

end Frame

section Release

variable {env : Env} {st st' : ExecState}

/-- Dropping guards fails at an rwlock guard of another message than the one
running, whatever the drops before it do. -/
theorem dropGuards_ne_ok {h : MessageId} {j : ℕ} {g : Guard} (hg : g = .read j h ∨ g = .write j h)
    (hh : h ≠ env.msgId) {gs : List Guard} (hgs : g ∈ gs) : dropGuards env gs st ≠ .ok st' := by
  induction gs generalizing st with
  | nil => cases hgs
  | cons g' gs ih =>
    intro hd
    obtain ⟨st₁, h₁, h₂⟩ := Except.bind_eq_ok.mp hd
    rcases List.mem_cons.mp hgs with rfl | hgs
    · -- `ensure_access_by_holder` panics
      rcases hg with rfl | rfl
      · rw [Guard.drop, RwLockReadGuard.drop_not_holder hh] at h₁
        cases h₁
      · rw [Guard.drop, RwLockWriteGuard.drop_not_holder hh] at h₁
        cases h₁
    · exact ih hgs h₂

/-- The `handle_signal` of a message that holds an rwlock guard panics. -/
theorem handleSignal_ne_ok {h : MessageId} {j : ℕ} {g : Guard} (hg : g = .read j h ∨ g = .write j h)
    (hgh : g ∈ st.statics.guardsOf h) (hc : env.signalFrom = some h) (hh : h ≠ env.msgId) :
    handleSignal env st ≠ .ok st' := by
  cases hl : st.statics.futures.lookup h with
  | none =>
    rw [guardsOf_of_lookup_eq_none hl] at hgh
    cases hgh
  | some task =>
    rw [guardsOf_of_lookup hl] at hgh
    simp only [handleSignal, hc, hl]
    exact dropGuards_ne_ok hg hh hgh

/-- A `handle_signal` that completes, in a reachable state, leaves no lock
counting the trapped message: it holds no guard, owns no mutex, and is not an
rwlock's writer (and the readers are the read guards of the other messages). -/
theorem signal_releases {s : System} (hs : Reachable s) {m sid : MessageId} {b : BlockNumber}
    (hsig : handleSignal ⟨sid, some m, b⟩ ⟨s.statics, []⟩ = .ok st) :
    st.statics.guardsOf m = [] ∧ (∀ i d, (st.statics.mutexes i).locked ≠ some (m, d)) ∧
      ∀ j, (st.statics.rwlocks j).locked ≠ some m := by
  have hinv := (reachable_lockInv hs).handleSignal hsig
  have hnil := handleSignal_guardsOf_self hsig rfl
  refine ⟨hnil, fun i d hl => ?_, fun j hl => ?_⟩
  · have hpos := hinv.mutex_held i m d hl
    simp [hnil] at hpos
  · have hw := hinv.write_count j m
    simp [hnil, hl] at hw

end Release

/-! ## A message that is done and signalled keeps its guards -/

namespace System

variable {s : System} {c m : MessageId}

theorem execute_guardsOf (b : BlockNumber) (as : List Action) (fin : Finish) (hm : m ≠ c) :
    (s.execute c b as fin).statics.guardsOf m = s.statics.guardsOf m := by
  unfold execute
  split
  · rename_i ready st hl
    exact messageLoop_guardsOf hl hm
  · rfl

theorem finished_subset_execute (b : BlockNumber) (as : List Action) (fin : Finish) :
    s.finished ⊆ (s.execute c b as fin).finished := by
  unfold execute
  split
  · split_ifs <;> simp
  · simp [trap]

theorem signals_execute (b : BlockNumber) (as : List Action) (fin : Finish) :
    (s.execute c b as fin).signals ⊆ c :: s.signals := by
  unfold execute
  split
  · simp
  · simp [trap]

/-- An execution keeps every message with a due `handle_signal` done. -/
theorem signals_finished_execute (h : ∀ x ∈ s.signals, x ∈ s.finished) (b : BlockNumber)
    (as : List Action) (fin : Finish) :
    ∀ x ∈ (s.execute c b as fin).signals, x ∈ (s.execute c b as fin).finished := by
  unfold execute
  split
  · intro x hx
    have hf := h x hx
    split_ifs <;> simp [hf]
  · intro x hx
    simp only [trap, List.mem_cons] at hx ⊢
    exact hx.imp id (h x)

theorem signal_guardsOf (sid : MessageId) (b : BlockNumber) (hm : m ≠ c) :
    (s.signal c sid b).statics.guardsOf m = s.statics.guardsOf m := by
  unfold signal
  split
  · rename_i st hsig
    exact handleSignal_guardsOf hsig rfl hm
  · rfl

/-- A `handle_signal` that panics leaves static memory as it was. -/
theorem signal_of_ne_ok (sid : MessageId) (b : BlockNumber)
    (h : ∀ st, handleSignal ⟨sid, some c, b⟩ ⟨s.statics, []⟩ ≠ .ok st) :
    (s.signal c sid b).statics = s.statics := by
  unfold signal
  split
  · rename_i st hsig
    exact absurd hsig (h st)
  · rfl

end System

/-- Every message whose `handle_signal` is due is done. -/
theorem reachable_signals_finished {s : System} (hs : Reachable s) :
    ∀ x ∈ s.signals, x ∈ s.finished := by
  obtain ⟨d, hs⟩ := hs
  induction hs with
  | refl => simp [System.init]
  | tail _ hstep ih =>
    cases hstep with
    | execute block actions finish _ => exact System.signals_finished_execute ih block actions finish
    | trap =>
      intro x hx
      rcases List.mem_cons.mp hx with rfl | hx
      · simp [System.trap]
      · exact List.mem_cons_of_mem _ (ih x hx)
    | signal block _ _ =>
      intro x hx
      exact ih x (List.mem_of_mem_erase hx)

/-- The frame rule for a message that is done and whose `handle_signal` ran:
no step runs it, so no step changes its guards, and it stays so. -/
theorem Step.done {s s' : System} {m : MessageId} (h : Step s s') (hf : m ∈ s.finished)
    (hsg : m ∉ s.signals) :
    s'.statics.guardsOf m = s.statics.guardsOf m ∧ m ∈ s'.finished ∧ m ∉ s'.signals := by
  cases h with
  | @execute c block actions finish hc =>
    have hm : m ≠ c := fun h => hc (h ▸ hf)
    refine ⟨System.execute_guardsOf block actions finish hm,
      System.finished_subset_execute block actions finish hf, fun hx => ?_⟩
    rcases List.mem_cons.mp (System.signals_execute block actions finish hx) with h | h
    · exact hm h
    · exact hsg h
  | @trap c hc =>
    have hm : m ≠ c := fun h => hc (h ▸ hf)
    exact ⟨rfl, List.mem_cons_of_mem _ hf, by simp [System.trap, hm, hsg]⟩
  | @signal c sid block hc _ =>
    have hm : m ≠ c := fun h => hsg (h ▸ hc)
    exact ⟨System.signal_guardsOf _ block hm, hf, fun hx => hsg (List.mem_of_mem_erase hx)⟩

/-- The run lemma of `Step.done`. -/
theorem done_guardsOf {s s' : System} {m : MessageId} (hrun : Relation.ReflTransGen Step s s')
    (hf : m ∈ s.finished) (hsg : m ∉ s.signals) :
    s'.statics.guardsOf m = s.statics.guardsOf m ∧ m ∈ s'.finished ∧ m ∉ s'.signals := by
  induction hrun with
  | refl => exact ⟨rfl, hf, hsg⟩
  | tail _ hstep ih =>
    obtain ⟨hg, hf', hsg'⟩ := ih
    obtain ⟨hg₁, hf₁, hsg₁⟩ := hstep.done hf' hsg'
    exact ⟨hg₁.trans hg, hf₁, hsg₁⟩

/-- A message holding an rwlock guard traps: its `handle_signal`, run as any
other message, panics, and for the rest of the run, whatever happens in it,
the message keeps the guard and the lock counts it: it stays the writer, or
one of the readers, so that no writer ever gets the lock again. -/
theorem rwlock_guard_outlives_signal {s s' : System} {m sid : MessageId} {j : ℕ} {g : Guard}
    {b : BlockNumber} (hs : Reachable s) (hm : m ∉ s.finished)
    (hg : g = .read j m ∨ g = .write j m) (hgm : g ∈ s.statics.guardsOf m) (hsid : sid ≠ m)
    (hrun : Relation.ReflTransGen Step ((s.trap m).signal m sid b) s') :
    (∀ st, handleSignal ⟨sid, some m, b⟩ ⟨s.statics, []⟩ ≠ .ok st) ∧
      g ∈ s'.statics.guardsOf m ∧
      (g = .write j m → (s'.statics.rwlocks j).locked = some m) ∧
      (g = .read j m → 0 < (s'.statics.rwlocks j).readers) := by
  have hpanic : ∀ st, handleSignal ⟨sid, some m, b⟩ ⟨s.statics, []⟩ ≠ .ok st :=
    fun _ => handleSignal_ne_ok hg hgm rfl (Ne.symm hsid)
  -- the trap and the panicking `handle_signal` change nothing static
  have hsig : ((s.trap m).signal m sid b).statics = s.statics :=
    System.signal_of_ne_ok sid b hpanic
  -- the lock invariant of `s` holds after the signal, which changed nothing, and
  -- along the rest of the run
  have hinv : LockInv s'.statics := by
    have h₀ : LockInv ((s.trap m).signal m sid b).statics := by
      rw [hsig]
      exact reachable_lockInv hs
    induction hrun with
    | refl => exact h₀
    | tail _ hstep ih => exact ih.step hstep
  have hnsig : m ∉ ((s.trap m).signal m sid b).signals := by
    have hsg : m ∉ s.signals := fun h => hm (reachable_signals_finished hs m h)
    simpa [System.signal, System.trap] using hsg
  obtain ⟨hkeep, -, -⟩ := done_guardsOf hrun (by simp [System.signal, System.trap]) hnsig
  have hg' : g ∈ s'.statics.guardsOf m := by rwa [hkeep, hsig]
  refine ⟨hpanic, hg', fun hw => ?_, fun hr => ?_⟩
  · subst hw
    have hc := hinv.write_count j m
    have hpos : 0 < (s'.statics.guardsOf m).count (.write j m) := List.count_pos_iff.mpr hg'
    split_ifs at hc with hl
    · exact hl
    · omega
  · subst hr
    have hpos : 0 < (s'.statics.guardsOf m).count (.read j m) := List.count_pos_iff.mpr hg'
    rw [hinv.readers j, readGuards_eq_erase _ m]
    omega

/-- The rwlock documentation's `inc&ping`: message 1 takes the write lock and
awaits a reply, then traps; its `handle_signal`, run as message 2, panics, and
the lock stays message 1's. -/
theorem write_guard_outlives_signal :
    Reachable ((System.init 100).execute 1 0 [.write 0] .await) ∧
      (∀ st, handleSignal ⟨2, some 1, 0⟩
        ⟨((System.init 100).execute 1 0 [.write 0] .await).statics, []⟩ ≠ .ok st) ∧
      (((((System.init 100).execute 1 0 [.write 0] .await).trap 1).signal 1 2 0).statics.rwlocks
        0).locked = some 1 := by
  have hs : Reachable ((System.init 100).execute 1 0 [.write 0] .await) :=
    ⟨100, .single (.execute _ 0 [.write 0] .await (by decide) (by decide))⟩
  obtain ⟨hpanic, -, hw, -⟩ :=
    rwlock_guard_outlives_signal (m := 1) (j := 0) (b := 0) hs (by decide) (.inr rfl) (by decide)
      (show (2 : MessageId) ≠ 1 by decide) .refl
  exact ⟨hs, hpanic, hw rfl⟩

end Gear.Sync
