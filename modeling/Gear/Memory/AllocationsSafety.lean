import Gear.Memory.Allocations

/-!
# Safety of the allocations context

A context built by `try_new` keeps one invariant, `ContextInv`, whatever
calls follow: its heap is `[static_pages, max_pages)`, every allocated page
lies in the heap below the memory's size, and the memory holds the static
area and stays within `max_pages`. The invariant is what makes `alloc` first
fit in the heap:

> `alloc_first_fit`: a successful `alloc` of `n > 0` pages returns the lowest
> start of `n` free heap pages and allocates them;
> `alloc_out_of_bounds`: `ProgramAllocOutOfBounds` for `n > 0` pages means the
> heap has no `n` free pages in a row, so the memory could not grow by `n`.

Both rest on the gaps library: the voids of the heap are its `GapList`, and
`fitVoid` agrees with `Gaps.fits` on them because no void passes the last wasm
page. `alloc` with zero pages is the exception the source notes: it returns
the heap's start, and fails on an empty heap.
-/

namespace Gear.Memory

open IntervalsTreeOps

/-! ## What `try_new` checks -/

section TryNew

variable [tree : IntervalsTreeOps] (htree : tree.Spec)
include htree

theorem validateStart_ok {memorySize staticPages : ℕ} {S : Finset ℕ}
    (h : validateMemoryParams.validateStart memorySize S staticPages = .ok ()) :
    ∀ p ∈ S, staticPages ≤ p := by
  unfold validateMemoryParams.validateStart at h
  split at h
  · rename_i page hs
    split at h
    · cases h
    · exact fun p hp => by have := (htree.treeStart_some S page hs).2 p hp; omega
  · rename_i hs
    simp [htree.treeStart_none S hs]

theorem validateAllocations_ok {memorySize staticPages : ℕ} {S : Finset ℕ}
    (h : validateMemoryParams.validateAllocations memorySize S staticPages = .ok ()) :
    ∀ p ∈ S, staticPages ≤ p ∧ p < memorySize := by
  unfold validateMemoryParams.validateAllocations at h
  split at h
  · rename_i page he
    split at h
    · cases h
    · exact fun p hp => ⟨validateStart_ok htree h p hp,
        by have := (htree.treeEnd_some S page he).2 p hp; omega⟩
  · rename_i he
    simp [htree.treeEnd_none S he]

/-- Validated parameters: the memory holds the static area and fits in
`max_pages`, and every stored page is a heap page below the memory's size. -/
theorem validateMemoryParams_ok {memorySize staticPages maxPages : ℕ} {S : Finset ℕ}
    {stackEnd : Option ℕ}
    (h : validateMemoryParams memorySize S staticPages stackEnd maxPages = .ok ()) :
    memorySize ≤ maxPages ∧ staticPages ≤ memorySize ∧
      ∀ p ∈ S, staticPages ≤ p ∧ p < memorySize := by
  unfold validateMemoryParams at h
  split at h
  · cases h
  split at h
  · cases h
  refine ⟨by omega, by omega, ?_⟩
  split at h
  · split at h
    · cases h
    · exact validateAllocations_ok htree h
  · exact validateAllocations_ok htree h

end TryNew

/-! ## The invariant -/

/-- What a context built by `try_new`, with the memory's size, keeps. -/
structure ContextInv (staticPages maxPages : ℕ) (st : AllocationsContext × ℕ) : Prop where
  heap : st.1.heap = if staticPages < maxPages then some (staticPages, maxPages - 1) else none
  pages : ∀ p ∈ st.1.allocations, staticPages ≤ p ∧ p < st.2
  static_le : staticPages ≤ st.2
  mem_le : st.2 ≤ maxPages

theorem tryNew_inv [tree : IntervalsTreeOps] (htree : tree.Spec) {memorySize staticPages maxPages : ℕ}
    {S : Finset ℕ} {stackEnd : Option ℕ} {ctx : AllocationsContext}
    (h : tryNew memorySize S staticPages stackEnd maxPages = .ok ctx) :
    ContextInv staticPages maxPages (ctx, memorySize) := by
  unfold tryNew at h
  split at h
  · cases h
  · rename_i hv
    cases h
    obtain ⟨hmax, hstatic, hpages⟩ := validateMemoryParams_ok htree hv
    exact ⟨rfl, hpages, hstatic, hmax⟩

section Inv

variable {staticPages maxPages : ℕ} {st : AllocationsContext × ℕ}

/-- A page allocated in an invariant context is a heap page. -/
theorem ContextInv.lt_maxPages (hI : ContextInv staticPages maxPages st) {p : ℕ}
    (hp : p ∈ st.1.allocations) : p < maxPages :=
  Nat.lt_of_lt_of_le (hI.pages p hp).2 hI.mem_le

/-- Pages from the memory's end on are free. -/
theorem ContextInv.freeRun_memSize (hI : ContextInv staticPages maxPages st) (n : ℕ) :
    Gaps.FreeRun st.1.allocations st.2 n :=
  fun x hx _ hmem => absurd (hI.pages x hmem).2 (Nat.not_lt.2 hx)

/-- The voids of a nonempty heap are its gaps. -/
theorem ContextInv.gapList_voids [tree : IntervalsTreeOps] (htree : tree.Spec)
    (hI : ContextInv staticPages maxPages st) {heap : ℕ × ℕ}
    (hh : st.1.heap = some heap) :
    heap = (staticPages, maxPages - 1) ∧ staticPages < maxPages ∧
      Gaps.GapList st.1.allocations staticPages maxPages (voids st.1.allocations heap) := by
  have hheap := hI.heap
  split at hheap
  · rename_i hlt
    obtain rfl : heap = (staticPages, maxPages - 1) := Option.some.inj (hh.symm.trans hheap)
    refine ⟨rfl, hlt, ?_⟩
    have hG := htree.voids_gapList st.1.allocations staticPages (maxPages - 1) (by omega)
    rwa [show maxPages - 1 + 1 = maxPages by omega] at hG
  · rw [hh] at hheap
    cases hheap

end Inv

/-! ## `alloc` -/

/-- Inside the wasm pages, the closure of `find_map` is `Gaps.fits`. -/
theorem fitVoid_eq_fits {pages : ℕ} {v : ℕ × ℕ} (hn : 0 < pages) (hv : v.2 ≤ wasmPageUpper) :
    fitVoid pages v = Gaps.fits pages v := by
  unfold fitVoid Gaps.fits withLen
  by_cases hfit : v.1 + pages ≤ v.2 + 1
  · rw [if_neg (by omega), if_pos hfit, Option.bind_some, if_pos (by simp only; omega)]
  · rw [if_neg hfit]
    split
    · rfl
    · rw [Option.bind_some, if_neg (by simp only; omega)]

/-- On a list of gaps of a heap within the wasm pages, the closure of
`find_map` is `Gaps.fits`. -/
theorem fitVoid_eq_fits_of_gapList {S : Finset ℕ} {staticPages maxPages pages : ℕ}
    {l : List (ℕ × ℕ)} (hG : Gaps.GapList S staticPages maxPages l)
    (hmax : maxPages ≤ wasmPagesAmountUpper) (hn : 0 < pages) :
    ∀ v ∈ l, fitVoid pages v = Gaps.fits pages v := fun v hv => by
  have := (hG.inside v hv).2.2
  exact fitVoid_eq_fits hn (by unfold wasmPagesAmountUpper at hmax; omega)

theorem growTo_ok {memSize last memSize' : ℕ} {charge : ℕ → Except ChargeError Unit}
    (h : growTo memSize last charge = .ok memSize') : memSize' = max memSize (last + 1) := by
  unfold growTo at h
  split at h
  · split at h
    · cases h
      omega
    · cases h
  · cases h
    omega

theorem growTo_error {memSize last : ℕ} {charge : ℕ → Except ChargeError Unit} {e : AllocError}
    (h : growTo memSize last charge = .error e) : ∃ ce, e = .gasCharge ce := by
  unfold growTo at h
  split at h
  · split at h
    · cases h
    · cases h
      exact ⟨_, rfl⟩
  · cases h

/-- What `alloc` can do: leave everything as it was (zero pages, or an
error), or allocate the interval first fit found and grow the memory to hold
it. -/
theorem alloc_cases [IntervalsTreeOps] (ctx : AllocationsContext) (memSize pages : ℕ)
    (charge : ℕ → Except ChargeError Unit) :
    ((alloc ctx memSize pages charge).2 = (ctx, memSize) ∧
        (pages = 0 ∨ ∃ e, (alloc ctx memSize pages charge).1 = .error e)) ∨
      ∃ heap i, pages ≠ 0 ∧ ctx.heap = some heap ∧
        (voids ctx.allocations heap).findSome? (fitVoid pages) = some i ∧
        growTo memSize i.2 charge = .ok (alloc ctx memSize pages charge).2.2 ∧
        (alloc ctx memSize pages charge).1 = .ok i.1 ∧
        (alloc ctx memSize pages charge).2.1 =
          { ctx with allocations := ctx.allocations ∪ Finset.Icc i.1 i.2,
                     allocationsChanged := true } := by
  unfold alloc
  split
  · exact .inl ⟨rfl, .inr ⟨_, rfl⟩⟩
  · rename_i heap hh
    split
    · exact .inl ⟨rfl, .inl ‹_›⟩
    · rename_i hn
      split
      · exact .inl ⟨rfl, .inr ⟨_, rfl⟩⟩
      · rename_i i hi
        split
        · exact .inl ⟨rfl, .inr ⟨_, rfl⟩⟩
        · rename_i memSize' hg
          exact .inr ⟨heap, i, hn, hh, hi, hg, rfl, rfl⟩

section Alloc

variable [tree : IntervalsTreeOps] {ctx : AllocationsContext} {memSize pages : ℕ}
  {charge : ℕ → Except ChargeError Unit}

/-- A failing `alloc` leaves the context and the memory as they were. -/
theorem alloc_error {e : AllocError} (h : (alloc ctx memSize pages charge).1 = .error e) :
    (alloc ctx memSize pages charge).2 = (ctx, memSize) := by
  rcases alloc_cases ctx memSize pages charge with
    ⟨hs, -⟩ | ⟨heap, i, -, -, -, -, hr, -⟩
  · exact hs
  · rw [hr] at h
    cases h

/-- `ProgramAllocOutOfBounds` comes from an empty heap, or from voids none of
which has room. -/
theorem alloc_outOfBounds (h : (alloc ctx memSize pages charge).1 = .error .programAllocOutOfBounds) :
    ctx.heap = none ∨ ∃ heap, ctx.heap = some heap ∧ pages ≠ 0 ∧
      (voids ctx.allocations heap).findSome? (fitVoid pages) = none := by
  unfold alloc at h
  split at h
  · exact .inl ‹_›
  · rename_i heap hh
    split at h
    · cases h
    · split at h
      · exact .inr ⟨heap, hh, ‹_›, ‹_›⟩
      · split at h
        · rename_i e hg
          obtain ⟨ce, rfl⟩ := growTo_error hg
          cases h
        · cases h

variable {staticPages maxPages : ℕ}

/-- `alloc` keeps the invariant: the new pages are heap pages, and the memory
grows to hold them but not past `max_pages`. -/
theorem alloc_inv (htree : tree.Spec) (hI : ContextInv staticPages maxPages (ctx, memSize))
    (hmax : maxPages ≤ wasmPagesAmountUpper) :
    ContextInv staticPages maxPages (alloc ctx memSize pages charge).2 := by
  rcases alloc_cases ctx memSize pages charge with
    ⟨hs, -⟩ | ⟨heap, i, hn, hh, hi, hg, -, hc⟩
  · rw [hs]
    exact hI
  obtain ⟨rfl, -, hG⟩ := hI.gapList_voids htree hh
  obtain ⟨hieq, hlo, hhi, -, -⟩ := hG.findSome_fits (Nat.pos_of_ne_zero hn)
    (fitVoid_eq_fits_of_gapList hG hmax (Nat.pos_of_ne_zero hn)) hi
  have hmem := growTo_ok hg
  have hi2 : i.2 = i.1 + pages - 1 := congrArg Prod.snd hieq
  refine ⟨by rw [hc]; exact hI.heap, ?_, ?_, ?_⟩
  · intro p hp
    rw [hc, Finset.mem_union, Finset.mem_Icc] at hp
    rcases hp with hp | hp
    · have := hI.pages p hp
      simp only at this
      omega
    · omega
  · have := hI.static_le
    simp only at this
    omega
  · have := hI.mem_le
    simp only at this
    omega

/-- First fit: a successful `alloc` of `pages > 0` pages returns the lowest
start of `pages` free heap pages, and allocates exactly them. -/
theorem alloc_first_fit (htree : tree.Spec) (hI : ContextInv staticPages maxPages (ctx, memSize))
    (hmax : maxPages ≤ wasmPagesAmountUpper) (hn : 0 < pages) {r : ℕ}
    (h : (alloc ctx memSize pages charge).1 = .ok r) :
    staticPages ≤ r ∧ r + pages ≤ maxPages ∧ Gaps.FreeRun ctx.allocations r pages ∧
      (alloc ctx memSize pages charge).2.1.allocations =
        ctx.allocations ∪ Finset.Ico r (r + pages) ∧
      ∀ q, staticPages ≤ q → q + pages ≤ maxPages → Gaps.FreeRun ctx.allocations q pages →
        r ≤ q := by
  rcases alloc_cases ctx memSize pages charge with
    ⟨-, hz | ⟨e, he⟩⟩ | ⟨heap, i, -, hh, hi, -, hr, hc⟩
  · omega
  · rw [he] at h
    cases h
  obtain ⟨rfl, -, hG⟩ := hI.gapList_voids htree hh
  obtain ⟨hieq, hlo, hhi, hfree, hlow⟩ :=
    hG.findSome_fits hn (fitVoid_eq_fits_of_gapList hG hmax hn) hi
  obtain rfl : i.1 = r := Except.ok.inj (hr.symm.trans h)
  have hi2 : i.2 = i.1 + pages - 1 := congrArg Prod.snd hieq
  refine ⟨hlo, hhi, hfree, ?_, hlow⟩
  rw [hc]
  ext x
  simp only [Finset.mem_union, Finset.mem_Icc, Finset.mem_Ico, hi2]
  exact or_congr_right (by omega)

/-- `ProgramAllocOutOfBounds` for `pages > 0`: the heap has no `pages` free
pages in a row; in particular the memory could not grow by `pages`. -/
theorem alloc_out_of_bounds (htree : tree.Spec) (hI : ContextInv staticPages maxPages (ctx, memSize))
    (hmax : maxPages ≤ wasmPagesAmountUpper) (hn : 0 < pages)
    (h : (alloc ctx memSize pages charge).1 = .error .programAllocOutOfBounds) :
    (∀ q, staticPages ≤ q → q + pages ≤ maxPages → ¬ Gaps.FreeRun ctx.allocations q pages) ∧
      maxPages < memSize + pages := by
  have hnone : ∀ q, staticPages ≤ q → q + pages ≤ maxPages →
      ¬ Gaps.FreeRun ctx.allocations q pages := by
    rcases alloc_outOfBounds h with hh | ⟨heap, hh, -, hi⟩
    · -- an empty heap: `static_pages = max_pages`
      have hheap := hI.heap
      simp only [hh] at hheap
      split at hheap
      · cases hheap
      · intro q hq hqn _
        omega
    · obtain ⟨rfl, -, hG⟩ := hI.gapList_voids htree hh
      exact hG.findSome_fits_eq_none hn (fitVoid_eq_fits_of_gapList hG hmax hn) hi
  refine ⟨hnone, Nat.lt_of_not_le fun hle => ?_⟩
  -- the pages from the memory's end on would be a free run
  exact hnone memSize hI.static_le hle (hI.freeRun_memSize pages)

end Alloc

/-- With no heap, `alloc` of zero pages fails with `ProgramAllocOutOfBounds`,
though the memory could grow by zero pages. -/
theorem alloc_zero_pages_out_of_bounds :
    tryNew 1 ∅ 1 none 1 = .ok ⟨∅, false, none, 1⟩ ∧
      (alloc ⟨∅, false, none, 1⟩ 1 0 fun _ => .ok ()).1 = .error .programAllocOutOfBounds ∧
      1 + 0 ≤ 1 :=
  ⟨rfl, rfl, le_rfl⟩

/-! ## `free` and `free_range` -/

section Free

variable {ctx : AllocationsContext} {staticPages maxPages memSize : ℕ}

theorem free_error {page : ℕ} {e : AllocError} (h : (free ctx page).1 = .error e) :
    (free ctx page).2 = ctx := by
  unfold free at h ⊢
  cases hh : ctx.heap with
  | none => rfl
  | some heap =>
    simp only [hh] at h ⊢
    -- the branch that frees contradicts `h`
    split_ifs at h ⊢
    rfl

theorem freeRange_error {interval : ℕ × ℕ} {e : AllocError}
    (h : (freeRange ctx interval).1 = .error e) : (freeRange ctx interval).2 = ctx := by
  unfold freeRange at h ⊢
  cases hh : ctx.heap with
  | none => rfl
  | some heap =>
    simp only [hh] at h ⊢
    -- the branches that free contradict `h`
    split_ifs at h ⊢
    rfl

/-- `free` only takes pages out. -/
theorem free_subset (page : ℕ) : (free ctx page).2.allocations ⊆ ctx.allocations := by
  unfold free
  split
  · split
    · exact Finset.erase_subset page ctx.allocations
    · exact subset_rfl
  · exact subset_rfl

/-- `free_range` only takes pages out. -/
theorem freeRange_subset (interval : ℕ × ℕ) :
    (freeRange ctx interval).2.allocations ⊆ ctx.allocations := by
  unfold freeRange
  split
  · split
    · split
      · exact Finset.sdiff_subset
      · exact subset_rfl
    · exact subset_rfl
  · exact subset_rfl

theorem free_heap (page : ℕ) : (free ctx page).2.heap = ctx.heap := by
  unfold free
  split
  · split <;> rfl
  · rfl

theorem freeRange_heap (interval : ℕ × ℕ) : (freeRange ctx interval).2.heap = ctx.heap := by
  unfold freeRange
  split
  · split
    · split <;> rfl
    · rfl
  · rfl

/-- A context that keeps its heap and only loses pages keeps the invariant. -/
theorem ContextInv.of_subset {ctx' : AllocationsContext}
    (hI : ContextInv staticPages maxPages (ctx, memSize)) (hheap : ctx'.heap = ctx.heap)
    (hsub : ctx'.allocations ⊆ ctx.allocations) :
    ContextInv staticPages maxPages (ctx', memSize) :=
  ⟨hheap.trans hI.heap, fun p hp => hI.pages p (hsub hp), hI.static_le, hI.mem_le⟩

end Free

/-! ## Runs -/

section Runs

variable [tree : IntervalsTreeOps] {staticPages maxPages : ℕ}

/-- Every call keeps the invariant. -/
theorem AllocCall.apply_inv (htree : tree.Spec) {st : AllocationsContext × ℕ} (call : AllocCall)
    (hI : ContextInv staticPages maxPages st) (hmax : maxPages ≤ wasmPagesAmountUpper) :
    ContextInv staticPages maxPages (call.apply st).2 := by
  cases call with
  | alloc pages charge => exact alloc_inv htree hI hmax
  | free page => exact hI.of_subset (free_heap page) (free_subset page)
  | freeRange interval => exact hI.of_subset (freeRange_heap interval) (freeRange_subset interval)

/-- A failing call leaves the context and the memory as they were. -/
theorem AllocCall.apply_error {st : AllocationsContext × ℕ} (call : AllocCall) {e : AllocError}
    (h : (call.apply st).1 = .error e) : (call.apply st).2 = st := by
  cases call with
  | alloc pages charge =>
    simp only [AllocCall.apply] at h ⊢
    cases hr : (Gear.Memory.alloc st.1 st.2 pages charge).1 with
    | error e' => rw [alloc_error hr]
    | ok r =>
      rw [hr] at h
      cases h
  | free page =>
    simp only [AllocCall.apply] at h ⊢
    rw [free_error h]
  | freeRange interval =>
    simp only [AllocCall.apply] at h ⊢
    rw [freeRange_error h]

/-- Every run keeps the invariant. -/
theorem allocRun_inv (htree : tree.Spec) (calls : List AllocCall) {st : AllocationsContext × ℕ}
    (hI : ContextInv staticPages maxPages st) (hmax : maxPages ≤ wasmPagesAmountUpper) :
    ContextInv staticPages maxPages (allocRun st calls) := by
  induction calls generalizing st with
  | nil => exact hI
  | cons call calls ih => exact ih (call.apply_inv htree hI hmax)

/-- The allocations context is safe along every run from `try_new`: allocated
pages stay in the heap below the memory's size, which stays within
`max_pages`; `alloc` of `pages > 0` pages is first fit, and refuses only when
the heap has no room for them; and a failing call changes nothing. -/
theorem run_allocations_safe (htree : tree.Spec) {memorySize : ℕ} {allocations : Finset ℕ} {stackEnd : Option ℕ}
    {ctx : AllocationsContext} (hmax : maxPages ≤ wasmPagesAmountUpper)
    (hnew : tryNew memorySize allocations staticPages stackEnd maxPages = .ok ctx)
    (calls : List AllocCall) {ctx' : AllocationsContext} {mem' : ℕ}
    (hrun : allocRun (ctx, memorySize) calls = (ctx', mem')) :
    ((∀ p ∈ ctx'.allocations, staticPages ≤ p ∧ p < maxPages ∧ p < mem') ∧ mem' ≤ maxPages) ∧
      (∀ pages charge r, 0 < pages → (alloc ctx' mem' pages charge).1 = .ok r →
        staticPages ≤ r ∧ r + pages ≤ maxPages ∧ Gaps.FreeRun ctx'.allocations r pages ∧
          (alloc ctx' mem' pages charge).2.1.allocations =
            ctx'.allocations ∪ Finset.Ico r (r + pages) ∧
          ∀ q, staticPages ≤ q → q + pages ≤ maxPages → Gaps.FreeRun ctx'.allocations q pages →
            r ≤ q) ∧
      (∀ pages charge, 0 < pages →
        (alloc ctx' mem' pages charge).1 = .error .programAllocOutOfBounds →
          (∀ q, staticPages ≤ q → q + pages ≤ maxPages →
            ¬ Gaps.FreeRun ctx'.allocations q pages) ∧ maxPages < mem' + pages) ∧
      (∀ (call : AllocCall) e, (call.apply (ctx', mem')).1 = .error e →
        (call.apply (ctx', mem')).2 = (ctx', mem')) := by
  have hI : ContextInv staticPages maxPages (ctx', mem') :=
    hrun ▸ allocRun_inv htree calls (tryNew_inv htree hnew) hmax
  refine ⟨⟨fun p hp => ⟨(hI.pages p hp).1, hI.lt_maxPages hp, (hI.pages p hp).2⟩, hI.mem_le⟩,
    fun pages charge r hn h => alloc_first_fit htree hI hmax hn h,
    fun pages charge hn h => alloc_out_of_bounds htree hI hmax hn h,
    fun call e h => call.apply_error h⟩

end Runs

/-- Two pages allocated, one freed, and a grow whose charge fails: the memory
stays within `max_pages`. -/
theorem run_allocations_safe_alloc_free :
    (allocRun (⟨∅, false, some (1, 3), 1⟩, 1)
        [.alloc 2 (fun _ => .ok ()), .free 1, .alloc 1 (fun _ => .error .gasLimitExceeded)]).2 ≤ 4 :=
  (run_allocations_safe finsetTree_spec (by decide)
    (show tryNew 1 ∅ 1 none 4 = .ok ⟨∅, false, some (1, 3), 1⟩ from rfl) _
    Prod.mk.eta.symm).1.2

end Gear.Memory
