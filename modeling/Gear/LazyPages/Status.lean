import Gear.LazyPages.Process
import Gear.Lib.ExceptBind

/-!
# Is gas exhaustion sticky?

`process_one` ends in one of three ways (`processOne_cases`): it charges
nothing; a charge fails, which sets the status to `GasLimitExceeded`, the
counter to zero, and leaves the page out of the accessed pages; or its charges
are paid, which sets the status to `Normal`. The third way is open after a
failed charge too, when the next page's price is zero, since zero can be paid
from an empty counter:

> `exceeded_status_reset_by_zero_cost_read`: in one walk of the pages, a page
> whose data load cannot be paid sets `GasLimitExceeded`, and the next page,
> read at price zero, sets `Normal` again, which is what
> `process_lazy_pages` returns.

With the read, write and write-after-read prices positive, the status is
sticky: after a failed charge every later charge fails, the counter stays at
zero and no page is added (`foldlM_processOne_of_exceeded`).
-/

namespace Gear.LazyPages

variable {c : GasCharger} {ctx ctx' : ExecCtx} {g g' : ℕ} {isWrite : Bool} {page : GearPage}

namespace GasCharger

theorem subGas_cases (g a : ℕ) :
    (a ≤ g ∧ subGas g a = (g - a, .normal)) ∨ subGas g a = (0, .gasLimitExceeded) := by
  unfold subGas
  by_cases ha : a ≤ g
  · exact .inl ⟨ha, if_pos ha⟩
  · exact .inr (if_neg ha)

theorem chargeForPageAccess_fresh (c : GasCharger) (g : ℕ) (page : GearPage) (isWrite : Bool) :
    c.chargeForPageAccess g page isWrite false =
      .ok (subGas g (if isWrite then c.writeCost else c.readCost)) := by
  cases isWrite <;> rfl

end GasCharger

theorem ExecCtx.setWriteAccessed_status {s s' : ExecCtx} {p : GearPage}
    (h : s.setWriteAccessed p = .ok s') : s'.status = s.status := by
  unfold ExecCtx.setWriteAccessed at h
  split at h
  · cases h
  · cases h
    rfl

theorem ExecCtx.finishAccess_status {s s' : ExecCtx} {p : GearPage}
    (h : s.finishAccess isWrite p = .ok s') : s'.status = s.status := by
  unfold ExecCtx.finishAccess at h
  split at h
  · have hs := ExecCtx.setWriteAccessed_status h
    exact hs
  · cases h
    rfl

theorem map_pair_eq_ok {α : Type} {x : Except Error α} {n : ℕ} {y : α × ℕ}
    (h : x.map (·, n) = .ok y) : ∃ a, x = .ok a ∧ y = (a, n) := by
  cases x with
  | error e => cases h
  | ok a =>
    cases h
    exact ⟨a, rfl, rfl⟩

/-- What `process_one` does to a page: nothing; a charge it cannot pay, which
leaves the page alone and the counter at zero; or charges it pays, one of
them a read, write or write-after-read price, which leave the status `Normal`. -/
theorem processOne_cases (h : processOne c isWrite (ctx, g) page = .ok (ctx', g')) :
    (ctx' = ctx ∧ g' = g) ∨
    (ctx' = { ctx with status := .gasLimitExceeded } ∧ g' = 0) ∨
    (ctx'.status = .normal ∧ g' ≤ g ∧
      (c.readCost ≤ g ∨ c.writeCost ≤ g ∨ c.writeAfterReadCost ≤ g)) := by
  unfold processOne at h
  dsimp only at h
  split_ifs at h with hstack hw ha hwr hdata
  case pos => cases h; exact .inl ⟨rfl, rfl⟩
  case pos => cases h; exact .inl ⟨rfl, rfl⟩
  case pos =>
    -- a page read before and written now: the write-after-read price
    rcases GasCharger.subGas_cases g c.writeAfterReadCost with ⟨hle, hs⟩ | hs <;>
      simp only [GasCharger.chargeForPageAccess, hs] at h
    · obtain ⟨ctx₁, h₁, hy⟩ := map_pair_eq_ok h
      cases hy
      exact .inr (.inr ⟨ExecCtx.setWriteAccessed_status h₁, Nat.sub_le _ _, .inr (.inr hle)⟩)
    · cases h
      exact .inr (.inl ⟨rfl, rfl⟩)
  case neg => cases h; exact .inl ⟨rfl, rfl⟩
  all_goals
    rw [GasCharger.chargeForPageAccess_fresh] at h
    have hcost : (if isWrite then c.writeCost else c.readCost) ≤ g →
        c.readCost ≤ g ∨ c.writeCost ≤ g ∨ c.writeAfterReadCost ≤ g := by
      intro hle
      cases isWrite
      · exact .inl hle
      · exact .inr (.inl hle)
    rcases GasCharger.subGas_cases g (if isWrite then c.writeCost else c.readCost) with
      ⟨hle, hs⟩ | hs <;> simp only [hs] at h
  case pos.inl =>
    -- a fresh page with data: the access price, then the data load
    rcases GasCharger.subGas_cases (g - if isWrite then c.writeCost else c.readCost) c.loadDataCost
      with ⟨-, hs'⟩ | hs' <;> simp only [GasCharger.chargeForPageDataLoad, hs'] at h
    · obtain ⟨ctx₁, h₁, hy⟩ := map_pair_eq_ok h
      cases hy
      exact .inr (.inr ⟨ExecCtx.finishAccess_status h₁, by omega, hcost hle⟩)
    · cases h
      exact .inr (.inl ⟨rfl, rfl⟩)
  case pos.inr =>
    cases h
    exact .inr (.inl ⟨rfl, rfl⟩)
  case neg.inl =>
    -- a fresh page without data: the access price only
    obtain ⟨ctx₁, h₁, hy⟩ := map_pair_eq_ok h
    cases hy
    exact .inr (.inr ⟨ExecCtx.finishAccess_status h₁, Nat.sub_le _ _, hcost hle⟩)
  case neg.inr =>
    cases h
    exact .inr (.inl ⟨rfl, rfl⟩)

theorem processOne_counter_le (h : processOne c isWrite (ctx, g) page = .ok (ctx', g')) : g' ≤ g := by
  rcases processOne_cases h with ⟨-, rfl⟩ | ⟨-, rfl⟩ | ⟨-, hle, -⟩
  · exact le_rfl
  · exact Nat.zero_le _
  · exact hle

/-- A step that ends with the gas exceeded added no page. -/
theorem processOne_exceeded_pages (h : processOne c isWrite (ctx, g) page = .ok (ctx', g'))
    (hst : ctx'.status = .gasLimitExceeded) :
    ctx'.accessedPages = ctx.accessedPages ∧ ctx'.writeAccessedPages = ctx.writeAccessedPages := by
  rcases processOne_cases h with ⟨rfl, -⟩ | ⟨rfl, -⟩ | ⟨hn, -, -⟩
  · exact ⟨rfl, rfl⟩
  · exact ⟨rfl, rfl⟩
  · rw [hn] at hst
    cases hst

section Positive

-- the read, write and write-after-read prices are positive
variable (hpos : 0 < c.readCost ∧ 0 < c.writeCost ∧ 0 < c.writeAfterReadCost)
include hpos

/-- From an empty counter and an exceeded status, with positive prices, a step
keeps the status, the counter and the pages. -/
theorem processOne_of_exceeded (hst : ctx.status = .gasLimitExceeded)
    (h : processOne c isWrite (ctx, 0) page = .ok (ctx', g')) :
    ctx'.status = .gasLimitExceeded ∧ g' = 0 ∧ ctx'.accessedPages = ctx.accessedPages := by
  rcases processOne_cases h with ⟨rfl, rfl⟩ | ⟨rfl, rfl⟩ | ⟨-, -, hcost⟩
  · exact ⟨hst, rfl, rfl⟩
  · exact ⟨rfl, rfl, rfl⟩
  · omega

/-- The walk of the remaining pages keeps an exceeded status, an empty counter
and the accessed pages. -/
theorem foldlM_processOne_of_exceeded :
    ∀ (pages : List GearPage) {ctx ctx' : ExecCtx} {g' : ℕ}, ctx.status = .gasLimitExceeded →
      pages.foldlM (processOne c isWrite) (ctx, 0) = .ok (ctx', g') →
      ctx'.status = .gasLimitExceeded ∧ g' = 0 ∧ ctx'.accessedPages = ctx.accessedPages
  | [], _, _, _, hst, h => by
    cases h
    exact ⟨hst, rfl, rfl⟩
  | q :: pages, ctx, ctx', g', hst, h => by
    rw [List.foldlM_cons] at h
    obtain ⟨⟨ctx₁, g₁⟩, h₁, h⟩ := Except.bind_eq_ok.mp h
    obtain ⟨hst₁, rfl, hpages₁⟩ := processOne_of_exceeded hpos hst h₁
    obtain ⟨hst', rfl, hpages'⟩ := foldlM_processOne_of_exceeded pages hst₁ h
    exact ⟨hst', rfl, hpages'.trans hpages₁⟩

end Positive

/-- A fresh page without data, read at price zero, is paid from any counter:
the status becomes `Normal`, whatever it was, and the page accessed. -/
theorem processOne_zero_cost_read (hread : c.readCost = 0) (hstack : ctx.stackEnd ≤ page)
    (hw : page ∉ ctx.writeAccessedPages) (hfresh : page ∉ ctx.accessedPages)
    (hdata : ctx.hasData page = false) :
    processOne c false (ctx, g) page = .ok ({ ctx with status := .normal }.setAccessed page, g) := by
  simp [processOne, GasCharger.chargeForPageAccess, GasCharger.subGas, hread, ExecCtx.finishAccess,
    not_lt.mpr hstack, hw, hfresh, hdata, Except.map]

/-- A fresh page with data whose load cannot be paid exceeds the gas. -/
theorem processOne_load_exceeded (hstack : ctx.stackEnd ≤ page)
    (hw : page ∉ ctx.writeAccessedPages) (hfresh : page ∉ ctx.accessedPages)
    (hdata : ctx.hasData page = true) (hread : c.readCost ≤ g)
    (hload : g - c.readCost < c.loadDataCost) :
    processOne c false (ctx, g) page = .ok ({ ctx with status := .gasLimitExceeded }, 0) := by
  simp [processOne, GasCharger.chargeForPageAccess, GasCharger.chargeForPageDataLoad,
    GasCharger.subGas, not_lt.mpr hstack, hw, hfresh, hdata, hread, not_le.mpr hload]

/-- A call on two pages within memory, from a `Normal` status, walks the lower
page and then the higher one. -/
theorem processLazyPages_pair {p q : GearPage} (hpq : p < q) (hmem : q < ctx.wasmMemSize)
    (haddr : ctx.wasmMemAddr.isSome) (hnormal : ctx.status = .normal) :
    processLazyPages c isWrite ctx g {p, q} =
      ((processOne c isWrite (ctx, g) p).bind fun st => processOne c isWrite st q).map
        fun st => (st.1.status, st.1, st.2) := by
  have hsort : ({p, q} : Finset GearPage).sort (· ≤ ·) = [p, q] := by
    rw [Finset.sort_insert _ (by simpa using hpq.le) (by simpa using hpq.ne), Finset.sort_singleton]
  have hsome : ctx.wasmMemAddr.isNone = false := by
    cases hw : ctx.wasmMemAddr <;> simp_all
  simp only [processLazyPages, hsort, List.getLast?_cons_cons, List.getLast?_singleton,
    not_le.mpr hmem, if_false, hnormal, ne_eq, not_true_eq_false, hsome, Bool.false_eq_true,
    List.foldlM_cons, List.foldlM_nil, bind_pure]
  rfl

theorem exceeded_status_reset_by_zero_cost_read {p q : GearPage} (hread : c.readCost = 0)
    (hload : g < c.loadDataCost) (hpq : p < q) (hstack : ctx.stackEnd ≤ p)
    (hmem : q < ctx.wasmMemSize) (haddr : ctx.wasmMemAddr.isSome) (hnormal : ctx.status = .normal)
    (hwp : p ∉ ctx.writeAccessedPages) (hwq : q ∉ ctx.writeAccessedPages)
    (hp : p ∉ ctx.accessedPages) (hq : q ∉ ctx.accessedPages)
    (hdp : ctx.hasData p = true) (hdq : ctx.hasData q = false) :
    processOne c false (ctx, g) p = .ok ({ ctx with status := .gasLimitExceeded }, 0) ∧
    processLazyPages c false ctx g {p, q} =
      .ok (.normal, { ctx with status := .normal }.setAccessed q, 0) := by
  have h₁ : processOne c false (ctx, g) p = .ok ({ ctx with status := .gasLimitExceeded }, 0) :=
    processOne_load_exceeded hstack hwp hp hdp (by omega) (by omega)
  -- the next page is read at price zero from the empty counter
  have h₂ : processOne c false ({ ctx with status := .gasLimitExceeded }, 0) q =
      .ok ({ ctx with status := .normal }.setAccessed q, 0) :=
    processOne_zero_cost_read hread (le_trans hstack hpq.le) hwq hq hdq
  refine ⟨h₁, ?_⟩
  rw [processLazyPages_pair hpq hmem haddr hnormal, h₁, Except.bind, h₂]
  rfl

/-- Pages 0 and 1 fresh above an empty stack in a memory of sixteen pages,
page 0 holding data in storage. -/
def freshCtx : ExecCtx := ⟨.normal, ∅, ∅, 0, 16, some 0, fun p => p == 0⟩

theorem exceeded_status_reset_at_pages_zero_one :
    processOne ⟨0, 1, 1, 1⟩ false (freshCtx, 0) 0 =
      .ok ({ freshCtx with status := .gasLimitExceeded }, 0) ∧
    processLazyPages ⟨0, 1, 1, 1⟩ false freshCtx 0 {0, 1} =
      .ok (.normal, { freshCtx with status := .normal }.setAccessed 1, 0) :=
  exceeded_status_reset_by_zero_cost_read rfl (by decide) (by decide) (by decide) (by decide) rfl rfl
    (by decide) (by decide) (by decide) (by decide) rfl rfl

/-- The host function reading pages 0 and 1 with the read price zero and an
empty counter: the data load of page 0 exceeds the gas, and
`pre_process_memory_accesses` still returns `Ok(())`, with the status `Normal`
and page 1 accessed. -/
theorem preProcessMemoryAccesses_ok_after_exceeded :
    preProcessMemoryAccesses ⟨0, 0, 0, 1⟩ 16384 [⟨0, 32768⟩] [] freshCtx 0 =
      (.result (.ok ()), { freshCtx with status := .normal }.setAccessed 1, 0) := by
  have hpages : accessesPages 16384 [⟨0, 32768⟩] = .ok {0, 1} := by
    simp only [accessesPages, List.foldlM_cons, List.foldlM_nil]
    decide
  have h₁ : processOne ⟨0, 0, 0, 1⟩ false (freshCtx, 0) 0 =
      .ok ({ freshCtx with status := .gasLimitExceeded }, 0) :=
    processOne_load_exceeded (by decide) (by decide) (by decide) rfl (by decide) (by decide)
  have h₂ : processOne ⟨0, 0, 0, 1⟩ false ({ freshCtx with status := .gasLimitExceeded }, 0) 1 =
      .ok ({ freshCtx with status := .normal }.setAccessed 1, 0) :=
    processOne_zero_cost_read rfl (by decide) (by decide) (by decide) rfl
  have hwalk : processLazyPages ⟨0, 0, 0, 1⟩ false freshCtx 0 {0, 1} =
      .ok (.normal, { freshCtx with status := .normal }.setAccessed 1, 0) := by
    rw [processLazyPages_pair (by decide) (by decide) rfl rfl, h₁, Except.bind, h₂]
    rfl
  simp only [preProcessMemoryAccesses, processAccesses, processIntervals, HostFuncCosts.charger,
    hpages, Except.bind, List.isEmpty_cons, List.isEmpty_nil, Bool.false_eq_true, if_false]
  rw [hwalk]
  rfl

end Gear.LazyPages
