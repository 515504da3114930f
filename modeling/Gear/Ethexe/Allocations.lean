import Gear.Ethexe.Mailbox
import Gear.Memory.Allocations

/-!
# The allocations of a program, stored by hash — `state.rs`

`Allocations` of `ethexe-runtime-common` holds the wasm pages a program has
allocated, an `IntervalsTree<WasmPage>`, and a `changed` flag that the codec
skips. `update` takes the program's new tree: it returns the gear pages of the
wasm pages that are no longer allocated, and replaces the tree and sets the flag
when either difference of the two trees is non-empty. `store` writes a changed,
non-empty tree under its hash. `update_allocations` of the journal reads the
allocations by the hash the program state keeps, updates them, stores them and
takes the new hash when the store returned one.

The `IntervalsTree` of the `numerated` crate is not part of the repository. As in
`Gear.Memory.Allocations` a tree is the set of pages it holds, here with the
bound every `WasmPage` keeps, and two trees are equal when they hold the same
pages; `intervals_amount` and `difference` are the parameters
`IntervalsTreeOps` with the laws of `IntervalsTreeOps.Spec`. An interval
iterates over its pages. `Page::to_iter` of a wasm page is computed from byte
offsets as the source computes it, and gives the four gear pages from `4 * p`
(`toIter_eq`). The codec skips `changed`, so the hash of allocations is a hash of
their tree, and reading them back clears the flag.

`update_eq` says what `update` does on any allocations: it sets the flag and
the tree exactly when the trees differ, and the pages it returns are
`FreedPages`, the ascending gear pages of the wasm pages the old tree has and
the new one lacks (`update_removed`). `StoredAs` says which tree the hash a
program state keeps names; `updateAllocations_storedAs` is the step lemma and
`updateAllocationsRun_spec` the run lemma: along any sequence of updates from a
new program, no read panics, each update reports the pages freed since the one
before, and the hash names the latest tree.
-/

namespace Gear.Ethexe

open Gear.Memory (wasmPageUpper IntervalsTreeOps finsetTree_spec)

/-! ## The intervals tree -/

/-- `IntervalsTree<WasmPage>`: the wasm pages it holds. -/
abbrev IntervalsTree := {s : Finset ℕ // ∀ p ∈ s, p ≤ wasmPageUpper}

namespace IntervalsTree

/-- `IntervalsTree::default`. -/
def empty : IntervalsTree := ⟨∅, fun p hp => absurd hp (Finset.notMem_empty p)⟩

theorem eq_empty_iff {t : IntervalsTree} : t = empty ↔ t.1 = ∅ := Subtype.ext_iff

variable [tree : IntervalsTreeOps]

/-- `IntervalsTree::intervals_amount`. -/
def intervalsAmount (t : IntervalsTree) : ℕ := IntervalsTreeOps.intervalsAmount t.1

/-- `IntervalsTree::difference`: the intervals of the pages of `t` not in `u`. -/
def difference (t u : IntervalsTree) : List (ℕ × ℕ) := IntervalsTreeOps.difference t.1 u.1

/-- A tree of wasm pages has fewer than `2 ^ 32` intervals, so `as u32` keeps
their number. -/
theorem intervalsAmount_lt (htree : tree.Spec) (t : IntervalsTree) :
    t.intervalsAmount < 2 ^ 32 := by
  have hsub : t.1 ⊆ Finset.range (wasmPageUpper + 1) :=
    fun p hp => Finset.mem_range.2 (Nat.lt_succ_of_le (t.2 p hp))
  have hcard := Finset.card_le_card hsub
  have hle := htree.intervalsAmount_le t.1
  rw [Finset.card_range] at hcard
  simp only [intervalsAmount, wasmPageUpper] at *
  omega

theorem intervalsAmount_eq_zero_iff (htree : tree.Spec) {t : IntervalsTree} :
    t.intervalsAmount = 0 ↔ t.1 = ∅ :=
  htree.intervalsAmount_eq_zero t.1

end IntervalsTree

open IntervalsTree

/-! ## Wasm pages to gear pages -/

/-- `WASM_PAGE_SIZE`. -/
def wasmPageSize : ℕ := 64 * 1024

/-- `GEAR_PAGE_SIZE`. -/
def gearPageSize : ℕ := 16 * 1024

/-- `Page::to_iter` from a wasm page to gear pages: from the page holding the
wasm page's first byte to the one holding its last, both inclusive. The offsets
of a `WasmPage` stay below `2 ^ 32`. -/
def toIter (page : ℕ) : List ℕ :=
  let start := page * wasmPageSize / gearPageSize
  let last := (page * wasmPageSize + (wasmPageSize - 1)) / gearPageSize
  List.range' start (last + 1 - start)

theorem toIter_eq (page : ℕ) : toIter page = List.range' (4 * page) 4 := by
  have hstart : page * wasmPageSize / gearPageSize = 4 * page := by
    simp only [wasmPageSize, gearPageSize]
    omega
  have hlast : (page * wasmPageSize + (wasmPageSize - 1)) / gearPageSize = 4 * page + 3 := by
    simp only [wasmPageSize, gearPageSize]
    omega
  simp only [toIter, hstart, hlast]
  rw [show 4 * page + 3 + 1 - 4 * page = 4 by omega]

example : toIter 5 = [20, 21, 22, 23] := by decide

@[simp] theorem mem_flatMap_toIter {l : List ℕ} {g : ℕ} : g ∈ l.flatMap toIter ↔ g / 4 ∈ l := by
  simp only [List.mem_flatMap, toIter_eq, List.mem_range'_1]
  constructor
  · rintro ⟨p, hp, hlo, hhi⟩
    rwa [show g / 4 = p by omega]
  · exact fun h => ⟨g / 4, h, by omega, by omega⟩

@[simp] theorem flatMap_toIter_eq_nil_iff {l : List ℕ} : l.flatMap toIter = [] ↔ l = [] := by
  cases l with
  | nil => simp
  | cons p l => simp [toIter_eq, List.range'_succ]

/-- Wasm pages in ascending order give their gear pages in ascending order. -/
theorem pairwise_flatMap_toIter {l : List ℕ} (h : l.Pairwise (· < ·)) :
    (l.flatMap toIter).Pairwise (· < ·) := by
  rw [List.pairwise_flatMap]
  constructor
  · intro p _
    rw [toIter_eq]
    exact List.pairwise_lt_range'
  · refine h.imp fun {p q} hpq x hx y hy => ?_
    simp only [toIter_eq, List.mem_range'_1] at hx hy
    omega

/-! ## The allocations -/

/-- `Allocations`. -/
structure Allocations where
  inner : IntervalsTree
  changed : Bool

/-- The allocations of the storage, by hash. -/
abbrev AllocationsStorage (H : Type) := AList fun _ : H => IntervalsTree

variable {H : Type} [DecidableEq H]

/-- `Allocations::default`. -/
def Allocations.default : Allocations := ⟨IntervalsTree.empty, false⟩

section Model

variable [IntervalsTreeOps]

namespace Allocations

/-- `tree_len`: `intervals_amount() as u32`. -/
def treeLen (a : Allocations) : ℕ := a.inner.intervalsAmount % 2 ^ 32

/-- `update`. -/
def update (a : Allocations) (allocations : IntervalsTree) : List ℕ × Allocations :=
  let removedPages := ((a.inner.difference allocations).flatMap Gaps.span).flatMap toIter
  if !removedPages.isEmpty || (allocations.difference a.inner).head?.isSome then
    (removedPages, ⟨allocations, true⟩)
  else (removedPages, a)

/-- `Storage::write_allocations`: stored under the hash of the tree. -/
def writeAllocations (hash : IntervalsTree → H) (storage : AllocationsStorage H)
    (a : Allocations) : H × AllocationsStorage H :=
  (hash a.inner, storage.insert (hash a.inner) a.inner)

/-- `store`: nothing when unchanged; otherwise the `MaybeHashOf` of the tree,
which is written only when it has an interval. -/
def store (a : Allocations) (hash : IntervalsTree → H) (storage : AllocationsStorage H) :
    Option (Option H) × AllocationsStorage H :=
  if a.changed then
    if a.inner.intervalsAmount ≠ 0 then
      let (h, storage) := writeAllocations hash storage a
      (some (some h), storage)
    else (some none, storage)
  else (none, storage)

end Allocations

/-- `QueryableStorage::query` of a `MaybeHashOf<Allocations>`: the default
allocations without a hash; with one, the stored tree with `changed` cleared, or
nothing when it is not stored. -/
def queryAllocations (storage : AllocationsStorage H) : Option H → Option Allocations
  | none => some Allocations.default
  | some h => (storage.lookup h).map fun inner => ⟨inner, false⟩

/-- `update_allocations` of the journal: `modify` reads the allocations (a hash
not stored panics), updates them, stores them, and `MaybeHashOf::replace` takes
the new hash when the store returned one. -/
def updateAllocations (hash : IntervalsTree → H) (storage : AllocationsStorage H)
    (m : Option H) (newAllocations : IntervalsTree) :
    Except Failure (List ℕ × Option H × AllocationsStorage H) := do
  let allocations ← orPanic (queryAllocations storage m)
  let (removedPages, allocations) := allocations.update newAllocations
  let (stored, storage) := allocations.store hash storage
  .ok (removedPages, stored.getD m, storage)

/-- `update_allocations` for each tree of a sequence, with the pages each
reported. -/
def updateAllocationsRun (hash : IntervalsTree → H) (storage : AllocationsStorage H)
    (m : Option H) : List IntervalsTree →
    Except Failure (List (List ℕ) × Option H × AllocationsStorage H)
  | [] => .ok ([], m, storage)
  | newAllocations :: rest => do
    let (removedPages, m, storage) ← updateAllocations hash storage m newAllocations
    let (removed, m, storage) ← updateAllocationsRun hash storage m rest
    .ok (removedPages :: removed, m, storage)

end Model

/-- The gear pages an update from `old` to `new` reports: ascending, and those
of exactly the wasm pages `old` has and `new` lacks. -/
def FreedPages (old new : IntervalsTree) (pages : List ℕ) : Prop :=
  pages.Pairwise (· < ·) ∧ ∀ g, g ∈ pages ↔ g / 4 ∈ old.1 ∧ g / 4 ∉ new.1

/-- The hash `m` of a program state names the tree `t` in the storage. -/
def StoredAs (storage : AllocationsStorage H) (m : Option H) (t : IntervalsTree) : Prop :=
  queryAllocations storage m = some ⟨t, false⟩

theorem storedAs_none (storage : AllocationsStorage H) :
    StoredAs storage none IntervalsTree.empty := rfl

section Laws

variable [tree : IntervalsTreeOps] (htree : tree.Spec)
include htree

/-! ## Update -/

namespace Allocations

/-- The two one-sided differences are both empty exactly when the trees are
equal. -/
theorem update_changes_iff (a : Allocations) (t : IntervalsTree) :
    (!(((a.inner.difference t).flatMap Gaps.span).flatMap toIter).isEmpty ||
      (t.difference a.inner).head?.isSome) = true ↔ a.inner ≠ t := by
  simp only [Bool.or_eq_true, Bool.not_eq_true', List.isEmpty_eq_false_iff, List.isSome_head?,
    ne_eq, flatMap_toIter_eq_nil_iff, difference, htree.span_difference_eq_nil_iff,
    htree.difference_eq_nil_iff]
  rw [Subtype.ext_iff, Finset.Subset.antisymm_iff]
  tauto

/-- What `update` does: it returns the gear pages of the difference, and sets
the tree and the flag exactly when the tree changes. -/
theorem update_eq (a : Allocations) (t : IntervalsTree) :
    a.update t = (((a.inner.difference t).flatMap Gaps.span).flatMap toIter,
      if a.inner = t then a else ⟨t, true⟩) := by
  have hiff := update_changes_iff htree a t
  unfold update
  dsimp only
  by_cases h : a.inner = t
  · rw [if_pos h, if_neg (fun hc => hiff.1 hc h)]
  · rw [if_neg h, if_pos (hiff.2 h)]

@[simp] theorem inner_update (a : Allocations) (t : IntervalsTree) : (a.update t).2.inner = t := by
  rw [update_eq htree]
  split
  · assumption
  · rfl

theorem changed_update (a : Allocations) (t : IntervalsTree) :
    (a.update t).2.changed = (a.changed || !decide (a.inner = t)) := by
  rw [update_eq htree]
  by_cases h : a.inner = t <;> simp [h]

theorem treeLen_eq (a : Allocations) : a.treeLen = a.inner.intervalsAmount :=
  Nat.mod_eq_of_lt (intervalsAmount_lt htree a.inner)

/-- The pages `update` returns are those it frees. -/
theorem update_removed (a : Allocations) (t : IntervalsTree) :
    FreedPages a.inner t (a.update t).1 := by
  rw [update_eq htree]
  refine ⟨pairwise_flatMap_toIter (htree.difference_sorted _ _), fun g => ?_⟩
  rw [mem_flatMap_toIter]
  exact htree.mem_difference _ _ _

/-! ## Store -/

omit htree in
theorem store_of_not_changed (a : Allocations) (h : a.changed = false) (hash : IntervalsTree → H)
    (storage : AllocationsStorage H) : a.store hash storage = (none, storage) := by
  simp [store, h]

/-- Storing changed allocations gives a `MaybeHashOf` that reads back their
tree, and that is empty exactly when the tree is. -/
theorem store_of_changed (a : Allocations) (h : a.changed = true) (hash : IntervalsTree → H)
    (storage : AllocationsStorage H) :
    ∃ m, (a.store hash storage).1 = some m ∧
      queryAllocations (a.store hash storage).2 m = some ⟨a.inner, false⟩ ∧
      (m = none ↔ a.inner.1 = ∅) := by
  by_cases hz : a.inner.intervalsAmount = 0
  · -- an empty tree: the empty hash, which reads back the default allocations
    have hempty : a.inner.1 = ∅ := (intervalsAmount_eq_zero_iff htree).1 hz
    refine ⟨none, by simp [store, h, hz], ?_, by simpa using hempty⟩
    simp only [store, h, hz, if_true, ne_eq, not_true_eq_false, if_false]
    rw [eq_empty_iff.2 hempty]
    rfl
  · refine ⟨some (hash a.inner), by simp [store, h, hz, writeAllocations], ?_, ?_⟩
    · simp [store, h, hz, writeAllocations, queryAllocations]
    · simpa [intervalsAmount_eq_zero_iff htree] using hz

end Allocations

/-! ## Updates through the storage -/

/-- One `update_allocations`: it never panics on a hash that names a tree,
reports the pages that tree drops, and leaves a hash that names the new tree. -/
theorem updateAllocations_storedAs (hash : IntervalsTree → H) {storage : AllocationsStorage H}
    {m : Option H} {t : IntervalsTree} (hs : StoredAs storage m t) (new : IntervalsTree) :
    ∃ pages m' storage', updateAllocations hash storage m new = .ok (pages, m', storage') ∧
      FreedPages t new pages ∧ StoredAs storage' m' new := by
  unfold StoredAs at hs
  have hfreed := Allocations.update_removed htree ⟨t, false⟩ new
  simp only [updateAllocations, hs, orPanic, Except.ok_bind]
  rw [Allocations.update_eq htree] at hfreed ⊢
  by_cases h : t = new
  · -- the tree is unchanged: nothing is stored and the hash stays
    subst h
    rw [if_pos rfl, Allocations.store_of_not_changed _ rfl]
    exact ⟨_, m, storage, rfl, hfreed, hs⟩
  · rw [if_neg h]
    obtain ⟨m', hm', hread, -⟩ := Allocations.store_of_changed htree ⟨new, true⟩ rfl hash storage
    exact ⟨_, m', _, by rw [hm']; rfl, hfreed, hread⟩

/-- Every run of `update_allocations` from a hash that names a tree: no read
panics, each update reports the pages freed from the tree before it, and the
final hash names the last tree. -/
theorem updateAllocationsRun_spec (hash : IntervalsTree → H) {storage : AllocationsStorage H}
    {m : Option H} {t : IntervalsTree} (hs : StoredAs storage m t) (ts : List IntervalsTree) :
    ∃ removed m' storage', updateAllocationsRun hash storage m ts = .ok (removed, m', storage') ∧
      List.Forall₂ (fun pages trees => FreedPages trees.1 trees.2 pages) removed
        ((t :: ts).zip ts) ∧
      StoredAs storage' m' ((t :: ts).getLast (List.cons_ne_nil _ _)) := by
  induction ts generalizing storage m t with
  | nil => exact ⟨[], m, storage, rfl, .nil, hs⟩
  | cons t' ts ih =>
    obtain ⟨pages, m₁, storage₁, hstep, hfreed, hs₁⟩ := updateAllocations_storedAs htree hash hs t'
    obtain ⟨removed, m₂, storage₂, hrun, hall, hs₂⟩ := ih hs₁
    refine ⟨pages :: removed, m₂, storage₂, ?_, .cons hfreed hall,
      by rwa [List.getLast_cons (List.cons_ne_nil _ _)]⟩
    simp only [updateAllocationsRun, hstep, hrun, Except.ok_bind]

/-! ## Two updates from the default -/

/-- The allocations of a new program updated to `old` and then to `new`: the
second update reports the gear pages of the wasm pages `old` has and `new` has
not, ascending; it sets the flag and the tree exactly when the trees differ; the
tree length is that of `new`; and what the store returns reads back `new`, with
no hash written exactly when `new` is empty. -/
theorem update_reports_freed_pages (hash : IntervalsTree → H) (storage : AllocationsStorage H)
    (old new : IntervalsTree) :
    let a := (Allocations.default.update old).2
    let r := a.update new
    let s := r.2.store hash storage
    (r.1.Pairwise (· < ·) ∧ ∀ g, g ∈ r.1 ↔ g / 4 ∈ old.1 ∧ g / 4 ∉ new.1) ∧
    r.2 = (if old = new then a else ⟨new, true⟩) ∧
    r.2.treeLen = new.intervalsAmount ∧
    (∀ m, s.1 = some m → (queryAllocations s.2 m).map Allocations.inner = some new) ∧
    (s.1.join = none ↔ new.1 = ∅) := by
  intro a r s
  have hr0 : r = a.update new := rfl
  have hs0 : s = r.2.store hash storage := rfl
  have ha : a.inner = old := Allocations.inner_update htree Allocations.default old
  have hr : r.2.inner = new := by rw [hr0]; exact Allocations.inner_update htree a new
  refine ⟨?_, ?_, ?_, ?_⟩
  · rw [hr0, ← ha]
    exact Allocations.update_removed htree a new
  · rw [hr0, Allocations.update_eq htree, ha]
  · rw [Allocations.treeLen_eq htree, hr]
  · -- the flag is down only when both trees are empty, and then nothing is stored
    rw [hs0]
    cases hc : r.2.changed with
    | true =>
      obtain ⟨m₀, hm₀, hread, hnone⟩ := Allocations.store_of_changed htree r.2 hc hash storage
      rw [hr] at hread hnone
      refine ⟨fun m hm => ?_, by rw [hm₀, Option.join_some]; exact hnone⟩
      rw [hm₀] at hm
      cases hm
      rw [hread]
      rfl
    | false =>
      have hold : old = IntervalsTree.empty ∧ old = new := by
        rw [hr0, Allocations.changed_update htree, ha, Allocations.changed_update htree] at hc
        simp only [Allocations.default, Bool.false_or, Bool.or_eq_false_iff, Bool.not_eq_false',
          decide_eq_true_eq] at hc
        exact ⟨(of_decide_eq_true hc.1).symm, hc.2⟩
      rw [Allocations.store_of_not_changed r.2 hc hash storage, ← hold.2, hold.1]
      simp [IntervalsTree.empty]

end Laws

/-- A new program allocates three pages and frees them again: the first update
frees nothing, the second the twelve gear pages of the three. -/
theorem updateAllocationsRun_spec_default :
    let t : IntervalsTree := ⟨{0, 1, 3}, by decide⟩
    ∃ removed m' storage', updateAllocationsRun (fun _ => (0 : ℕ)) ∅ none
        [t, IntervalsTree.empty] = .ok (removed, m', storage') ∧
      List.Forall₂ (fun pages trees => FreedPages trees.1 trees.2 pages) removed
        ([IntervalsTree.empty, t, IntervalsTree.empty].zip [t, IntervalsTree.empty]) ∧
      StoredAs storage' m' IntervalsTree.empty :=
  updateAllocationsRun_spec finsetTree_spec _ (storedAs_none ∅) _

/-- A new program's tree of three pages emptied again. -/
theorem update_reports_freed_pages_emptied :
    let old : IntervalsTree := ⟨{0, 1, 3}, by decide⟩
    let a := (Allocations.default.update old).2
    let r := a.update IntervalsTree.empty
    let s := r.2.store (fun _ => (0 : ℕ)) ∅
    (r.1.Pairwise (· < ·) ∧ ∀ g, g ∈ r.1 ↔ g / 4 ∈ old.1 ∧ g / 4 ∉ IntervalsTree.empty.1) ∧
    r.2 = (if old = IntervalsTree.empty then a else ⟨IntervalsTree.empty, true⟩) ∧
    r.2.treeLen = IntervalsTree.empty.intervalsAmount ∧
    (∀ m, s.1 = some m →
      (queryAllocations s.2 m).map Allocations.inner = some IntervalsTree.empty) ∧
    (s.1.join = none ↔ IntervalsTree.empty.1 = ∅) :=
  update_reports_freed_pages finsetTree_spec _ ∅ _ _

end Gear.Ethexe
