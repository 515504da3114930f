import Gear.Lib.Gaps
import Mathlib

/-!
# The interface of `numerated`'s intervals tree

The wasm pages a program has allocated are an `IntervalsTree<WasmPage>` of the
`numerated` crate. The crate is not part of the repository, so the operations
of the tree that the allocator and the runtime call are parameters of the
model: `IntervalsTreeOps` gives them on the set of pages a tree holds, and
`IntervalsTreeOps.Spec` states, one named law each, what the crate documents
of them:

> `start` and `end` are the least and the greatest page, and `None` for an
> empty tree;
> `voids` of an inclusive interval lists the maximal runs of its pages outside
> the tree, in ascending order (a `Gaps.GapList`);
> `difference` lists non-empty intervals in ascending order, whose pages are
> those of the one tree that the other lacks;
> `intervals_amount` is zero exactly for an empty tree, and at most the number
> of pages, since the intervals are non-empty and disjoint.

Inserting and removing pages are the operations of the set itself. Every
theorem about allocation takes an instance together with a proof of its `Spec`.
The reference implementation `finsetTree` satisfies the laws
(`finsetTree_spec`), so they can hold together, and closed statements compute
with it.
-/

namespace Gear.Memory

/-- The operations of `IntervalsTree<WasmPage>` that the repository calls, on
the set of pages a tree holds. Intervals are inclusive pairs. -/
class IntervalsTreeOps where
  /-- `IntervalsTree::start`. -/
  treeStart : Finset ℕ → Option ℕ
  /-- `IntervalsTree::end`. -/
  treeEnd : Finset ℕ → Option ℕ
  /-- `IntervalsTree::voids` of an inclusive interval. -/
  voids : Finset ℕ → ℕ × ℕ → List (ℕ × ℕ)
  /-- `IntervalsTree::intervals_amount`. -/
  intervalsAmount : Finset ℕ → ℕ
  /-- `IntervalsTree::difference`: the intervals of the first tree's pages
  that the second lacks. -/
  difference : Finset ℕ → Finset ℕ → List (ℕ × ℕ)

namespace IntervalsTreeOps

/-- What `numerated` documents of the operations. -/
structure Spec (tree : IntervalsTreeOps) : Prop where
  treeStart_some : ∀ S p, tree.treeStart S = some p → p ∈ S ∧ ∀ q ∈ S, p ≤ q
  treeStart_none : ∀ S, tree.treeStart S = none → S = ∅
  treeEnd_some : ∀ S p, tree.treeEnd S = some p → p ∈ S ∧ ∀ q ∈ S, q ≤ p
  treeEnd_none : ∀ S, tree.treeEnd S = none → S = ∅
  voids_gapList : ∀ S lo hi, lo ≤ hi → Gaps.GapList S lo (hi + 1) (tree.voids S (lo, hi))
  difference_nonempty : ∀ S T v, v ∈ tree.difference S T → v.1 ≤ v.2
  difference_sorted : ∀ S T, ((tree.difference S T).flatMap Gaps.span).Pairwise (· < ·)
  mem_difference : ∀ S T p, p ∈ (tree.difference S T).flatMap Gaps.span ↔ p ∈ S ∧ p ∉ T
  intervalsAmount_eq_zero : ∀ S, tree.intervalsAmount S = 0 ↔ S = ∅
  intervalsAmount_le : ∀ S, tree.intervalsAmount S ≤ S.card

variable {tree : IntervalsTreeOps}

/-- The pages of the difference are none exactly when every page of the first
tree is in the second. -/
theorem Spec.span_difference_eq_nil_iff (htree : tree.Spec) (S T : Finset ℕ) :
    (tree.difference S T).flatMap Gaps.span = [] ↔ S ⊆ T := by
  rw [List.eq_nil_iff_forall_not_mem]
  constructor
  · intro h p hp
    by_contra hT
    exact h p ((htree.mem_difference S T p).2 ⟨hp, hT⟩)
  · intro h p hp
    obtain ⟨hS, hT⟩ := (htree.mem_difference S T p).1 hp
    exact hT (h hS)

/-- The difference is empty exactly when every page of the first tree is in
the second. -/
theorem Spec.difference_eq_nil_iff (htree : tree.Spec) (S T : Finset ℕ) :
    tree.difference S T = [] ↔ S ⊆ T := by
  constructor
  · intro h p hp
    by_contra hT
    have hmem := (htree.mem_difference S T p).2 ⟨hp, hT⟩
    rw [h] at hmem
    cases hmem
  · intro h
    apply List.eq_nil_iff_forall_not_mem.2
    intro v hv
    -- a non-empty interval has a page, which would be in `S` and not in `T`
    have hspan : v.1 ∈ (tree.difference S T).flatMap Gaps.span :=
      List.mem_flatMap.2 ⟨v, hv, List.mem_range'_1.2
        ⟨le_rfl, by have := htree.difference_nonempty S T v hv; omega⟩⟩
    obtain ⟨hS, hT⟩ := (htree.mem_difference S T v.1).1 hspan
    exact hT (h hS)

end IntervalsTreeOps

/-! ## A reference implementation -/

/-- The points of a finite set in ascending order. -/
def ascending (S : Finset ℕ) : List ℕ := (List.range (S.sup id + 1)).filter (· ∈ S)

@[simp] theorem mem_ascending {S : Finset ℕ} {p : ℕ} : p ∈ ascending S ↔ p ∈ S := by
  have hle : p ∈ S → p ≤ S.sup id := fun hp => Finset.le_sup (f := id) hp
  simp only [ascending, List.mem_filter, List.mem_range, decide_eq_true_eq]
  constructor
  · exact fun h => h.2
  · exact fun hp => ⟨by have := hle hp; omega, hp⟩

theorem ascending_pairwise (S : Finset ℕ) : (ascending S).Pairwise (· < ·) :=
  List.pairwise_lt_range.filter _

theorem length_ascending (S : Finset ℕ) : (ascending S).length = S.card := by
  have htoFinset : (ascending S).toFinset = S := by
    ext p
    simp
  rw [← List.toFinset_card_of_nodup (ascending_pairwise S).nodup, htoFinset]

@[simp] theorem ascending_eq_nil_iff {S : Finset ℕ} : ascending S = [] ↔ S = ∅ := by
  rw [List.eq_nil_iff_forall_not_mem, Finset.eq_empty_iff_forall_notMem]
  simp only [mem_ascending]

/-- The least point of a finite set, if any. -/
def finsetStart (S : Finset ℕ) : Option ℕ := if h : S.Nonempty then some (S.min' h) else none

/-- The greatest point of a finite set, if any. -/
def finsetEnd (S : Finset ℕ) : Option ℕ := if h : S.Nonempty then some (S.max' h) else none

/-- The tree as the set of its pages: the least and the greatest page, the gaps
of the interval, and the runs of the ascending pages. -/
instance finsetTree : IntervalsTreeOps where
  treeStart := finsetStart
  treeEnd := finsetEnd
  voids S interval := Gaps.gaps S interval.1 (interval.2 + 1 - interval.1)
  intervalsAmount S := (Gaps.runs (ascending S)).length
  difference S T := Gaps.runs (ascending (S \ T))

theorem finsetTree_spec : finsetTree.Spec where
  treeStart_some S p h := by
    change finsetStart S = some p at h
    unfold finsetStart at h
    split at h
    · cases h
      exact ⟨S.min'_mem _, fun q hq => S.min'_le q hq⟩
    · cases h
  treeStart_none S h := by
    change finsetStart S = none at h
    unfold finsetStart at h
    split at h
    · cases h
    · exact Finset.not_nonempty_iff_eq_empty.1 ‹_›
  treeEnd_some S p h := by
    change finsetEnd S = some p at h
    unfold finsetEnd at h
    split at h
    · cases h
      exact ⟨S.max'_mem _, fun q hq => S.le_max' q hq⟩
    · cases h
  treeEnd_none S h := by
    change finsetEnd S = none at h
    unfold finsetEnd at h
    split at h
    · cases h
    · exact Finset.not_nonempty_iff_eq_empty.1 ‹_›
  voids_gapList S lo hi h := by
    have hG := Gaps.gapList_gaps S lo (hi + 1 - lo)
    rwa [show lo + (hi + 1 - lo) = hi + 1 by omega] at hG
  difference_nonempty S T v hv := Gaps.runs_fst_le v hv
  difference_sorted S T := by
    show ((Gaps.runs (ascending (S \ T))).flatMap Gaps.span).Pairwise (· < ·)
    rw [Gaps.flatMap_span_runs]
    exact ascending_pairwise _
  mem_difference S T p := by
    show p ∈ (Gaps.runs (ascending (S \ T))).flatMap Gaps.span ↔ _
    rw [Gaps.flatMap_span_runs, mem_ascending, Finset.mem_sdiff]
  intervalsAmount_eq_zero S := by
    show (Gaps.runs (ascending S)).length = 0 ↔ S = ∅
    rw [List.length_eq_zero_iff, Gaps.runs_eq_nil_iff, ascending_eq_nil_iff]
  intervalsAmount_le S := by
    show (Gaps.runs (ascending S)).length ≤ S.card
    rw [← length_ascending]
    exact Gaps.length_runs_le _

end Gear.Memory
