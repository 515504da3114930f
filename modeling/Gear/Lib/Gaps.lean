import Mathlib

/-!
# Gaps of a finite set of naturals, and first fit over them

A finite set `S` of naturals leaves gaps in a window `[p, p + k)`: the maximal
runs of consecutive points not in `S`. `gaps S p k` lists them in ascending
order as inclusive pairs `(first, last)`, built from the right so that the
recursion is structural in the window's length: a free point either extends
the gap that starts right after it or opens a new one.

What a list of gaps is for is said once, by `GapList`: sorted with at least one
point of `S` between neighbours, inside the window, free, maximal on the right,
and covering every free point. `gapList_gaps` proves it of `gaps` by one
induction over the window, a step per kind of point:

> `GapList.of_mem`: a point of `S` adds nothing;
> `GapList.extendGap`: a free point extends or opens the first gap.

First fit then needs only `GapList`:

> `GapList.findSome_fits`: the first gap of length at least `n` starts the
> lowest run of `n` free points of the window;
> `GapList.findSome_fits_eq_none`: if no gap is long enough, the window has no
> run of `n` free points at all.

Nothing in this file is about a particular allocator.
-/

namespace Gaps

/-- `n` consecutive points from `q` on are all outside `S`. -/
def FreeRun (S : Finset ℕ) (q n : ℕ) : Prop := ∀ x, q ≤ x → x < q + n → x ∉ S

/-- A free point `p` in front of a list of gaps: it extends the first gap if
that starts at `p + 1`, and is a gap of its own otherwise. -/
def extendGap (p : ℕ) : List (ℕ × ℕ) → List (ℕ × ℕ)
  | [] => [(p, p)]
  | v :: l => if v.1 = p + 1 then (p, v.2) :: l else (p, p) :: v :: l

/-- The maximal runs of `[p, p + k)` outside `S`, ascending, as inclusive
pairs. -/
def gaps (S : Finset ℕ) (p : ℕ) : ℕ → List (ℕ × ℕ)
  | 0 => []
  | k + 1 => if p ∈ S then gaps S (p + 1) k else extendGap p (gaps S (p + 1) k)

/-- The gaps of `S` in the window `[lo, hi)`: what a gap list promises. -/
structure GapList (S : Finset ℕ) (lo hi : ℕ) (l : List (ℕ × ℕ)) : Prop where
  sorted : l.Pairwise fun a b => a.2 + 1 < b.1
  inside : ∀ v ∈ l, lo ≤ v.1 ∧ v.1 ≤ v.2 ∧ v.2 < hi
  free : ∀ v ∈ l, ∀ x, v.1 ≤ x → x ≤ v.2 → x ∉ S
  maximal : ∀ v ∈ l, v.2 + 1 = hi ∨ v.2 + 1 ∈ S
  cover : ∀ x, lo ≤ x → x < hi → x ∉ S → ∃ v ∈ l, v.1 ≤ x ∧ x ≤ v.2

variable {S : Finset ℕ}

/-! ## `gaps` lists the gaps -/

theorem GapList.nil (p : ℕ) : GapList S p p [] where
  sorted := .nil
  inside := fun _ h => absurd h List.not_mem_nil
  free := fun _ h => absurd h List.not_mem_nil
  maximal := fun _ h => absurd h List.not_mem_nil
  cover := fun _ h1 h2 => absurd (Nat.lt_of_le_of_lt h1 h2) (Nat.lt_irrefl p)

/-- A point of `S` in front of the window adds no gap. -/
theorem GapList.of_mem {p hi : ℕ} {l : List (ℕ × ℕ)} (hG : GapList S (p + 1) hi l)
    (hp : p ∈ S) : GapList S p hi l where
  sorted := hG.sorted
  inside := fun v hv => by
    have := hG.inside v hv
    omega
  free := hG.free
  maximal := hG.maximal
  cover := fun x h1 h2 hx => by
    have hne : x ≠ p := fun h => hx (h ▸ hp)
    exact hG.cover x (by omega) h2 hx

/-- Every gap of a gap list of `[p + 1, hi)` starts after `p`; only the first
may start at `p + 1`. -/
theorem GapList.start_gt {p hi : ℕ} {v : ℕ × ℕ} {l : List (ℕ × ℕ)}
    (hG : GapList S (p + 1) hi (v :: l)) : ∀ w ∈ l, p + 2 < w.1 := by
  intro w hw
  have hvw := List.rel_of_pairwise_cons hG.sorted hw
  have hv := hG.inside v List.mem_cons_self
  omega

/-- A free point in front of the window extends the first gap, or opens one. -/
theorem GapList.extendGap {p hi : ℕ} {l : List (ℕ × ℕ)} (hG : GapList S (p + 1) hi l)
    (hp : p ∉ S) (hlt : p < hi) : GapList S p hi (Gaps.extendGap p l) := by
  -- the free point `p + 1`, if inside, lies in the first gap
  have hnext : p + 1 < hi → p + 1 ∉ S → ∃ v ∈ l, v.1 = p + 1 := by
    intro h1 h2
    obtain ⟨v, hv, hv1, -⟩ := hG.cover (p + 1) le_rfl h1 h2
    exact ⟨v, hv, by have := hG.inside v hv; omega⟩
  cases l with
  | nil =>
    refine ⟨List.pairwise_singleton _ _, ?_, ?_, ?_, ?_⟩
    · intro v hv
      obtain rfl := List.mem_singleton.1 hv
      exact ⟨le_rfl, le_rfl, hlt⟩
    · intro v hv x h1 h2
      obtain rfl := List.mem_singleton.1 hv
      obtain rfl : x = p := by omega
      exact hp
    · intro v hv
      obtain rfl := List.mem_singleton.1 hv
      by_contra hc
      obtain ⟨w, hw, -⟩ := hnext (by omega) (fun h => hc (Or.inr h))
      exact List.not_mem_nil hw
    · intro x h1 h2 hx
      refine ⟨(p, p), List.mem_singleton_self _, h1, ?_⟩
      by_contra hc
      obtain ⟨w, hw, -⟩ := hG.cover x (by omega) h2 hx
      exact List.not_mem_nil hw
  | cons v l =>
    have hv := hG.inside v List.mem_cons_self
    have hl := hG.start_gt
    by_cases hv1 : v.1 = p + 1
    · -- `p` joins the gap `v`
      rw [Gaps.extendGap, if_pos hv1]
      refine ⟨?_, ?_, ?_, ?_, ?_⟩
      · exact List.pairwise_cons.2 ⟨fun w hw => List.rel_of_pairwise_cons hG.sorted hw,
          (List.pairwise_cons.1 hG.sorted).2⟩
      · intro w hw
        rcases List.mem_cons.1 hw with rfl | hw
        · exact ⟨le_rfl, by omega, hv.2.2⟩
        · have := hG.inside w (List.mem_cons_of_mem v hw)
          omega
      · intro w hw x h1 h2
        rcases List.mem_cons.1 hw with rfl | hw
        · by_cases hxp : x = p
          · exact hxp ▸ hp
          · exact hG.free v List.mem_cons_self x (by omega) h2
        · exact hG.free w (List.mem_cons_of_mem v hw) x h1 h2
      · intro w hw
        rcases List.mem_cons.1 hw with rfl | hw
        · exact hG.maximal v List.mem_cons_self
        · exact hG.maximal w (List.mem_cons_of_mem v hw)
      · intro x h1 h2 hx
        by_cases hxp : x = p
        · exact ⟨(p, v.2), List.mem_cons_self, by simp [hxp], by simp only; omega⟩
        obtain ⟨w, hw, hw1, hw2⟩ := hG.cover x (by omega) h2 hx
        rcases List.mem_cons.1 hw with rfl | hw
        · exact ⟨(p, w.2), List.mem_cons_self, by simp only; omega, hw2⟩
        · exact ⟨w, List.mem_cons_of_mem _ hw, hw1, hw2⟩
    · -- `p` is a gap of its own: `p + 1` is in `S` or past the window
      rw [Gaps.extendGap, if_neg hv1]
      have hmax : p + 1 = hi ∨ p + 1 ∈ S := by
        by_contra hc
        obtain ⟨w, hw, hw1⟩ := hnext (by omega) (fun h => hc (Or.inr h))
        rcases List.mem_cons.1 hw with rfl | hw
        · exact hv1 hw1
        · have := hl w hw
          omega
      refine ⟨?_, ?_, ?_, ?_, ?_⟩
      · refine List.pairwise_cons.2 ⟨fun w hw => ?_, hG.sorted⟩
        rcases List.mem_cons.1 hw with rfl | hw
        · simp only
          omega
        · have := hl w hw
          simp only
          omega
      · intro w hw
        rcases List.mem_cons.1 hw with rfl | hw
        · exact ⟨le_rfl, le_rfl, hlt⟩
        · have := hG.inside w hw
          omega
      · intro w hw x h1 h2
        rcases List.mem_cons.1 hw with rfl | hw
        · obtain rfl : x = p := by simp only at h1 h2; omega
          exact hp
        · exact hG.free w hw x h1 h2
      · intro w hw
        rcases List.mem_cons.1 hw with rfl | hw
        · exact hmax
        · exact hG.maximal w hw
      · intro x h1 h2 hx
        by_cases hxp : x = p
        · exact ⟨(p, p), List.mem_cons_self, by simp [hxp], by simp [hxp]⟩
        obtain ⟨w, hw, hw1, hw2⟩ := hG.cover x (by omega) h2 hx
        exact ⟨w, List.mem_cons_of_mem _ hw, hw1, hw2⟩

/-- `gaps` lists the gaps of its window. -/
theorem gapList_gaps (S : Finset ℕ) (p k : ℕ) : GapList S p (p + k) (gaps S p k) := by
  induction k generalizing p with
  | zero => exact GapList.nil p
  | succ k ih =>
    have hG : GapList S (p + 1) (p + (k + 1)) (gaps S (p + 1) k) := by
      rw [show p + (k + 1) = p + 1 + k by omega]
      exact ih (p + 1)
    unfold gaps
    split
    · exact hG.of_mem ‹_›
    · exact hG.extendGap ‹_› (by omega)

/-! ## First fit -/

/-- The first `n` points of a gap, if it has that many. -/
def fits (n : ℕ) (v : ℕ × ℕ) : Option (ℕ × ℕ) :=
  if v.1 + n ≤ v.2 + 1 then some (v.1, v.1 + n - 1) else none

theorem fits_eq_some {n : ℕ} {v i : ℕ × ℕ} (h : fits n v = some i) :
    i = (v.1, v.1 + n - 1) ∧ v.1 + n ≤ v.2 + 1 := by
  unfold fits at h
  split at h
  · exact ⟨(Option.some.inj h).symm, ‹_›⟩
  · cases h

section FirstFit

variable {lo hi n : ℕ} {l : List (ℕ × ℕ)} {f : ℕ × ℕ → Option (ℕ × ℕ)}

/-- A free run of the window lies in one gap, which is then long enough. -/
theorem GapList.exists_of_freeRun (hG : GapList S lo hi l) (hn : 0 < n) {q : ℕ}
    (hq : lo ≤ q) (hqn : q + n ≤ hi) (hfree : FreeRun S q n) :
    ∃ v ∈ l, v.1 ≤ q ∧ q + n ≤ v.2 + 1 := by
  obtain ⟨v, hv, hv1, hv2⟩ := hG.cover q hq (by omega) (hfree q le_rfl (by omega))
  refine ⟨v, hv, hv1, ?_⟩
  -- past the gap's last point is `S` or the window's end, and neither is in the run
  by_contra hc
  rcases hG.maximal v hv with h | h
  · omega
  · exact hfree (v.2 + 1) (by omega) (by omega) h

/-- The points of a gap form a free run inside the window. -/
theorem GapList.freeRun_of_mem (hG : GapList S lo hi l) {v : ℕ × ℕ} (hv : v ∈ l) {n : ℕ}
    (hn : v.1 + n ≤ v.2 + 1) : FreeRun S v.1 n :=
  fun x h1 h2 => hG.free v hv x h1 (by omega)

/-- First fit: the first gap with room for `n` points starts the lowest run
of `n` free points of the window. -/
theorem GapList.findSome_fits (hG : GapList S lo hi l) (hn : 0 < n)
    (hf : ∀ v ∈ l, f v = fits n v) {i : ℕ × ℕ} (h : l.findSome? f = some i) :
    i = (i.1, i.1 + n - 1) ∧ lo ≤ i.1 ∧ i.1 + n ≤ hi ∧ FreeRun S i.1 n ∧
      ∀ q, lo ≤ q → q + n ≤ hi → FreeRun S q n → i.1 ≤ q := by
  obtain ⟨l₁, a, l₂, rfl, ha, hbefore⟩ := List.findSome?_eq_some_iff.1 h
  have hamem : a ∈ l₁ ++ a :: l₂ := List.mem_append_right _ List.mem_cons_self
  obtain ⟨rfl, hroom⟩ := fits_eq_some ((hf a hamem).symm.trans ha)
  have hin := hG.inside a hamem
  refine ⟨rfl, hin.1, by omega, hG.freeRun_of_mem hamem hroom, fun q hq hqn hfree => ?_⟩
  obtain ⟨v, hv, hv1, hv2⟩ := hG.exists_of_freeRun hn hq hqn hfree
  have hfv : f v ≠ none := by
    rw [hf v hv, fits, if_pos (by omega)]
    exact Option.some_ne_none _
  -- the gap holding the run is `a` or after it: the ones before had no room
  rcases List.mem_append.1 hv with hv | hv
  · exact absurd (hbefore v hv) hfv
  · rcases List.mem_cons.1 hv with rfl | hv
    · exact hv1
    · have hsorted := (List.pairwise_append.1 hG.sorted).2.1
      have hav := List.rel_of_pairwise_cons hsorted hv
      simp only
      omega

/-- If no gap has room for `n` points, the window has no run of `n` free
points. -/
theorem GapList.findSome_fits_eq_none (hG : GapList S lo hi l) (hn : 0 < n)
    (hf : ∀ v ∈ l, f v = fits n v) (h : l.findSome? f = none) :
    ∀ q, lo ≤ q → q + n ≤ hi → ¬ FreeRun S q n := by
  intro q hq hqn hfree
  obtain ⟨v, hv, hv1, hv2⟩ := hG.exists_of_freeRun hn hq hqn hfree
  have hnone := List.findSome?_eq_none_iff.1 h v hv
  rw [hf v hv, fits, if_pos (by omega)] at hnone
  cases hnone

end FirstFit

/-! ## Runs of a list

The same step that builds the gaps, applied to the points of a list from the
right, cuts the list into runs of consecutive points; flattening the runs gives
the list back. -/

/-- The points of an inclusive pair, ascending. -/
def span (v : ℕ × ℕ) : List ℕ := List.range' v.1 (v.2 + 1 - v.1)

/-- The runs of consecutive points of a list. -/
def runs (l : List ℕ) : List (ℕ × ℕ) := l.foldr extendGap []

@[simp] theorem runs_nil : runs [] = [] := rfl

theorem runs_cons (p : ℕ) (l : List ℕ) : runs (p :: l) = extendGap p (runs l) := rfl

theorem extendGap_ne_nil (p : ℕ) (l : List (ℕ × ℕ)) : extendGap p l ≠ [] := by
  unfold extendGap
  split
  · exact List.cons_ne_nil _ _
  · split <;> exact List.cons_ne_nil _ _

@[simp] theorem runs_eq_nil_iff {l : List ℕ} : runs l = [] ↔ l = [] := by
  cases l with
  | nil => simp
  | cons p l => simpa [runs_cons] using extendGap_ne_nil p (runs l)

/-- Every run is a pair in order. -/
theorem runs_fst_le {l : List ℕ} : ∀ v ∈ runs l, v.1 ≤ v.2 := by
  induction l with
  | nil => simp
  | cons p l ih =>
    rw [runs_cons]
    unfold extendGap
    split
    · simp
    · rename_i v rest hrl
      rw [hrl] at ih
      split
      · intro w hw
        rcases List.mem_cons.1 hw with rfl | hw
        · have := ih v (List.mem_cons_self ..)
          simp only
          omega
        · exact ih w (List.mem_cons_of_mem _ hw)
      · intro w hw
        rcases List.mem_cons.1 hw with rfl | hw
        · exact le_rfl
        · exact ih w hw

/-- Flattening the runs of a list gives the list. -/
theorem flatMap_span_runs (l : List ℕ) : (runs l).flatMap span = l := by
  induction l with
  | nil => rfl
  | cons p l ih =>
    rw [runs_cons]
    unfold extendGap
    split
    · rename_i hnil
      rw [hnil] at ih
      simp [span, ← ih]
    · rename_i v rest hrl
      split
      · -- `p` extends the first run `v`, which starts at `p + 1`
        rename_i hv
        have hle := runs_fst_le v (hrl ▸ List.mem_cons_self ..)
        have hspan : span (p, v.2) = p :: span v := by
          simp only [span, hv]
          rw [show v.2 + 1 - p = (v.2 + 1 - (p + 1)) + 1 by omega, List.range'_succ]
        rw [hrl] at ih
        rw [List.flatMap_cons, hspan, List.cons_append, ← List.flatMap_cons, ih]
      · rw [hrl] at ih
        simp [span, ih]

theorem length_runs_le (l : List ℕ) : (runs l).length ≤ l.length := by
  induction l with
  | nil => simp
  | cons p l ih =>
    rw [runs_cons]
    unfold extendGap
    split
    · simp
    · rename_i v rest hrl
      rw [hrl] at ih
      split <;> simp only [List.length_cons] at ih ⊢ <;> omega

end Gaps
