import Mathlib

/-!
# Weighted sums over an association list

A key-value store modelled as an `AList` is summed by weighting each entry
with `f key value`: a value total, a counter of children, the number of
entries. Three facts carry every proof that a store operation keeps such a
sum in balance:

> `sumBy_erase_add`: a present entry contributes its weight exactly once, so
> the sum is the sum without it plus its weight;
> `sumBy_insert`: inserting replaces whatever was there by the new weight;
> `add_le_sumBy`: two different entries together weigh at most the sum.

Everything else here is a corollary. Nothing in this file is about a
particular store.
-/

namespace AList

variable {α : Type*} {β : α → Type*}

/-- The sum over all entries of `f key value`. -/
def sumBy (f : (a : α) → β a → ℕ) (s : AList β) : ℕ :=
  (s.entries.map fun e => f e.1 e.2).sum

/-- The number of entries is the sum of the constant weight `1`. -/
theorem sumBy_one (s : AList β) : s.sumBy (fun _ _ => 1) = s.entries.length := by
  unfold sumBy
  induction s.entries with
  | nil => rfl
  | cons e l ih => simp only [List.map_cons, List.sum_cons, ih, List.length_cons]; omega

@[simp] theorem sumBy_empty (f : (a : α) → β a → ℕ) : (∅ : AList β).sumBy f = 0 := rfl

section Store

variable [DecidableEq α]

/-- On a raw list: removing the first entry of a present key removes exactly
its weight from the sum. -/
theorem sum_map_kerase {f : (a : α) → β a → ℕ} {l : List (Sigma β)} {a : α} {b : β a}
    (h : l.dlookup a = some b) :
    (l.map fun e => f e.1 e.2).sum = ((l.kerase a).map fun e => f e.1 e.2).sum + f a b := by
  have hk : a ∈ l.keys := List.dlookup_isSome.mp (by rw [h]; rfl)
  obtain ⟨b', l₁, l₂, hnot, rfl, hker⟩ := List.exists_of_kerase hk
  have hb : b' = b := by
    rw [List.dlookup_append, List.dlookup_eq_none.mpr hnot, Option.none_or,
      List.dlookup_cons_eq] at h
    exact Option.some.inj h
  subst hb
  rw [hker]
  simp only [List.map_append, List.map_cons, List.sum_append, List.sum_cons]
  omega

/-- A present entry contributes its weight exactly once. -/
theorem sumBy_erase_add (f : (a : α) → β a → ℕ) {s : AList β} {a : α} {b : β a}
    (h : s.lookup a = some b) : s.sumBy f = (s.erase a).sumBy f + f a b :=
  sum_map_kerase h

/-- Erasing an absent key changes nothing. -/
theorem erase_of_lookup_eq_none {s : AList β} {a : α} (h : s.lookup a = none) :
    s.erase a = s :=
  ext (List.kerase_of_notMem_keys (List.dlookup_eq_none.mp h))

/-- Erasing a key forgets what was inserted under it. -/
theorem erase_insert_self (s : AList β) (a : α) (b : β a) : (s.insert a b).erase a = s.erase a :=
  ext (List.kerase_cons_eq rfl)

/-- A store with no entries has no key. -/
theorem lookup_of_entries_eq_nil {s : AList β} (h : s.entries = []) (a : α) : s.lookup a = none := by
  unfold lookup
  rw [h]
  rfl

/-- Inserting replaces the old entry of the key, if any, by the new weight. -/
theorem sumBy_insert (f : (a : α) → β a → ℕ) (s : AList β) (a : α) (b : β a) :
    (s.insert a b).sumBy f = (s.erase a).sumBy f + f a b := by
  simp only [sumBy, entries_insert, List.map_cons, List.sum_cons]
  rw [Nat.add_comm]
  rfl

/-- Overwriting a present entry changes the sum by the difference of weights. -/
theorem sumBy_insert_add {f : (a : α) → β a → ℕ} {s : AList β} {a : α} {b b' : β a}
    (h : s.lookup a = some b) : (s.insert a b').sumBy f + f a b = s.sumBy f + f a b' := by
  rw [sumBy_insert, sumBy_erase_add f h]
  omega

/-- Overwriting a present entry by one of the same weight keeps the sum. -/
theorem sumBy_insert_of_eq {f : (a : α) → β a → ℕ} {s : AList β} {a : α} {b b' : β a}
    (h : s.lookup a = some b) (hw : f a b' = f a b) : (s.insert a b').sumBy f = s.sumBy f := by
  have hadd : (s.insert a b').sumBy f + f a b = s.sumBy f + f a b' := sumBy_insert_add h
  omega

/-- Inserting a fresh key adds its weight. -/
theorem sumBy_insert_of_lookup_eq_none {f : (a : α) → β a → ℕ} {s : AList β} {a : α}
    (h : s.lookup a = none) (b : β a) : (s.insert a b).sumBy f = s.sumBy f + f a b := by
  rw [sumBy_insert, erase_of_lookup_eq_none h]

/-- One entry weighs at most the sum. -/
theorem le_sumBy (f : (a : α) → β a → ℕ) {s : AList β} {a : α} {b : β a}
    (h : s.lookup a = some b) : f a b ≤ s.sumBy f := by
  rw [sumBy_erase_add f h]
  omega

/-- Two different entries together weigh at most the sum. -/
theorem add_le_sumBy (f : (a : α) → β a → ℕ) {s : AList β} {a a' : α} {b : β a} {b' : β a'}
    (h : s.lookup a = some b) (h' : s.lookup a' = some b') (hne : a ≠ a') :
    f a b + f a' b' ≤ s.sumBy f := by
  have h'' : (s.erase a).lookup a' = some b' := by rw [lookup_erase_ne hne.symm]; exact h'
  have := le_sumBy f h''
  rw [sumBy_erase_add f h]
  omega

/-- Pointwise smaller weights give a smaller sum. -/
theorem sumBy_le_sumBy {f g : (a : α) → β a → ℕ} {s : AList β}
    (h : ∀ a b, s.lookup a = some b → f a b ≤ g a b) : s.sumBy f ≤ s.sumBy g := by
  unfold sumBy
  apply List.sum_le_sum
  intro e he
  exact h e.1 e.2 (mem_lookup_iff.mpr he)

/-- In a store of numbers, an entry, zero when absent, is at most the sum. -/
theorem getD_le_sumBy {s : AList (fun _ : α => ℕ)} (a : α) :
    (s.lookup a).getD 0 ≤ s.sumBy (fun _ x => x) := by
  cases h : s.lookup a with
  | none => exact Nat.zero_le _
  | some x => exact le_sumBy (fun _ x => x) h

/-- In a store of numbers, adding `v` at one key, absent keys counting as
zero, adds `v` to the sum. -/
theorem sumBy_insert_getD_add {s : AList (fun _ : α => ℕ)} (a : α) (v : ℕ) :
    (s.insert a ((s.lookup a).getD 0 + v)).sumBy (fun _ x => x) =
      s.sumBy (fun _ x => x) + v := by
  cases h : s.lookup a with
  | none =>
    rw [Option.getD_none, Nat.zero_add]
    exact sumBy_insert_of_lookup_eq_none h _
  | some x =>
    have hadd : (s.insert a (x + v)).sumBy (fun _ x => x) + x = s.sumBy (fun _ x => x) + (x + v) :=
      sumBy_insert_add h
    rw [Option.getD_some]
    omega

/-- A store whose present entries all weigh nothing sums to nothing. -/
theorem sumBy_eq_zero {f : (a : α) → β a → ℕ} {s : AList β}
    (h : ∀ a b, s.lookup a = some b → f a b = 0) : s.sumBy f = 0 := by
  unfold sumBy
  apply List.sum_eq_zero
  intro x hx
  obtain ⟨e, he, rfl⟩ := List.mem_map.mp hx
  exact h e.1 e.2 (mem_lookup_iff.mpr he)

end Store

end AList
