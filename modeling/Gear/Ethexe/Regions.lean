import Gear.Ethexe.MemoryPages

/-!
# The regions refine the flat page map

A page is read from the region of its index (`pageLookup`); when every stored
region holds only its own pages (`WellFormed`), that is what flattening the
regions reads (`flatten_lookup`). The loops of the two calls keep, for each
page, the lookup in the region they hold for its index; one iteration changes
it at its own page only, as `BTreeMap::insert` and `BTreeMap::remove` change
the flat map (`loopLookup_updateStep`, `loopLookup_removeStep`). Writing the
regions back gives each index the region of the loop, except that
`remove_and_store_regions` keeps the old region in place of an empty one.

> `run_flatten_lookup`: over any calls from empty memory in which no removal
> empties a region, the flattened regions are the flat map.
>
> `remove_emptying_region_keeps_pages`: inserting a page and removing it
> again leaves it in the flattened regions.
-/

namespace Gear.Ethexe

variable {H : Type}

/-- Storing a region and reading it back, an empty one for nothing stored,
gives the region. -/
theorem Region.store_getD (r : Region H) : r.store.getD ∅ = r := by
  unfold Region.store
  split
  · rename_i hr
    exact (AList.ext (List.isEmpty_iff.mp hr)).symm
  · rfl

/-- A region with no page is not stored. -/
theorem Region.store_eq_none {r : Region H} (h : ∀ q, q ∉ r) : r.store = none := by
  unfold Region.store
  cases hr : r.entries with
  | nil => rfl
  | cons e l =>
    have he : e.1 ∈ r := AList.mem_keys.mpr (by simp [AList.keys, hr])
    exact absurd he (h e.1)

/-- A lookup in a union is the lookup in the left map, or else in the right. -/
theorem lookup_union_or (r s : Region H) (p : GearPage) :
    (r ∪ s).lookup p = (r.lookup p).or (s.lookup p) := by
  by_cases hp : p ∈ r
  · obtain ⟨b, hb⟩ := Option.isSome_iff_exists.mp (AList.lookup_isSome.mpr hp)
    rw [AList.lookup_union_left hp, hb, Option.some_or]
  · rw [AList.lookup_union_right hp, AList.lookup_eq_none.mpr hp, Option.none_or]

namespace MemoryPages

/-- The data hash of page `p`, read from the region of its index. -/
def pageLookup (mp : MemoryPages H) (p : GearPage) : Option H :=
  ((mp.regions (pageRegion p)).getD ∅).lookup p

/-- Every stored region holds only pages of its own index. -/
def WellFormed (mp : MemoryPages H) : Prop :=
  ∀ i, ∀ p ∈ (mp.regions i).getD ∅, pageRegion p = i

theorem wellFormed_empty : (empty : MemoryPages H).WellFormed := by
  intro i p hp
  exact absurd hp (AList.notMem_empty p)

/-! ## Flattening -/

/-- Extending a map by regions of which only region `pageRegion p` may hold
`p` reads `p` from that region, if it is among them. -/
theorem lookup_foldl_union (R : Fin regionsAmount → Region H) {p : GearPage}
    (hR : ∀ i, i ≠ pageRegion p → p ∉ R i) :
    ∀ (l : List (Fin regionsAmount)) (acc : Region H),
      (l.foldl (fun acc i => R i ∪ acc) acc).lookup p =
        if pageRegion p ∈ l then ((R (pageRegion p)).lookup p).or (acc.lookup p) else acc.lookup p
  | [], acc => by simp
  | i :: l, acc => by
    rw [List.foldl_cons, lookup_foldl_union R hR l, lookup_union_or]
    by_cases hi : i = pageRegion p
    · subst hi
      by_cases hl : pageRegion p ∈ l
      · rw [if_pos hl, if_pos List.mem_cons_self]
        cases (R (pageRegion p)).lookup p <;> rfl
      · simp [hl]
    · have hnone : (R i).lookup p = none := AList.lookup_eq_none.mpr (hR i hi)
      have hmem : pageRegion p ∈ i :: l ↔ pageRegion p ∈ l := by
        simp [Ne.symm hi]
      simp only [hnone, Option.none_or, hmem]

theorem flatten_lookup {mp : MemoryPages H} (hwf : mp.WellFormed) (p : GearPage) :
    mp.flatten.lookup p = mp.pageLookup p := by
  have hR : ∀ i, i ≠ pageRegion p → p ∉ (mp.regions i).getD ∅ :=
    fun i hi hp => hi (hwf i p hp).symm
  rw [flatten, lookup_foldl_union _ hR, if_pos (List.mem_finRange _), AList.lookup_empty,
    Option.or_none, pageLookup]

/-! ## The loops -/

/-- The data hash of page `p` in the region the loop holds for its index. -/
def loopLookup (mp : MemoryPages H) (updated : AList fun _ : Fin regionsAmount => Region H)
    (p : GearPage) : Option H :=
  (mp.loadRegion updated (pageRegion p)).lookup p

/-- Every region the loop holds has only pages of its own index. -/
def LoopWellFormed (mp : MemoryPages H) (updated : AList fun _ : Fin regionsAmount => Region H) :
    Prop :=
  ∀ i, ∀ p ∈ mp.loadRegion updated i, pageRegion p = i

variable {mp : MemoryPages H} {updated : AList fun _ : Fin regionsAmount => Region H}

theorem loadRegion_empty (mp : MemoryPages H) (i : Fin regionsAmount) :
    mp.loadRegion ∅ i = (mp.regions i).getD ∅ := by
  simp [loadRegion]

theorem loadRegion_insert (i j : Fin regionsAmount) (r : Region H) :
    mp.loadRegion (updated.insert j r) i = if i = j then r else mp.loadRegion updated i := by
  by_cases hij : i = j
  · subst hij
    simp [loadRegion, AList.lookup_insert]
  · simp [loadRegion, AList.lookup_insert_ne hij, hij]

/-- One iteration of the update loop sets the hash of its page. -/
theorem loopLookup_updateStep (e : Σ _ : GearPage, H) (p : GearPage) :
    mp.loopLookup (mp.updateStep updated e) p =
      if p = e.1 then some e.2 else mp.loopLookup updated p := by
  unfold loopLookup updateStep
  rw [loadRegion_insert]
  by_cases hp : p = e.1
  · subst hp
    simp [AList.lookup_insert]
  · by_cases hr : pageRegion p = pageRegion e.1
    · rw [if_pos hr, AList.lookup_insert_ne hp, if_neg hp, hr]
    · rw [if_neg hr, if_neg hp]

/-- One iteration of the removal loop drops the hash of its page. -/
theorem loopLookup_removeStep (q p : GearPage) :
    mp.loopLookup (mp.removeStep updated q) p = if p = q then none else mp.loopLookup updated p := by
  unfold loopLookup removeStep
  rw [loadRegion_insert]
  by_cases hp : p = q
  · subst hp
    simp [AList.lookup_erase]
  · by_cases hr : pageRegion p = pageRegion q
    · rw [if_pos hr, AList.lookup_erase_ne hp, if_neg hp, hr]
    · rw [if_neg hr, if_neg hp]

theorem LoopWellFormed.updateStep (hwf : mp.LoopWellFormed updated) (e : Σ _ : GearPage, H) :
    mp.LoopWellFormed (mp.updateStep updated e) := by
  intro i p hp
  rw [MemoryPages.updateStep, loadRegion_insert] at hp
  split at hp
  · rename_i hi
    rcases (AList.mem_insert _).mp hp with rfl | hp
    · exact hi.symm
    · exact hi ▸ hwf _ p hp
  · exact hwf i p hp

theorem LoopWellFormed.removeStep (hwf : mp.LoopWellFormed updated) (q : GearPage) :
    mp.LoopWellFormed (mp.removeStep updated q) := by
  intro i p hp
  rw [MemoryPages.removeStep, loadRegion_insert] at hp
  split at hp
  · rename_i hi
    exact hi ▸ hwf _ p (AList.mem_erase.mp hp).2
  · exact hwf i p hp

theorem LoopWellFormed.foldl_updateStep (hwf : mp.LoopWellFormed updated)
    (l : List (Σ _ : GearPage, H)) : mp.LoopWellFormed (l.foldl mp.updateStep updated) := by
  induction l generalizing updated with
  | nil => exact hwf
  | cons e l ih => exact ih (hwf.updateStep e)

theorem LoopWellFormed.foldl_removeStep (hwf : mp.LoopWellFormed updated) (l : List GearPage) :
    mp.LoopWellFormed (l.foldl mp.removeStep updated) := by
  induction l generalizing updated with
  | nil => exact hwf
  | cons q l ih => exact ih (hwf.removeStep q)

/-- The update loop, from a region map agreeing with a flat map, agrees with
the flat map after the same inserts. -/
theorem loopLookup_foldl_updateStep (mp : MemoryPages H) :
    ∀ (l : List (Σ _ : GearPage, H)) (updated : AList fun _ : Fin regionsAmount => Region H)
      (flat : Region H), (∀ p, mp.loopLookup updated p = flat.lookup p) →
      ∀ p, mp.loopLookup (l.foldl mp.updateStep updated) p =
        (l.foldl (fun m e => m.insert e.1 e.2) flat).lookup p
  | [], _, _, hflat => hflat
  | e :: l, updated, flat, hflat => by
    refine loopLookup_foldl_updateStep mp l _ _ (fun p => ?_)
    rw [loopLookup_updateStep, hflat]
    by_cases hp : p = e.1
    · subst hp
      simp [AList.lookup_insert]
    · rw [if_neg hp, AList.lookup_insert_ne hp]

/-- The removal loop, likewise, after the same removals. -/
theorem loopLookup_foldl_removeStep (mp : MemoryPages H) :
    ∀ (l : List GearPage) (updated : AList fun _ : Fin regionsAmount => Region H)
      (flat : Region H), (∀ p, mp.loopLookup updated p = flat.lookup p) →
      ∀ p, mp.loopLookup (l.foldl mp.removeStep updated) p =
        (l.foldl (fun m p => m.erase p) flat).lookup p
  | [], _, _, hflat => hflat
  | q :: l, updated, flat, hflat => by
    refine loopLookup_foldl_removeStep mp l _ _ (fun p => ?_)
    rw [loopLookup_removeStep, hflat]
    by_cases hp : p = q
    · subst hp
      simp [AList.lookup_erase]
    · rw [if_neg hp, AList.lookup_erase_ne hp]

/-- The removal loop changes only the regions of the pages it removes. -/
theorem mem_foldl_removeStep (mp : MemoryPages H) {i : Fin regionsAmount} :
    ∀ (l : List GearPage) (updated : AList fun _ : Fin regionsAmount => Region H),
      i ∈ l.foldl mp.removeStep updated → i ∈ updated ∨ ∃ q ∈ l, pageRegion q = i
  | [], _, h => .inl h
  | q :: l, updated, h => by
    rcases mem_foldl_removeStep mp l _ h with h | ⟨q', hq', rfl⟩
    · rcases (AList.mem_insert _).mp h with rfl | h
      · exact .inr ⟨q, List.mem_cons_self .., rfl⟩
      · exact .inl h
    · exact .inr ⟨q', List.mem_cons_of_mem q hq', rfl⟩

theorem loopWellFormed_empty (hwf : mp.WellFormed) : mp.LoopWellFormed ∅ := by
  intro i p hp
  rw [loadRegion_empty] at hp
  exact hwf i p hp

theorem loopLookup_empty (p : GearPage) : mp.loopLookup ∅ p = mp.pageLookup p := by
  rw [loopLookup, loadRegion_empty, pageLookup]

/-! ## Writing the regions back -/

/-- Writing back each region of a map with distinct keys, by a step that sets
the region's index by a rule `w` of the old entry and the region, gives each
written index its rule's entry. -/
theorem regions_foldl_write (f : MemoryPages H → (Σ _ : Fin regionsAmount, Region H) → MemoryPages H)
    (w : Option (Region H) → Region H → Option (Region H))
    (hf : ∀ mp e, (f mp e).regions = Function.update mp.regions e.1 (w (mp.regions e.1) e.2)) :
    ∀ (l : List (Σ _ : Fin regionsAmount, Region H)), l.NodupKeys →
      ∀ (mp : MemoryPages H) (i : Fin regionsAmount),
        (l.foldl f mp).regions i =
          match l.dlookup i with
          | some r => w (mp.regions i) r
          | none => mp.regions i
  | [], _, _, _ => rfl
  | e :: l, hnd, mp, i => by
    have hl := (List.nodupKeys_cons.mp hnd)
    rw [List.foldl_cons, regions_foldl_write f w hf l hl.2, hf]
    by_cases hi : i = e.1
    · subst hi
      rw [List.dlookup_eq_none.mpr hl.1, List.dlookup_cons_eq]
      simp
    · rw [List.dlookup_cons_ne _ _ hi]
      cases l.dlookup i <;> simp [Function.update_of_ne hi]

theorem updateAndStoreRegions_regions (newPages : Region H) (i : Fin regionsAmount) :
    ((mp.updateAndStoreRegions newPages).regions i).getD ∅ =
      mp.loadRegion (newPages.entries.foldl mp.updateStep ∅) i := by
  unfold updateAndStoreRegions
  rw [regions_foldl_write _ (fun _ r => r.store) (fun _ _ => rfl) _ (AList.nodupKeys _), loadRegion]
  simp only [AList.lookup]
  cases (AList.entries _).dlookup i <;> simp [Region.store_getD]

/-- After the removals, a region is the loop's unless the loop emptied it. -/
theorem removeAndStoreRegions_regions (pages : List GearPage) (i : Fin regionsAmount) :
    (mp.removeAndStoreRegions pages).regions i =
      match (pages.foldl mp.removeStep ∅).lookup i with
      | some r => r.store.or (mp.regions i)
      | none => mp.regions i := by
  unfold removeAndStoreRegions
  rw [regions_foldl_write _ (fun old r => r.store.or old) ?hf _ (AList.nodupKeys _)]
  · rfl
  case hf =>
    -- an empty region leaves the entry as it was
    intro mp' e
    split
    · rename_i r hr
      simp [set, hr]
    · rename_i hr
      simp [hr]

/-- Removing pages keeps every region to its own pages, whether the region is
written back or left as it was. -/
theorem removeAndStoreRegions_wellFormed (hwf : mp.WellFormed) (pages : List GearPage) :
    (mp.removeAndStoreRegions pages).WellFormed := by
  have hloopwf := (loopWellFormed_empty hwf).foldl_removeStep pages
  intro i p hp
  rw [removeAndStoreRegions_regions] at hp
  split at hp
  · rename_i r hr
    unfold Region.store at hp
    split at hp
    · simp only [Option.none_or] at hp
      exact hwf i p hp
    · have hload : mp.loadRegion (pages.foldl mp.removeStep ∅) i = r := by
        simp [loadRegion, hr]
      simp only [Option.some_or, Option.getD_some] at hp
      exact hloopwf i p (hload ▸ hp)
  · exact hwf i p hp

/-! ## One call -/

variable {flat : Region H}

theorem updateAndStoreRegions_refines (hwf : mp.WellFormed)
    (hflat : ∀ p, mp.pageLookup p = flat.lookup p) (newPages : Region H) :
    (mp.updateAndStoreRegions newPages).WellFormed ∧
      ∀ p, (mp.updateAndStoreRegions newPages).pageLookup p =
        ((PagesOp.update newPages).applyFlat flat).lookup p := by
  have hloop := loopLookup_foldl_updateStep mp newPages.entries ∅ flat
    (fun p => by rw [loopLookup_empty, hflat])
  have hloopwf := (loopWellFormed_empty hwf).foldl_updateStep newPages.entries
  refine ⟨fun i p hp => ?_, fun p => ?_⟩
  · rw [updateAndStoreRegions_regions] at hp
    exact hloopwf i p hp
  · rw [pageLookup, updateAndStoreRegions_regions]
    exact hloop p

/-- Removing pages keeps the regions refining the flat map when every region of
a removed page keeps a page. -/
theorem removeAndStoreRegions_refines (hwf : mp.WellFormed)
    (hflat : ∀ p, mp.pageLookup p = flat.lookup p) (pages : List GearPage)
    (hkeep : ∀ q ∈ pages, ∃ p ∈ (PagesOp.remove pages).applyFlat flat, pageRegion p = pageRegion q) :
    (mp.removeAndStoreRegions pages).WellFormed ∧
      ∀ p, (mp.removeAndStoreRegions pages).pageLookup p =
        ((PagesOp.remove pages).applyFlat flat).lookup p := by
  have hloop := loopLookup_foldl_removeStep mp pages ∅ flat
    (fun p => by rw [loopLookup_empty, hflat])
  set u := pages.foldl mp.removeStep ∅ with hu
  -- every region the loop holds for an index it touched still has a page
  have hfull : ∀ i r, u.lookup i = some r → ∃ p, p ∈ r := by
    intro i r hr
    have hi : i ∈ u := AList.lookup_isSome.mp (by simp [hr])
    obtain ⟨q, hq, rfl⟩ := (mem_foldl_removeStep mp pages ∅ hi).resolve_left
      (AList.notMem_empty _)
    obtain ⟨p, hp, hpq⟩ := hkeep q hq
    have hload : mp.loadRegion u (pageRegion q) = r := by simp [loadRegion, hr]
    refine ⟨p, ?_⟩
    have hlk : (mp.loadRegion u (pageRegion p)).lookup p ≠ none := by
      rw [← loopLookup, hloop p]
      exact fun h => (AList.lookup_eq_none.mp h) hp
    rw [hpq, hload] at hlk
    exact AList.lookup_isSome.mp (Option.isSome_iff_ne_none.mpr hlk)
  -- so each index reads the loop's region
  have hregion : ∀ i, ((mp.removeAndStoreRegions pages).regions i).getD ∅ = mp.loadRegion u i := by
    intro i
    rw [removeAndStoreRegions_regions, loadRegion, ← hu]
    cases hr : u.lookup i with
    | none => rfl
    | some r =>
      obtain ⟨p, hp⟩ := hfull i r hr
      have hne : r.entries.isEmpty = false := by
        rw [List.isEmpty_eq_false_iff]
        intro he
        have hr0 : r = ∅ := AList.ext he
        exact AList.notMem_empty p (hr0 ▸ hp)
      simp [Region.store, hne]
  refine ⟨removeAndStoreRegions_wellFormed hwf pages, fun p => ?_⟩
  rw [pageLookup, hregion]
  exact hloop p

/-! ## Runs -/

end MemoryPages

/-- No removal of the calls from flat map `flat` on empties a region: every
region of a removed page keeps a page. -/
def KeepsRegions : Region H → List (PagesOp H) → Prop
  | _, [] => True
  | flat, .update newPages :: ops => KeepsRegions ((PagesOp.update newPages).applyFlat flat) ops
  | flat, .remove pages :: ops =>
    (∀ q ∈ pages, ∃ p ∈ (PagesOp.remove pages).applyFlat flat, pageRegion p = pageRegion q) ∧
      KeepsRegions ((PagesOp.remove pages).applyFlat flat) ops

theorem foldl_apply_refines :
    ∀ (ops : List (PagesOp H)) (mp : MemoryPages H) (flat : Region H), KeepsRegions flat ops →
      mp.WellFormed → (∀ p, mp.pageLookup p = flat.lookup p) →
      (ops.foldl PagesOp.apply mp).WellFormed ∧
        ∀ p, (ops.foldl PagesOp.apply mp).pageLookup p = (ops.foldl PagesOp.applyFlat flat).lookup p
  | [], _, _, _, hwf, hflat => ⟨hwf, hflat⟩
  | .update newPages :: ops, mp, flat, hkeep, hwf, hflat => by
    obtain ⟨hwf', hflat'⟩ := MemoryPages.updateAndStoreRegions_refines hwf hflat newPages
    exact foldl_apply_refines ops _ _ hkeep hwf' hflat'
  | .remove pages :: ops, mp, flat, hkeep, hwf, hflat => by
    obtain ⟨hwf', hflat'⟩ := MemoryPages.removeAndStoreRegions_refines hwf hflat pages hkeep.1
    exact foldl_apply_refines ops _ _ hkeep.2 hwf' hflat'

/-- From empty memory, calls of which no removal empties a region leave
regions that flatten to the flat map. -/
theorem run_flatten_lookup (ops : List (PagesOp H)) (hkeep : KeepsRegions ∅ ops) (p : GearPage) :
    (ops.foldl PagesOp.apply .empty).flatten.lookup p = (ops.foldl PagesOp.applyFlat ∅).lookup p := by
  obtain ⟨hwf, hflat⟩ := foldl_apply_refines ops .empty ∅ hkeep MemoryPages.wellFormed_empty
    (fun p => by simp [MemoryPages.pageLookup, MemoryPages.empty])
  rw [MemoryPages.flatten_lookup hwf, hflat]

/-- Inserting a page into empty memory and removing it again: the flat map
no longer has it, and the flattened regions still do. -/
theorem remove_emptying_region_keeps_pages (p : GearPage) (h : H) :
    ([.update (AList.singleton p h), .remove [p]].foldl PagesOp.apply MemoryPages.empty).flatten.lookup p
      = some h ∧
    ([.update (AList.singleton p h), .remove [p]].foldl PagesOp.applyFlat ∅).lookup p = none := by
  set mp₁ := (MemoryPages.empty : MemoryPages H).updateAndStoreRegions (AList.singleton p h)
  have hempty : ∀ q, (MemoryPages.empty : MemoryPages H).pageLookup q = (∅ : Region H).lookup q := by
    simp [MemoryPages.pageLookup, MemoryPages.empty]
  obtain ⟨hwf₁, hflat₁⟩ := MemoryPages.updateAndStoreRegions_refines MemoryPages.wellFormed_empty
    hempty (AList.singleton p h)
  have hflat₁ : ∀ q, mp₁.pageLookup q = if q = p then some h else none := by
    intro q
    have hentries : (AList.singleton p h : Region H).entries = [(⟨p, h⟩ : Σ _ : GearPage, H)] := rfl
    rw [hflat₁ q, PagesOp.applyFlat, hentries, List.foldl_cons, List.foldl_nil]
    by_cases hq : q = p
    · subst hq
      rw [AList.lookup_insert, if_pos rfl]
    · rw [AList.lookup_insert_ne hq, AList.lookup_empty, if_neg hq]
  -- the region of `p` holds `p` alone, so the removal empties it
  have halone : ∀ q, q ∉ ((mp₁.regions (pageRegion p)).getD ∅).erase p := by
    intro q hq
    obtain ⟨hqp, hq⟩ := AList.mem_erase.mp hq
    have hlk := hflat₁ q
    rw [if_neg hqp, MemoryPages.pageLookup, hwf₁ _ q hq] at hlk
    exact (AList.lookup_eq_none.mp hlk) hq
  have hkept : (mp₁.removeAndStoreRegions [p]).regions (pageRegion p) = mp₁.regions (pageRegion p) := by
    rw [MemoryPages.removeAndStoreRegions_regions, List.foldl_cons, List.foldl_nil,
      MemoryPages.removeStep, MemoryPages.loadRegion_empty, AList.lookup_insert]
    dsimp only
    rw [Region.store_eq_none halone, Option.none_or]
  constructor
  · simp only [List.foldl_cons, List.foldl_nil, PagesOp.apply]
    rw [MemoryPages.flatten_lookup (MemoryPages.removeAndStoreRegions_wellFormed hwf₁ [p]),
      MemoryPages.pageLookup, hkept, ← MemoryPages.pageLookup, hflat₁, if_pos rfl]
  · simp [PagesOp.applyFlat, AList.singleton]

end Gear.Ethexe
