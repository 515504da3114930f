import Gear.GasTree.Saturation

/-!
# What `consume` removes

`consume` removes nodes in two places: the consumed node itself, when it has
no children left, and the ancestors `try_remove_consumed_ancestors` removes
on its walk up. Every other write of either is a payload write: `catch_value`
gives a patron value, `decrease_parents_ref` lowers a parent's counter, and a
node that keeps children is written back. None of them changes what a walk
up the tree reads of a node — its kind, its parent and its consumed flag
(`GasNode.links`).

`RemovesChain s s' c` says exactly that: `s'` is `s` without the nodes of
`c`, which follow the parent pointers of `s`, and every node that stays is
linked as it was. The walk keeps it step by step
(`removeAncestorsLoop_removes`), and so does `consume` (`consume_removes`),
with no invariant at all. With the tree invariant before and after, the
removed nodes are what the property tests `assert_removed_nodes_props` and
`assert_root_children_removed` expect (`RemovesPath`, `consume_removes_path`)
along every run whose children counters never saturate. Past `u32::MAX`
children a consume removes a root that still has a child
(`consume_orphans_past_u32`).
-/

namespace Gear.GasTree

variable {E K M : Type} [DecidableEq K]

open TreeState TreeImpl

namespace GasNode

variable {n n' : GasNode E K M}

/-- What a walk up the tree reads of a node: its kind, its parent and whether
it is consumed. -/
def links (n : GasNode E K M) : Kind × Option K × Bool := (n.kind, n.parent, n.isConsumed)

omit [DecidableEq K] in
@[simp] theorem links_withValue (v : ℕ) : (n.withValue v).links = n.links := by simp [links]

omit [DecidableEq K] in
@[simp] theorem links_adjustRefs (i sp : Bool) : (n.adjustRefs i sp).links = n.links := by
  simp [links]

omit [DecidableEq K] in
theorem kind_of_links (h : n'.links = n.links) : n'.kind = n.kind := congrArg (·.1) h

omit [DecidableEq K] in
theorem parent_of_links (h : n'.links = n.links) : n'.parent = n.parent := congrArg (·.2.1) h

omit [DecidableEq K] in
theorem isConsumed_of_links (h : n'.links = n.links) : n'.isConsumed = n.isConsumed :=
  congrArg (·.2.2) h

end GasNode

theorem TreeState.lookup_of_lookup_removeNode {s : TreeState E K M} {k j : K} {n : GasNode E K M}
    (h : (s.removeNode k).nodes.lookup j = some n) : j ≠ k ∧ s.nodes.lookup j = some n := by
  have hjk : j ≠ k := by
    rintro rfl
    rw [lookup_removeNode_self] at h
    cases h
  rw [lookup_removeNode_ne _ hjk] at h
  exact ⟨hjk, h⟩

/-! ## Removing a chain -/

/-- `s'` is `s` without the nodes of `c`, which follow the parent pointers of
`s`; every node that stays is stored in `s`, linked as it was. -/
structure RemovesChain (s s' : TreeState E K M) (c : List K) : Prop where
  removed : ∀ k, s'.nodes.lookup k = none ↔ s.nodes.lookup k = none ∨ k ∈ c
  stays : ∀ k n', s'.nodes.lookup k = some n' → ∃ n, s.nodes.lookup k = some n ∧ n'.links = n.links
  chain : c.IsChain fun a b => ∃ n, s.nodes.lookup a = some n ∧ n.parent = some b

/-- The nodes of `c` are stored in `s`, consumed, and may be parents. -/
def ConsumedParents (s : TreeState E K M) (c : List K) : Prop :=
  ∀ a ∈ c, ∃ n, s.nodes.lookup a = some n ∧ n.isConsumed = true ∧ n.kind.canParent = true

namespace RemovesChain

variable {s s₁ s' : TreeState E K M} {c : List K}

theorem refl (s : TreeState E K M) : RemovesChain s s [] :=
  ⟨fun k => by simp, fun _ n' hk => ⟨n', hk, rfl⟩, .nil⟩

/-- Storages with the same nodes. -/
theorem of_nodes_eq (hn : s'.nodes = s.nodes) : RemovesChain s s' [] :=
  ⟨fun k => by simp [hn], fun _ n' hk => ⟨n', by rwa [← hn], rfl⟩, .nil⟩

/-- A payload write at a stored key removes nothing. -/
theorem insertNode {k : K} {n n' : GasNode E K M} (hk : s.nodes.lookup k = some n)
    (hl : n'.links = n.links) : RemovesChain s (s.insertNode k n') [] := by
  refine ⟨fun j => ?_, fun j m hj => ?_, .nil⟩
  · by_cases hjk : j = k
    · subst hjk
      simp [hk]
    · rw [lookup_insertNode_ne _ _ hjk]
      simp
  · by_cases hjk : j = k
    · subst hjk
      rw [lookup_insertNode_self, Option.some.injEq] at hj
      subst hj
      exact ⟨n, hk, hl⟩
    · rw [lookup_insertNode_ne _ _ hjk] at hj
      exact ⟨m, hj, rfl⟩

/-- Payload writes, then a chain removed. -/
theorem trans (h₁ : RemovesChain s s₁ []) (h₂ : RemovesChain s₁ s' c) : RemovesChain s s' c := by
  refine ⟨fun k => ?_, fun k n' hk => ?_, h₂.chain.imp fun a b ⟨n₁, ha, hp⟩ => ?_⟩
  · rw [h₂.removed, h₁.removed]
    simp
  · obtain ⟨n₁, hk₁, hl₁⟩ := h₂.stays k n' hk
    obtain ⟨n, hk', hl⟩ := h₁.stays k n₁ hk₁
    exact ⟨n, hk', hl₁.trans hl⟩
  · obtain ⟨n, ha', hl⟩ := h₁.stays a n₁ ha
    exact ⟨n, ha', (GasNode.parent_of_links hl).symm.trans hp⟩

/-- The stored `k` removed, then a chain that starts at its parent. -/
theorem cons {k : K} {n : GasNode E K M} (hk : s.nodes.lookup k = some n)
    (hlink : ∀ b rest, c = b :: rest → n.parent = some b)
    (h : RemovesChain (s.removeNode k) s' c) : RemovesChain s s' (k :: c) := by
  -- every node `s.removeNode k` stores is one of `s`
  have hback : ∀ j m, (s.removeNode k).nodes.lookup j = some m → s.nodes.lookup j = some m :=
    fun _ _ hj => (lookup_of_lookup_removeNode hj).2
  refine ⟨fun j => ?_, fun j n' hj => ?_, ?_⟩
  · rw [h.removed]
    by_cases hjk : j = k
    · subst hjk
      simp
    · rw [lookup_removeNode_ne _ hjk]
      simp [hjk]
  · obtain ⟨m, hm, hl⟩ := h.stays j n' hj
    exact ⟨m, hback j m hm, hl⟩
  · have htail : c.IsChain fun a b => ∃ m, s.nodes.lookup a = some m ∧ m.parent = some b :=
      h.chain.imp fun a b ⟨m, ha, hp⟩ => ⟨m, hback a m ha, hp⟩
    cases c with
    | nil => exact .singleton k
    | cons b rest => exact List.isChain_cons_cons.mpr ⟨⟨n, hk, hlink b rest rfl⟩, htail⟩

/-- A later storage with the same nodes. -/
theorem nodes_eq (h : RemovesChain s s₁ c) (hn : s'.nodes = s₁.nodes) : RemovesChain s s' c :=
  ⟨fun k => by rw [hn]; exact h.removed k, fun k n' hk => h.stays k n' (by rwa [← hn]), h.chain⟩

/-- Payload writes keep every stored node, linked as it was. -/
theorem lookup_of_nil (h : RemovesChain s s' []) {k : K} {n : GasNode E K M}
    (hk : s.nodes.lookup k = some n) : ∃ n', s'.nodes.lookup k = some n' ∧ n'.links = n.links := by
  cases hk' : s'.nodes.lookup k with
  | none =>
    have := (h.removed k).mp hk'
    simp [hk] at this
  | some n' =>
    obtain ⟨n₀, hk₀, hl⟩ := h.stays k n' hk'
    rw [hk, Option.some.injEq] at hk₀
    subst hk₀
    exact ⟨n', rfl, hl⟩

/-- The nodes of a chain stored in `s'` are stored in `s`, linked alike. -/
theorem consumedParents (h : RemovesChain s s' c) {c' : List K} (hc : ConsumedParents s' c') :
    ConsumedParents s c' := by
  intro a ha
  obtain ⟨n', ha', hcons, hcan⟩ := hc a ha
  obtain ⟨n, hn, hl⟩ := h.stays a n' ha'
  exact ⟨n, hn, (GasNode.isConsumed_of_links hl) ▸ hcons, (GasNode.kind_of_links hl) ▸ hcan⟩

/-- A removed node was stored: the chain's nodes are, and every other key
`s'` lacks was missing already. -/
theorem lookup_ne_none (h : RemovesChain s s' c) (hc : ∀ a ∈ c, s.nodes.lookup a ≠ none) (k : K) :
    (s.nodes.lookup k ≠ none ∧ s'.nodes.lookup k = none) ↔ k ∈ c := by
  rw [h.removed]
  constructor
  · rintro ⟨hk, hnone | hmem⟩
    · exact absurd hnone hk
    · exact hmem
  · intro hmem
    exact ⟨hc k hmem, .inr hmem⟩

end RemovesChain

/-! ## The writes of the walk -/

section Writes

variable {s s' : TreeState E K M}

/-- The patron `find_patron_loop` finds is stored. -/
theorem findPatronLoop_stored : ∀ (fuel : ℕ) {id pid : K} {n pn : GasNode E K M},
    s.nodes.lookup id = some n → findPatronLoop s fuel id n = .ok (some (pn, pid)) →
      s.nodes.lookup pid = some pn
  | 0, _, _, _, _, _, h => by simp [findPatronLoop] at h
  | fuel + 1, id, pid, n, pn, hk, h => by
    unfold findPatronLoop at h
    split at h
    · cases h
      exact hk
    · split at h
      · cases h
      · cases h
      · split at h
        · cases h
        · exact findPatronLoop_stored fuel ‹_› h
      · cases h

theorem findAncestorPatron_stored {n pn : GasNode E K M} {pid : K}
    (h : findAncestorPatron s n = .ok (some (pn, pid))) : s.nodes.lookup pid = some pn := by
  unfold findAncestorPatron at h
  split at h
  · cases h
  · cases h
  · cases h
  · split at h
    · cases h
    · exact findPatronLoop_stored _ ‹_› h
  · cases h

variable (bmax : ℕ)

/-- `catch_value` returns the node as the walk reads it, and gives a stored
patron value at most. -/
theorem catchValue_removesChain {n n' : GasNode E K M} {co : CatchValueOutput}
    (h : catchValue bmax s n = .ok (co, n', s')) : n'.links = n.links ∧ RemovesChain s s' [] := by
  unfold catchValue at h
  split at h
  · cases h
    exact ⟨rfl, .refl s⟩
  · split at h
    · split at h
      · cases h
      · -- a patron above: it takes the value, unless there is none
        rename_i hfind
        split at h
        · cases h
        · split at h
          · cases h
            exact ⟨rfl, .refl s⟩
          · split at h
            · cases h
            · cases h
              exact ⟨by simp, .insertNode (findAncestorPatron_stored hfind) (by simp)⟩
      · split at h
        · cases h
        · cases h
          exact ⟨by simp, .refl s⟩
    · cases h
      exact ⟨rfl, .refl s⟩

/-- `decrease_parents_ref` lowers a counter of a stored parent, or writes
nothing. -/
theorem decreaseParentsRef_removesChain {n : GasNode E K M}
    (h : decreaseParentsRef s n = .ok s') : RemovesChain s s' [] := by
  unfold decreaseParentsRef at h
  split at h
  · cases h
    exact .refl s
  · split at h
    · cases h
    · rename_i hp
      split at h
      · cases h
      · split at h
        · cases h
          exact .insertNode hp (by simp [GasNode.decreaseSpecRefs])
        · cases h
          exact .insertNode hp (by simp [GasNode.decreaseUnspecRefs])
        · cases h

/-- A stored node that is no patron and may be a parent is consumed. -/
theorem consumedParents_single {cur : K} {node : GasNode E K M}
    (hk : s.nodes.lookup cur = some node) (hpat : node.isPatron = false)
    (hcan : node.kind.canParent = true) : ConsumedParents s [cur] := by
  intro a ha
  rw [List.mem_singleton] at ha
  subst ha
  exact ⟨node, hk, ((GasNode.isPatron_eq_false_iff hcan).mp hpat).1, hcan⟩

/-- The walk of `try_remove_consumed_ancestors`, when it succeeds, removes
nodes that follow the parent pointers up from where it starts, each consumed
and able to be a parent, and writes payloads elsewhere. Induction on the
fuel, one removal per step. -/
theorem removeAncestorsLoop_removes (o : E) (m : M) :
    ∀ (fuel : ℕ) (s : TreeState E K M) (cur : K) (node : GasNode E K M) (co : CatchValueOutput)
      (out : ConsumeOutput E M) {out' : ConsumeOutput E M} {s' : TreeState E K M},
      s.nodes.lookup cur = some node →
      removeAncestorsLoop bmax o m fuel s cur node co out = (.ok out', s') →
      ∃ c, (c = [] ∨ ∃ rest, c = cur :: rest) ∧ RemovesChain s s' c ∧ ConsumedParents s c
  | 0, s, _, _, _, _, _, _, _, h => by simp [removeAncestorsLoop] at h
  | fuel + 1, s, cur, node, co, out, out', s', hk, h => by
    unfold removeAncestorsLoop at h
    split at h
    · -- a patron ends the walk
      cases h
      exact ⟨[], .inl rfl, .refl s, by simp [ConsumedParents]⟩
    rename_i hpat
    rw [Bool.not_eq_true] at hpat
    dsimp only at h
    split at h
    · cases h
    rename_i co' n' s2 hcatch
    -- the catch, or its reuse, keeps the node's links
    obtain ⟨hl', hw⟩ : n'.links = node.links ∧ RemovesChain s s2 [] := by
      split at hcatch
      · exact catchValue_removesChain bmax hcatch
      · cases hcatch
        exact ⟨rfl, .refl s⟩
    split at h
    · cases h
    split at h
    · split at h
      · cases h
      rename_i s3 hdec
      have hw3 := hw.trans (decreaseParentsRef_removesChain hdec)
      obtain ⟨n3, hk3, hl3⟩ := hw3.lookup_of_nil hk
      have hw4 : RemovesChain s (s3.removeNode cur) [cur] :=
        hw3.trans (.cons hk3 (fun _ _ h => by cases h) (.refl _))
      have hcan : node.kind.canParent = true → ConsumedParents s [cur] :=
        consumedParents_single hk hpat
      split at h
      · -- a root is removed and ends the walk
        split at h
        · cases h
        cases h
        refine ⟨[cur], .inr ⟨[], rfl⟩, hw4, hcan ?_⟩
        rw [← GasNode.kind_of_links hl']
        rfl
      · split at h
        · cases h
        cases h
        refine ⟨[cur], .inr ⟨[], rfl⟩, hw4, hcan ?_⟩
        rw [← GasNode.kind_of_links hl']
        rfl
      · -- a specified node is removed and the walk goes on at its parent
        split at h
        · cases h
        rename_i parent _ _ _ _ _ _ _ _ pn hpn
        obtain ⟨c, hc, hrc, hcp⟩ := removeAncestorsLoop_removes o m fuel _ parent pn _ _ hpn h
        have hpar : n3.parent = some parent := by
          rw [GasNode.parent_of_links hl3, ← GasNode.parent_of_links hl']
          rfl
        refine ⟨cur :: c, .inr ⟨c, rfl⟩, hw3.trans (.cons hk3 ?_ hrc), ?_⟩
        · rintro b rest rfl
          rcases hc with hc | ⟨rest', hc⟩
          · cases hc
          · cases hc
            exact hpar
        · intro a ha
          rcases List.mem_cons.mp ha with rfl | ha
          · refine hcan ?_ a (List.mem_singleton_self a)
            rw [← GasNode.kind_of_links hl']
            rfl
          · exact hw4.consumedParents hcp a ha
      · cases h
    · -- a node that keeps specified children is written back
      cases h
      obtain ⟨n2, hk2, hl2⟩ := hw.lookup_of_nil hk
      exact ⟨[], .inl rfl, hw.trans (.insertNode hk2 (hl'.trans hl2.symm)),
        by simp [ConsumedParents]⟩

/-- `try_remove_consumed_ancestors` from `p`: the walk. -/
theorem tryRemoveConsumedAncestors_removes {p : K} {co : CatchValueOutput}
    {out : ConsumeOutput E M} (h : tryRemoveConsumedAncestors bmax s p co = (.ok out, s')) :
    ∃ c, (c = [] ∨ ∃ rest, c = p :: rest) ∧ RemovesChain s s' c ∧ ConsumedParents s c := by
  unfold tryRemoveConsumedAncestors at h
  split at h
  · cases h
  rename_i pn hpn
  split at h
  · cases h
  exact removeAncestorsLoop_removes bmax _ _ _ s p pn _ none hpn h

/-- What a successful `consume` of `key` removes: nothing, and the node is
written back consumed; or the node and then nodes that follow the parent
pointers up from its parent, each consumed and able to be a parent — the node
alone when it has no parent. -/
theorem consume_removes {key : K} {out : ConsumeOutput E M}
    (h : consume bmax s key = (.ok out, s')) :
    ∃ node, s.nodes.lookup key = some node ∧
      (((∀ k, s'.nodes.lookup k = none ↔ s.nodes.lookup k = none) ∧
          ∃ n', s'.nodes.lookup key = some n' ∧ n'.isConsumed = true ∧ n'.kind.canParent = true) ∨
        ∃ rest, RemovesChain s s' (key :: rest) ∧ ConsumedParents s rest ∧
          (node.parent = none → rest = [])) := by
  unfold consume at h
  split at h
  · cases h
  rename_i node hk
  -- the checks passed
  split at h
  · cases h
  split at h
  · cases h
  split at h
  · cases h
  split at h
  · cases h
  rename_i co n1 s1 hcatch
  obtain ⟨hl1, hw1⟩ := catchValue_removesChain bmax hcatch
  split at h
  · cases h
  dsimp only at h
  -- the node work, then the last step, which changes the total only
  generalize hres : ite (n1.refs = 0) _ _ = res at h
  obtain ⟨_ | o, s2⟩ := res
  · cases h
  have hn : s'.nodes = s2.nodes := by
    rcases o with _ | ⟨v, mo⟩
    · cases h
      rfl
    · dsimp only at h
      split at h
      · cases h
        rfl
      · cases h
  refine ⟨node, hk, ?_⟩
  have hpar : n1.parent = node.parent := by
    rw [GasNode.parent_of_links hl1, GasNode.parent_markConsumed]
  split at hres
  · -- no children left: the node goes
    split at hres
    · cases hres
    rename_i s3 hdec
    have hw3 := hw1.trans (decreaseParentsRef_removesChain hdec)
    obtain ⟨n3, hk3, hl3⟩ := hw3.lookup_of_nil hk
    have hw4 : RemovesChain s (s3.removeNode key) [key] :=
      hw3.trans (.cons hk3 (fun _ _ h => by cases h) (.refl _))
    -- a local node: the walk from its parent
    have hwalk : ∀ {p : K} {o : ConsumeOutput E M}, n1.parent = some p →
        tryRemoveConsumedAncestors bmax (s3.removeNode key) p co = (.ok o, s2) →
        ∃ rest, RemovesChain s s' (key :: rest) ∧ ConsumedParents s rest ∧
          (node.parent = none → rest = []) := by
      intro p o hp htry
      obtain ⟨c, hc, hrc, hcp⟩ := tryRemoveConsumedAncestors_removes bmax htry
      refine ⟨c, (hw3.trans (.cons hk3 ?_ hrc)).nodes_eq hn, hw4.consumedParents hcp, ?_⟩
      · rintro b rest rfl
        rcases hc with hc | ⟨rest', hc⟩
        · cases hc
        · cases hc
          rw [GasNode.parent_of_links hl3, ← hpar, hp]
      · intro hnone
        rw [← hpar, hp] at hnone
        cases hnone
    -- a root: removed alone
    have hroot : s2 = s3.removeNode key → ∃ rest, RemovesChain s s' (key :: rest) ∧
        ConsumedParents s rest ∧ (node.parent = none → rest = []) := by
      rintro rfl
      exact ⟨[], hw4.nodes_eq hn, by simp [ConsumedParents], fun _ => rfl⟩
    split at hres
    · split at hres
      · cases hres
      cases hres
      exact .inr (hroot rfl)
    · split at hres
      · cases hres
      cases hres
      exact .inr (hroot rfl)
    · split at hres
      · cases hres
      cases hres
      exact .inr (hroot rfl)
    · split at hres
      · cases hres
      exact .inr (hwalk rfl hres)
    · split at hres
      · cases hres
      split at hres
      · cases hres
      rename_i s5 htry
      -- the check of the two outputs writes nothing
      have hs5 : s2 = s5 := by
        split at hres
        · split at hres
          · cases hres
            rfl
          · cases hres
        · cases hres
          rfl
        · cases hres
      subst hs5
      exact .inr (hwalk rfl htry)
  · -- children left: the node is written back, consumed
    split at hres
    · cases hres
    rename_i hnc
    cases hres
    have hcan : n1.kind.canParent = true := by
      cases n1 <;> simp_all [GasNode.isCut, GasNode.isUnspecifiedLocal, GasNode.kind,
        GasNode.Kind.canParent]
    have hcan' : node.kind.canParent = true := by
      rwa [GasNode.kind_of_links hl1, GasNode.kind_markConsumed] at hcan
    refine .inl ⟨fun k => ?_, n1, ?_, ?_, hcan⟩
    · rw [hn]
      by_cases hkk : k = key
      · subst hkk
        simp [hk]
      · rw [lookup_insertNode_ne _ _ hkk, hw1.removed]
        simp
    · rw [hn, lookup_insertNode_self]
    · rw [GasNode.isConsumed_of_links hl1]
      exact GasNode.isConsumed_markConsumed hcan'

end Writes

/-! ## The removed nodes of a consume -/

omit [DecidableEq K] in
theorem GasNode.Kind.eq_of_canParent {kd : GasNode.Kind} (h : kd.canParent = true) :
    kd = .external ∨ kd = .reserved ∨ kd = .specifiedLocal := by
  cases kd <;> simp_all [GasNode.Kind.canParent]

/-- What `assert_removed_nodes_props` and `assert_root_children_removed`
check of a consume of `key` from `s` to `s'` that removed the nodes `c`: they
are the nodes stored before and not after; none, or the consumed node and
then each next one the parent of the one before, up to a node that stays;
the ancestors among them were consumed already, without locks or system
reservation; no node is left under a removed one or names one as its root;
at most one is unspecified; a cut goes alone; and the consumed node, if it
stays, is consumed and may have children. -/
structure RemovesPath (s s' : TreeState E K M) (key : K) (c : List K) : Prop where
  removed : ∀ k, (s.nodes.lookup k ≠ none ∧ s'.nodes.lookup k = none) ↔ k ∈ c
  head : c = [] ∨ c.head? = some key
  chain : c.IsChain fun a b => ∃ n, s.nodes.lookup a = some n ∧ n.parent = some b
  ancestors : ∀ a ∈ c.tail, ∃ n, s.nodes.lookup a = some n ∧ n.isConsumed = true ∧
    n.lock.total = 0 ∧ n.systemReserve.getD 0 = 0
  childless : ∀ a ∈ c, ∀ k n, s'.nodes.lookup k = some n → n.parent ≠ some a
  root_last : ∀ a ∈ c, ∀ k n, s'.nodes.lookup k = some n → n.rootId ≠ some a
  one_unspecified : ∀ a ∈ c, ∀ b ∈ c,
    (s.nodes.lookup a).map GasNode.kind = some .unspecifiedLocal →
      (s.nodes.lookup b).map GasNode.kind = some .unspecifiedLocal → a = b
  cut_alone : ∀ a ∈ c, (s.nodes.lookup a).map GasNode.kind = some .cut → c = [a]
  last_parent : ∀ a ∈ c.getLast?, ∀ n p, s.nodes.lookup a = some n → n.parent = some p →
    s'.nodes.lookup p ≠ none
  survivor : ∀ n, s'.nodes.lookup key = some n →
    n.isConsumed = true ∧ (n.kind = .external ∨ n.kind = .reserved ∨ n.kind = .specifiedLocal)

variable (bmax : ℕ) {s s' : TreeState E K M}

/-- Up ranked parent pointers ranks fall: the last node of a walk has the
least rank. -/
theorem rank_getLast_le {r : K → ℕ} (hr : Ranked r s) {c : List K}
    (hc : c.IsChain fun a b => ∃ n, s.nodes.lookup a = some n ∧ n.parent = some b) :
    ∀ a ∈ c.getLast?, ∀ x ∈ c, r a ≤ r x := by
  induction hc with
  | nil => simp
  | singleton y =>
    intro a ha x hx
    simp only [List.getLast?_singleton, Option.mem_def, Option.some.injEq] at ha
    rw [List.mem_singleton] at hx
    rw [← ha, hx]
  | @cons_cons y z rest hyz _ ih =>
    intro a ha x hx
    rw [List.getLast?_cons_cons] at ha
    rcases List.mem_cons.mp hx with rfl | hx
    · -- the parent's rank is below the child's
      obtain ⟨n, hn, hp⟩ := hyz
      exact (ih a ha z List.mem_cons_self).trans (hr x n z hn hp).le
    · exact ih a ha x hx

/-- Only the consumed node of a removed path may be of a kind that cannot be a
parent. -/
theorem eq_key_of_not_canParent {key a : K} {rest : List K} (hcp : ConsumedParents s rest)
    (ha : a ∈ key :: rest) {kd : GasNode.Kind} (hkd : kd.canParent = false)
    (hka : (s.nodes.lookup a).map GasNode.kind = some kd) : a = key := by
  rcases List.mem_cons.mp ha with rfl | ha
  · rfl
  · obtain ⟨n, hn, -, hcan⟩ := hcp a ha
    rw [hn, Option.map_some, Option.some.injEq] at hka
    rw [hka, hkd] at hcan
    cases hcan

/-- On a storage satisfying `TreeInv`, a successful consume removes a path as
the property tests check it. -/
theorem consume_removesPath (hI : TreeInv s) {key : K} {out : ConsumeOutput E M}
    (h : consume bmax s key = (.ok out, s')) : ∃ c, RemovesPath s s' key c := by
  have hI' : TreeInv s' := by
    have := consume_treeInv bmax hI key
    rwa [h] at this
  obtain ⟨node, hk, ⟨hsame, n', hk', hcons, hcan⟩ | ⟨rest, hrc, hcp, hroot⟩⟩ :=
    consume_removes bmax h
  · -- the node stays: nothing is removed
    refine ⟨[], ⟨fun k => ?_, .inl rfl, .nil, by simp, by simp, by simp, by simp, by simp,
      by simp, fun n hn => ?_⟩⟩
    · rw [hsame k]
      simp
    · rw [hk', Option.some.injEq] at hn
      subst hn
      exact ⟨hcons, GasNode.Kind.eq_of_canParent hcan⟩
  · -- the node and a walk up from it
    have hstored : ∀ a ∈ key :: rest, s.nodes.lookup a ≠ none := by
      intro a ha
      rcases List.mem_cons.mp ha with rfl | ha
      · simp [hk]
      · obtain ⟨n, hn, -⟩ := hcp a ha
        simp [hn]
    have hgone : ∀ a ∈ key :: rest, s'.nodes.lookup a = none :=
      fun a ha => (hrc.removed a).mpr (.inr ha)
    refine ⟨key :: rest, ⟨hrc.lookup_ne_none hstored, .inr rfl, hrc.chain, fun a ha => ?_,
      fun a ha k n hkn hp => ?_, fun a ha k n hkn hrt => ?_, fun a ha b hb hua hub => ?_,
      fun a ha hca => ?_, fun a ha n p hn hp => ?_, fun n hn => ?_⟩⟩
    · -- consumed before, so settled: no locks, no system reservation
      obtain ⟨n, hn, hc, -⟩ := hcp a ha
      obtain ⟨-, hl, hsr, -⟩ := hI.settled a n hn hc
      exact ⟨n, hn, hc, hl, hsr⟩
    · -- a parent is stored
      obtain ⟨pn, hpn, -⟩ := hI'.linked.parent_ok k n a hkn hp
      rw [hgone a ha] at hpn
      cases hpn
    · -- a root is stored
      obtain ⟨rn, hrn, -⟩ := hI'.linked.root_ok k n a hkn hrt
      rw [hgone a ha] at hrn
      cases hrn
    · rw [eq_key_of_not_canParent hcp ha rfl hua, eq_key_of_not_canParent hcp hb rfl hub]
    · -- a cut is the consumed node, and has no parent
      have hak := eq_key_of_not_canParent hcp ha rfl hca
      subst hak
      rw [hk, Option.map_some, Option.some.injEq] at hca
      rw [hroot (GasNode.parent_eq_none_of_kind (by rw [hca]; decide))]
    · -- the walk stops below a stored node: its rank is below every removed one
      obtain ⟨r, hr⟩ := hI.linked.ranked
      obtain ⟨pn, hpn, -⟩ := hI.linked.parent_ok a n p hn hp
      have hlow : ∀ x ∈ key :: rest, r p < r x := fun x hx =>
        (hr a n p hn hp).trans_le (rank_getLast_le hr hrc.chain a ha x hx)
      intro hnone
      rcases (hrc.removed p).mp hnone with hs | hmem
      · rw [hpn] at hs
        cases hs
      · exact lt_irrefl _ (hlow p hmem)
    · rw [hgone key List.mem_cons_self] at hn
      cases hn

/-- Consume removes exactly a path: along every run from empty storage whose
children counters never saturate, a consume that succeeds removes nothing, or
the consumed node and a walk up its parent pointers, as the property tests
check. -/
theorem run_consume_removes_path (ops : List (Op E K M))
    (hfit : ∀ n, ChildCountsFit (run bmax .empty (ops.take n))) {key : K}
    {out : ConsumeOutput E M} (h : consume bmax (run bmax .empty ops) key = (.ok out, s')) :
    ∃ c, RemovesPath (run bmax .empty ops) s' key c :=
  consume_removesPath bmax (run_treeInv bmax ops StateInv.empty.tree hfit) h

/-- A root of 10 with a specified child of 4, the root consumed: consuming the
child removes the child and the root. -/
theorem consume_last_child_removes_root :
    ∃ c, RemovesPath
      (run 100 (.empty : TreeState Unit ℕ Unit) [.create () () 0 10, .splitWithValue 0 1 4, .consume 0])
      (consume 100 (run 100 .empty [.create () () 0 10, .splitWithValue 0 1 4, .consume 0]) 1).2
      1 c :=
  run_consume_removes_path 100 _ (fits_of_take_size 100 _ (by decide)) (Prod.ext rfl rfl)

/-- Past `u32::MAX` children a consume removes a root whose child stays: in
the saturation run the last consume removes the root `0`, and the child `2`
keeps it as its parent. -/
theorem consume_orphans_past_u32 :
    ∃ (ops : List (Op Unit ℕ Unit)) (out : ConsumeOutput Unit Unit) (s' : TreeState Unit ℕ Unit),
      consume u64Max (run u64Max .empty ops) 1 = (.ok out, s') ∧
        ¬ ∃ c, RemovesPath (run u64Max .empty ops) s' 1 c := by
  have hu := unlocked_run
  refine ⟨_, _, _, consume_after_unlock hu, ?_⟩
  generalize run u64Max (.empty : TreeState Unit ℕ Unit) _ = s at hu ⊢
  rintro ⟨c, hc⟩
  -- the root was stored and is gone
  have h0 : 0 ∈ c := by
    refine (hc.removed 0).mp ⟨by rw [hu.root]; exact Option.some_ne_none _, ?_⟩
    rw [mutateTotal_nodes, lookup_removeNode_self]
  have h2 : ((((s.insertNode 0 (GasNode.external () () 5 .zero 0 ⟨1, 0⟩ true
      false : GasNode Unit ℕ Unit).decreaseSpecRefs).removeNode 1).removeNode 0).mutateTotal
        (some 5)).nodes.lookup 2 = some (.unspecifiedLocal 0 0
          ((NodeLock.zero.set .mailbox 5).set .mailbox 0) 0) := by
    rw [mutateTotal_nodes, lookup_removeNode_ne _ (by decide), lookup_removeNode_ne _ (by decide),
      lookup_insertNode_ne _ _ (by decide)]
    exact hu.child
  exact hc.childless 0 h0 2 _ h2 rfl

end Gear.GasTree
