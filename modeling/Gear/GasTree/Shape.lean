import Gear.GasTree.Procedures

/-!
# Four storage writes that keep the tree linked and counted

Every successful operation of `TreeImpl` is a sequence of four kinds of
storage write, and this file proves once, for each kind, that `Linked` and
`Counted` survive it:

* `payload` — a stored node is overwritten by one of the same kind, parent,
  root and counters (a new value, lock, system reservation or consumed flag);
* `addChild` — a fresh local node is inserted under a stored parent that may
  be a parent, and the parent's counter of that kind goes up by one;
* `addRoot` — a fresh root is inserted;
* `removeLeaf` — a stored node without children is removed and, if local,
  its parent's counter of its kind goes down by one.

The counters are exact only while they do not saturate: `addChild` asks that
the parent had fewer than `u32::MAX` children of that kind. Patron
reachability (`PatronAbove`) is carried through payload writes and leaf
removals below a chain by `PatronAbove.mono`.
-/

namespace Gear.GasTree

variable {E K M : Type} [DecidableEq K]

open TreeState

section Writes

variable {s : TreeState E K M}

/-! ## Payload writes -/

/-- A node of the same kind, parent and root as the stored one. -/
def SameShape (n' n : GasNode E K M) : Prop :=
  n'.kind = n.kind ∧ n'.parent = n.parent ∧ n'.rootId = n.rootId

theorem Linked.payload (hL : Linked s) {k : K} {n n' : GasNode E K M}
    (hk : s.nodes.lookup k = some n) (hsh : SameShape n' n) : Linked (s.insertNode k n') := by
  obtain ⟨hkind, hpar, hroot⟩ := hsh
  -- every lookup after the write agrees with one before it on kind, parent and root
  have hlook : ∀ j m, (s.insertNode k n').nodes.lookup j = some m →
      ∃ m₀, s.nodes.lookup j = some m₀ ∧ SameShape m m₀ := by
    intro j m hj
    by_cases hjk : j = k
    · subst hjk
      rw [lookup_insertNode_self, Option.some.injEq] at hj
      subst hj
      exact ⟨n, hk, hkind, hpar, hroot⟩
    · rw [lookup_insertNode_ne _ _ hjk] at hj
      exact ⟨m, hj, rfl, rfl, rfl⟩
  have hlook' : ∀ j m₀, s.nodes.lookup j = some m₀ →
      ∃ m, (s.insertNode k n').nodes.lookup j = some m ∧ SameShape m m₀ := by
    intro j m₀ hj
    by_cases hjk : j = k
    · subst hjk
      rw [hk, Option.some.injEq] at hj
      subst hj
      exact ⟨n', lookup_insertNode_self _ _ _, hkind, hpar, hroot⟩
    · exact ⟨m₀, by rw [lookup_insertNode_ne _ _ hjk]; exact hj, rfl, rfl, rfl⟩
  obtain ⟨r, hr⟩ := hL.ranked
  constructor
  · intro j m p hj hp
    obtain ⟨m₀, hj₀, hmk, hmp, hmr⟩ := hlook j m hj
    obtain ⟨pn₀, hp₀, hcan, hrt⟩ := hL.parent_ok j m₀ p hj₀ (hmp ▸ hp)
    obtain ⟨pn, hpn, hpk, -, hpr⟩ := hlook' p pn₀ hp₀
    exact ⟨pn, hpn, hpk ▸ hcan, by rw [hmr, hpr]; exact hrt⟩
  · refine ⟨r, fun j m p hj hp => ?_⟩
    obtain ⟨m₀, hj₀, -, hmp, -⟩ := hlook j m hj
    exact hr j m₀ p hj₀ (hmp ▸ hp)

theorem Counted.payload (hC : Counted s) {k : K} {n n' : GasNode E K M}
    (hk : s.nodes.lookup k = some n) (hsh : SameShape n' n) (hspec : n'.specRefs = n.specRefs)
    (hunspec : n'.unspecRefs = n.unspecRefs) : Counted (s.insertNode k n') := by
  obtain ⟨hkind, hpar, -⟩ := hsh
  constructor
  · intro j m hj
    rw [children_insertNode_same _ _ hk hkind hpar]
    by_cases hjk : j = k
    · subst hjk
      rw [lookup_insertNode_self, Option.some.injEq] at hj
      subst hj
      rw [hspec]
      exact hC.spec j n hk
    · rw [lookup_insertNode_ne _ _ hjk] at hj
      exact hC.spec j m hj
  · intro j m hj
    rw [children_insertNode_same _ _ hk hkind hpar]
    by_cases hjk : j = k
    · subst hjk
      rw [lookup_insertNode_self, Option.some.injEq] at hj
      subst hj
      rw [hunspec]
      exact hC.unspec j n hk
    · rw [lookup_insertNode_ne _ _ hjk] at hj
      exact hC.unspec j m hj

/-! ## Children of fresh and childless keys -/

theorem childWeight_eq_zero {kd : GasNode.Kind} {p : K} {n : GasNode E K M}
    (h : n.parent ≠ some p) : childWeight kd p n = 0 := by
  unfold childWeight
  rw [if_neg (fun hc => h hc.2)]

/-- A key that is not stored has no children: parents are stored. -/
theorem Linked.children_fresh (hL : Linked s) {c : K} (hc : s.nodes.lookup c = none)
    (kd : GasNode.Kind) : children kd s c = 0 := by
  have hle : children kd s c ≤ s.nodes.sumBy (fun _ _ => 0) := by
    apply AList.sumBy_le_sumBy
    intro j n hj
    refine Nat.le_of_eq (childWeight_eq_zero fun hp => ?_)
    obtain ⟨pn, hpn, -⟩ := hL.parent_ok j n c hj hp
    rw [hc] at hpn
    cases hpn
  have hz : s.nodes.sumBy (fun _ (_ : GasNode E K M) => 0) = 0 := by
    simp [AList.sumBy]
  omega

/-- A node counted as having no children of either kind is nobody's parent. -/
theorem parent_ne_of_children_zero {c : K} (hs : children .specifiedLocal s c = 0)
    (hu : children .unspecifiedLocal s c = 0) :
    ∀ j n, s.nodes.lookup j = some n → n.parent ≠ some c := by
  intro j n hj hp
  have h1 := childWeight_le_children .specifiedLocal c hj
  have h2 := childWeight_le_children .unspecifiedLocal c hj
  unfold childWeight at h1 h2
  rcases GasNode.kind_local_of_parent hp with h | h
  · rw [if_pos ⟨h, hp⟩] at h1
    omega
  · rw [if_pos ⟨h, hp⟩] at h2
    omega

/-! ## A fresh child -/

/-- Inserting a fresh local child under a stored parent, whose counter of the
child's kind goes up by one. -/
theorem addChild_inv (hL : Linked s) (hC : Counted s) {c p : K} {pn pn' m : GasNode E K M}
    (hc : s.nodes.lookup c = none) (hp : s.nodes.lookup p = some pn)
    (hcan : pn.kind.canParent = true) (hmp : m.parent = some p)
    (hmr : m.rootId = some (pn.rootId.getD p)) (hms : m.specRefs = 0) (hmu : m.unspecRefs = 0)
    (hsh : SameShape pn' pn)
    (hps : pn'.specRefs = pn.specRefs + childWeight .specifiedLocal p m)
    (hpu : pn'.unspecRefs = pn.unspecRefs + childWeight .unspecifiedLocal p m) :
    Linked ((s.insertNode c m).insertNode p pn') ∧
      Counted ((s.insertNode c m).insertNode p pn') := by
  have hcp : c ≠ p := by
    rintro rfl
    rw [hc] at hp
    cases hp
  obtain ⟨hpk, hpp, hpr⟩ := hsh
  -- the lookups of the new storage
  have hlook : ∀ j, ((s.insertNode c m).insertNode p pn').nodes.lookup j =
      if j = p then some pn' else if j = c then some m else s.nodes.lookup j := by
    intro j
    by_cases hjp : j = p
    · subst hjp
      simp
    · rw [lookup_insertNode_ne _ _ hjp, if_neg hjp]
      by_cases hjc : j = c
      · subst hjc
        simp
      · rw [lookup_insertNode_ne _ _ hjc, if_neg hjc]
  -- every old parent is stored, so it is not `c`
  have hold : ∀ j n q, s.nodes.lookup j = some n → n.parent = some q → q ≠ c := by
    intro j n q hj hq hqc
    rw [hqc] at hq
    obtain ⟨pn, hpn, -⟩ := hL.parent_ok j n c hj hq
    rw [hc] at hpn
    cases hpn
  obtain ⟨r, hr⟩ := hL.ranked
  refine ⟨⟨?_, ?_⟩, ⟨?_, ?_⟩⟩
  · intro j n q hj hq
    rw [hlook] at hj
    split_ifs at hj with hjp hjc
    · -- the parent keeps its own parent, which is an old stored node
      cases hj
      obtain ⟨qn, hqn, hqc, hqr⟩ := hL.parent_ok p pn q hp (hpp ▸ hq)
      have hqc' : q ≠ c := hold p pn q hp (hpp ▸ hq)
      by_cases hqp : q = p
      · subst hqp
        exact absurd (hr _ _ _ hp (hpp ▸ hq)) (lt_irrefl _)
      · refine ⟨qn, by rw [hlook, if_neg hqp, if_neg hqc']; exact hqn, hqc, ?_⟩
        rw [hpr]
        exact hqr
    · -- the new child points at the parent
      cases hj
      rw [hmp, Option.some.injEq] at hq
      subst hq
      exact ⟨pn', by rw [hlook, if_pos rfl], hpk ▸ hcan, by rw [hmr, hpr]⟩
    · obtain ⟨qn, hqn, hqc, hqr⟩ := hL.parent_ok j n q hj hq
      have hqc' : q ≠ c := hold j n q hj hq
      by_cases hqp : q = p
      · subst hqp
        rw [hp, Option.some.injEq] at hqn
        subst hqn
        exact ⟨pn', by rw [hlook, if_pos rfl], hpk ▸ hqc, by rw [hpr]; exact hqr⟩
      · exact ⟨qn, by rw [hlook, if_neg hqp, if_neg hqc']; exact hqn, hqc, hqr⟩
  · -- the new child ranks just above its parent
    refine ⟨fun j => if j = c then r p + 1 else r j, fun j n q hj hq => ?_⟩
    rw [hlook] at hj
    split_ifs at hj with hjp hjc
    · cases hj
      have hqc' : q ≠ c := hold p pn q hp (hpp ▸ hq)
      simp only [hjp, hcp.symm, hqc', if_false]
      exact hr p pn q hp (hpp ▸ hq)
    · cases hj
      rw [hmp, Option.some.injEq] at hq
      subst hq
      dsimp only
      rw [if_pos hjc, if_neg hcp.symm]
      exact Nat.lt_succ_self _
    · have hqc' : q ≠ c := hold j n q hj hq
      simp only [hjc, hqc', if_false]
      exact hr j n q hj hq
  all_goals
    intro j n hj
    rw [children_insertNode_same _ _ (by rw [lookup_insertNode_ne _ _ hcp.symm]; exact hp) hpk hpp,
      children_insertNode_fresh _ _ hc]
    rw [hlook] at hj
    split_ifs at hj with hjp hjc
    · cases hj
      subst hjp
      first
        | (rw [hps, hC.spec _ _ hp])
        | (rw [hpu, hC.unspec _ _ hp])
    · cases hj
      subst hjc
      rw [childWeight_eq_zero (by rw [hmp]; exact fun h => hcp (Option.some.inj h).symm),
        hL.children_fresh hc]
      first | exact hms | exact hmu
    · rw [childWeight_eq_zero (by rw [hmp]; exact fun h => hjp (Option.some.inj h).symm),
        Nat.add_zero]
      first | exact hC.spec j n hj | exact hC.unspec j n hj

/-! ## A fresh root -/

theorem addRoot_inv (hL : Linked s) (hC : Counted s) {c : K} {m : GasNode E K M}
    (hc : s.nodes.lookup c = none) (hmp : m.parent = none) (hms : m.specRefs = 0)
    (hmu : m.unspecRefs = 0) : Linked (s.insertNode c m) ∧ Counted (s.insertNode c m) := by
  have hlook : ∀ j, (s.insertNode c m).nodes.lookup j =
      if j = c then some m else s.nodes.lookup j := by
    intro j
    by_cases hjc : j = c
    · subst hjc
      simp
    · rw [lookup_insertNode_ne _ _ hjc, if_neg hjc]
  have hold : ∀ j n q, s.nodes.lookup j = some n → n.parent = some q → q ≠ c := by
    intro j n q hj hq hqc
    rw [hqc] at hq
    obtain ⟨pn, hpn, -⟩ := hL.parent_ok j n c hj hq
    rw [hc] at hpn
    cases hpn
  obtain ⟨r, hr⟩ := hL.ranked
  refine ⟨⟨?_, ⟨r, ?_⟩⟩, ⟨?_, ?_⟩⟩
  · intro j n q hj hq
    rw [hlook] at hj
    split_ifs at hj with hjc
    · cases hj
      rw [hmp] at hq
      cases hq
    · obtain ⟨qn, hqn, hqc, hqr⟩ := hL.parent_ok j n q hj hq
      exact ⟨qn, by rw [hlook, if_neg (hold j n q hj hq)]; exact hqn, hqc, hqr⟩
  · intro j n q hj hq
    rw [hlook] at hj
    split_ifs at hj with hjc
    · cases hj
      rw [hmp] at hq
      cases hq
    · exact hr j n q hj hq
  all_goals
    intro j n hj
    rw [children_insertNode_fresh _ _ hc, childWeight_eq_zero (by rw [hmp]; simp),
      Nat.add_zero]
    rw [hlook] at hj
    split_ifs at hj with hjc
    · cases hj
      subst hjc
      rw [hL.children_fresh hc]
      first | exact hms | exact hmu
    · first | exact hC.spec j n hj | exact hC.unspec j n hj

/-! ## Removing a leaf -/

/-- Removing a childless root. -/
theorem removeRoot_inv (hL : Linked s) (hC : Counted s) {c : K} {cn : GasNode E K M}
    (hc : s.nodes.lookup c = some cn) (hcp : cn.parent = none)
    (hs : children .specifiedLocal s c = 0) (hu : children .unspecifiedLocal s c = 0) :
    Linked (s.removeNode c) ∧ Counted (s.removeNode c) := by
  have hnot := parent_ne_of_children_zero hs hu
  have hlook : ∀ j, (s.removeNode c).nodes.lookup j =
      if j = c then none else s.nodes.lookup j := by
    intro j
    by_cases hjc : j = c
    · subst hjc
      simp
    · rw [lookup_removeNode_ne _ hjc, if_neg hjc]
  obtain ⟨r, hr⟩ := hL.ranked
  refine ⟨⟨?_, ⟨r, ?_⟩⟩, ⟨?_, ?_⟩⟩
  · intro j n q hj hq
    rw [hlook] at hj
    split_ifs at hj with hjc
    obtain ⟨qn, hqn, hqc, hqr⟩ := hL.parent_ok j n q hj hq
    have hqc' : q ≠ c := by
      intro hqc
      rw [hqc] at hq
      exact hnot j n hj hq
    exact ⟨qn, by rw [hlook, if_neg hqc']; exact hqn, hqc, hqr⟩
  · intro j n q hj hq
    rw [hlook] at hj
    split_ifs at hj with hjc
    exact hr j n q hj hq
  all_goals
    intro j n hj
    rw [hlook] at hj
    split_ifs at hj with hjc
    -- a root is nobody's child, so no counter changes
    have hw : ∀ kd, children kd (s.removeNode c) j = children kd s j := by
      intro kd
      have hrem := children_removeNode kd j hc
      rw [childWeight_eq_zero (by rw [hcp]; simp), Nat.add_zero] at hrem
      exact hrem
    rw [hw]
    first | exact hC.spec j n hj | exact hC.unspec j n hj

/-- Removing a childless local node after its parent's counter went down. -/
theorem removeChild_inv (hL : Linked s) (hC : Counted s) {c p : K} {cn pn pn' : GasNode E K M}
    (hc : s.nodes.lookup c = some cn) (hcp : cn.parent = some p) (hp : s.nodes.lookup p = some pn)
    (hs : children .specifiedLocal s c = 0) (hu : children .unspecifiedLocal s c = 0)
    (hsh : SameShape pn' pn)
    (hps : pn'.specRefs + childWeight .specifiedLocal p cn = pn.specRefs)
    (hpu : pn'.unspecRefs + childWeight .unspecifiedLocal p cn = pn.unspecRefs) :
    Linked ((s.insertNode p pn').removeNode c) ∧ Counted ((s.insertNode p pn').removeNode c) := by
  have hpc : p ≠ c := by
    intro hpc
    rw [hpc] at hcp
    exact parent_ne_of_children_zero hs hu c cn hc hcp
  have hnot := parent_ne_of_children_zero hs hu
  obtain ⟨hpk, hpp, hpr⟩ := hsh
  have hlook : ∀ j, ((s.insertNode p pn').removeNode c).nodes.lookup j =
      if j = c then none else if j = p then some pn' else s.nodes.lookup j := by
    intro j
    by_cases hjc : j = c
    · subst hjc
      simp
    · rw [lookup_removeNode_ne _ hjc, if_neg hjc]
      by_cases hjp : j = p
      · subst hjp
        simp
      · rw [lookup_insertNode_ne _ _ hjp, if_neg hjp]
  -- the parent of a stored node is never the removed leaf
  have hqc : ∀ j n q, s.nodes.lookup j = some n → n.parent = some q → q ≠ c := by
    intro j n q hj hq hqc
    rw [hqc] at hq
    exact hnot j n hj hq
  obtain ⟨r, hr⟩ := hL.ranked
  refine ⟨⟨?_, ⟨r, ?_⟩⟩, ⟨?_, ?_⟩⟩
  · intro j n q hj hq
    rw [hlook] at hj
    split_ifs at hj with hjc hjp
    · -- the parent keeps its own parent
      cases hj
      obtain ⟨qn, hqn, hcan, hqr⟩ := hL.parent_ok p pn q hp (hpp ▸ hq)
      have hqp : q ≠ p := by
        rintro rfl
        exact absurd (hr _ _ _ hp (hpp ▸ hq)) (lt_irrefl _)
      refine ⟨qn, ?_, hcan, ?_⟩
      · rw [hlook, if_neg (hqc p pn q hp (hpp ▸ hq)), if_neg hqp]
        exact hqn
      · rw [hpr]
        exact hqr
    · obtain ⟨qn, hqn, hcan, hqr⟩ := hL.parent_ok j n q hj hq
      by_cases hqp : q = p
      · subst hqp
        rw [hp, Option.some.injEq] at hqn
        subst hqn
        refine ⟨pn', ?_, hpk ▸ hcan, by rw [hpr]; exact hqr⟩
        rw [hlook, if_neg hpc, if_pos rfl]
      · refine ⟨qn, ?_, hcan, hqr⟩
        rw [hlook, if_neg (hqc j n q hj hq), if_neg hqp]
        exact hqn
  · intro j n q hj hq
    rw [hlook] at hj
    split_ifs at hj with hjc hjp
    · cases hj
      subst hjp
      exact hr _ pn q hp (hpp ▸ hq)
    · exact hr j n q hj hq
  all_goals
    intro j n hj
    have hcs : (s.insertNode p pn').nodes.lookup c = some cn := by
      rw [lookup_insertNode_ne _ _ (Ne.symm hpc)]
      exact hc
    -- only the parent's counters see the removed child
    have hw : ∀ kd, children kd ((s.insertNode p pn').removeNode c) j + childWeight kd j cn =
        children kd s j := by
      intro kd
      rw [children_removeNode kd j hcs, children_insertNode_same kd j hp hpk hpp]
    rw [hlook] at hj
    split_ifs at hj with hjc hjp
    · cases hj
      subst hjp
      have h1 := hw .specifiedLocal
      have h2 := hw .unspecifiedLocal
      have h3 := hC.spec _ _ hp
      have h4 := hC.unspec _ _ hp
      omega
    · have h0 : ∀ kd, childWeight kd j cn = 0 := fun kd =>
        childWeight_eq_zero (by rw [hcp]; exact fun h => hjp (Option.some.inj h).symm)
      have h1 := hw .specifiedLocal
      have h2 := hw .unspecifiedLocal
      have h3 := hC.spec _ _ hj
      have h4 := hC.unspec _ _ hj
      rw [h0] at h1 h2
      omega

/-! ## Ranks and patron chains across writes -/

/-- A storage whose nodes are stored in `s` with the same parents keeps every
rank function of `s`. -/
theorem Ranked.of_parents {r : K → ℕ} {s' : TreeState E K M} (hr : Ranked r s)
    (h : ∀ k n', s'.nodes.lookup k = some n' →
      ∃ n, s.nodes.lookup k = some n ∧ n'.parent = n.parent) :
    Ranked r s' := by
  intro k n' p hk hp
  obtain ⟨n, hn, hpar⟩ := h k n' hk
  exact hr k n p hn (hpar ▸ hp)

/-- `s` and `s'` agree on the keys of rank at most `R`, as far as a patron
chain reads them. -/
def AgreeBelow (r : K → ℕ) (R : ℕ) (s s' : TreeState E K M) : Prop :=
  ∀ k, r k ≤ R → (s.nodes.lookup k).map GasNode.chainView = (s'.nodes.lookup k).map GasNode.chainView

theorem AgreeBelow.symm {r : K → ℕ} {R : ℕ} {s' : TreeState E K M} (h : AgreeBelow r R s s') :
    AgreeBelow r R s' s := fun k hk => (h k hk).symm

theorem AgreeBelow.trans {r : K → ℕ} {R : ℕ} {s' s'' : TreeState E K M}
    (h : AgreeBelow r R s s') (h' : AgreeBelow r R s' s'') : AgreeBelow r R s s'' :=
  fun k hk => (h k hk).trans (h' k hk)

theorem AgreeBelow.lookup {r : K → ℕ} {R : ℕ} {s' : TreeState E K M} (h : AgreeBelow r R s s')
    {k : K} {n : GasNode E K M} (hk : r k ≤ R) (hn : s.nodes.lookup k = some n) :
    ∃ n', s'.nodes.lookup k = some n' ∧ n'.chainView = n.chainView := by
  have hmap := h k hk
  rw [hn, Option.map_some] at hmap
  cases hn' : s'.nodes.lookup k with
  | none =>
    rw [hn', Option.map_none] at hmap
    cases hmap
  | some n' =>
    rw [hn', Option.map_some, Option.some.injEq] at hmap
    exact ⟨n', rfl, hmap.symm⟩

/-- Overwriting a node by one with the same chain view. -/
theorem agreeBelow_insertNode (r : K → ℕ) (R : ℕ) {q : K} {qn qn' : GasNode E K M}
    (hq : s.nodes.lookup q = some qn) (hv : qn'.chainView = qn.chainView) :
    AgreeBelow r R s (s.insertNode q qn') := by
  intro k _
  by_cases hkq : k = q
  · subst hkq
    rw [hq, lookup_insertNode_self, Option.map_some, Option.map_some, hv]
  · rw [lookup_insertNode_ne _ _ hkq]

/-- Removing a node of rank above `R`. -/
theorem agreeBelow_removeNode {r : K → ℕ} {R : ℕ} {c : K} (hc : R < r c) :
    AgreeBelow r R s (s.removeNode c) := by
  intro k hk
  have hkc : k ≠ c := by
    intro he
    rw [he] at hk
    omega
  rw [lookup_removeNode_ne _ hkc]

/-- A patron chain climbs to smaller ranks, so it reads only keys of rank at
most that of its start: induction on the chain. -/
theorem PatronAbove.transfer {r : K → ℕ} {R : ℕ} {s' : TreeState E K M} (hr : Ranked r s)
    (hag : AgreeBelow r R s s') {k : K} (h : PatronAbove s k) (hk : r k ≤ R) :
    PatronAbove s' k := by
  induction h with
  | here hk' hpat =>
    obtain ⟨n', hn', hv⟩ := hag.lookup hk hk'
    exact .here hn' (by rw [GasNode.isPatron_of_chainView hv]; exact hpat)
  | up hk' hsp hp _ ih =>
    obtain ⟨n', hn', hv⟩ := hag.lookup hk hk'
    have hlt := hr _ _ _ hk' hp
    refine .up hn' ?_ ?_ (ih (by omega))
    · rw [GasNode.kind_of_chainView hv]
      exact hsp
    · rw [GasNode.parent_of_chainView hv]
      exact hp

end Writes

end Gear.GasTree
