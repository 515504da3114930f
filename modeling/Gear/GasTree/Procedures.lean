import Gear.GasTree.Invariant

/-!
# What the internal procedures do on a linked tree

One inversion lemma per internal procedure of `TreeImpl`, so that the proofs
about the operations cite these and never unfold a procedure:

* `nodeWithValue_unspec` — an unspecified node's provider is its stored
  parent, which may be a parent;
* `getOriginNode_ok` — every stored node has an origin (the `unreachable!`
  branches and the `NodeNotFound` of the root lookup never fire);
* `decreaseParentsRef_local` — a stored local node's parent counts it, so the
  decrement never underflows and never fails;
* `findPatronLoop_ok` — the patron walk ends within the rank potential, with
  either no patron (and then the first node is not one) or a stored patron
  reachable through specified nodes (`PatronAbove`);
* `catchValue_*` — the three outcomes of `catch_value`.

The procedures are called on a node held in memory, which may differ from the
stored one in its payload (`mark_consumed`, a lowered lock); the lemmas only
ask that its kind and parent are those of a stored node.
-/

namespace Gear.GasTree

variable {E K M : Type}

namespace GasNode

variable {n : GasNode E K M}

theorem isPatron_false_of_kind (h : n.kind = .cut ∨ n.kind = .unspecifiedLocal) :
    n.isPatron = false := by
  cases n <;> simp_all [kind, isPatron]

theorem value_isSome_of_kind (h : n.kind ≠ .unspecifiedLocal) : ∃ v, n.value = some v := by
  cases n <;> simp_all [kind, value]

theorem exists_parent_of_kind (h : n.kind = .specifiedLocal ∨ n.kind = .unspecifiedLocal) :
    ∃ p, n.parent = some p := by
  cases n <;> simp_all [kind, parent]

theorem parent_eq_none_of_kind (h : n.kind ≠ .specifiedLocal ∧ n.kind ≠ .unspecifiedLocal) :
    n.parent = none := by
  cases n <;> simp_all [kind, parent]

theorem kind_local_of_parent {p : K} (h : n.parent = some p) :
    n.kind = .specifiedLocal ∨ n.kind = .unspecifiedLocal := by
  cases n <;> simp_all [kind, parent]

/-- What a walk up a patron chain reads of a node. -/
def chainView (n : GasNode E K M) : Kind × Option K × Bool := (n.kind, n.parent, n.isPatron)

theorem kind_of_chainView {n' : GasNode E K M} (h : n'.chainView = n.chainView) :
    n'.kind = n.kind := congrArg Prod.fst h

theorem parent_of_chainView {n' : GasNode E K M} (h : n'.chainView = n.chainView) :
    n'.parent = n.parent := congrArg (fun v => v.2.1) h

theorem isPatron_of_chainView {n' : GasNode E K M} (h : n'.chainView = n.chainView) :
    n'.isPatron = n.isPatron := congrArg (fun v => v.2.2) h

/-- A node that may be a parent is a patron unless it is consumed and has no
unspecified children. -/
theorem isPatron_eq_false_iff (h : n.kind.canParent = true) :
    n.isPatron = false ↔ n.isConsumed = true ∧ n.unspecRefs = 0 := by
  cases n <;> simp_all [kind, Kind.canParent, isPatron, isConsumed, unspecRefs]

theorem unspecRefs_ne_zero_of_isPatron (hp : n.isPatron = true) (hc : n.isConsumed = true) :
    n.unspecRefs ≠ 0 := by
  cases n <;> simp_all [isPatron, isConsumed, unspecRefs]

end GasNode

variable [DecidableEq K]

open TreeState

/-- Some patron is reachable from `k` by parent steps through specified
nodes: the shape in which `find_ancestor_patron` finds one. -/
inductive PatronAbove (s : TreeState E K M) : K → Prop
  | here {k : K} {n : GasNode E K M} : s.nodes.lookup k = some n → n.isPatron = true →
      PatronAbove s k
  | up {k p : K} {n : GasNode E K M} : s.nodes.lookup k = some n → n.kind = .specifiedLocal →
      n.parent = some p → PatronAbove s p → PatronAbove s k

/-- Inversion at a stored node: it is a patron, or a specified node with a
patron above its parent. -/
theorem PatronAbove.cases_lookup {s : TreeState E K M} {k : K} {n : GasNode E K M}
    (h : PatronAbove s k) (hk : s.nodes.lookup k = some n) :
    n.isPatron = true ∨ (n.kind = .specifiedLocal ∧ ∃ p, n.parent = some p ∧ PatronAbove s p) := by
  cases h with
  | here hk' hpat =>
    rw [hk, Option.some.injEq] at hk'
    subst hk'
    exact Or.inl hpat
  | up hk' hsp hp habove =>
    rw [hk, Option.some.injEq] at hk'
    subst hk'
    exact Or.inr ⟨hsp, _, hp, habove⟩

namespace TreeImpl

variable {s : TreeState E K M} {k : K} {n₀ n : GasNode E K M}

/-! ## `node_with_value` and `get_origin_node` -/

theorem nodeWithValue_of_kind_ne (h : n.kind ≠ .unspecifiedLocal) :
    nodeWithValue s n = .ok (n, none) := by
  cases n <;> simp_all [nodeWithValue, GasNode.kind]

/-- The value provider of an unspecified node is its stored parent. -/
theorem nodeWithValue_unspec (hL : Linked s) (hk : s.nodes.lookup k = some n₀)
    (hpar : n.parent = n₀.parent) (hu : n.kind = .unspecifiedLocal) :
    ∃ p pn, n.parent = some p ∧ s.nodes.lookup p = some pn ∧ pn.kind.canParent = true ∧
      nodeWithValue s n = .ok (pn, some p) := by
  obtain ⟨p, hp⟩ := GasNode.exists_parent_of_kind (Or.inr hu)
  obtain ⟨pn, hpn, hcan, -⟩ := hL.parent_ok k n₀ p hk (hpar ▸ hp)
  refine ⟨p, pn, hp, hpn, hcan, ?_⟩
  have htest : (pn.isExternal || pn.isSpecifiedLocal || pn.isReserved) = true := by
    cases pn <;> simp_all [GasNode.Kind.canParent, GasNode.kind, GasNode.isExternal,
      GasNode.isSpecifiedLocal, GasNode.isReserved]
  cases n with
  | unspecifiedLocal parent root l sr =>
    simp only [GasNode.parent, Option.some.injEq] at hp
    subst hp
    simp only [nodeWithValue, hpn, htest, if_true]
  | _ => simp [GasNode.kind] at hu

/-- The value provider of a node whose kind and parent are those of a stored
node: the node itself, or for an unspecified node its stored parent. -/
theorem nodeWithValue_stored (hL : Linked s) (hk : s.nodes.lookup k = some n₀)
    (hpar : n.parent = n₀.parent) :
    (n.kind ≠ .unspecifiedLocal ∧ nodeWithValue s n = .ok (n, none)) ∨
    (∃ p pn, n.kind = .unspecifiedLocal ∧ n.parent = some p ∧ s.nodes.lookup p = some pn ∧
      pn.kind.canParent = true ∧ nodeWithValue s n = .ok (pn, some p)) := by
  by_cases hu : n.kind = .unspecifiedLocal
  · obtain ⟨p, pn, hp, hpn, hcan, heq⟩ := nodeWithValue_unspec hL hk hpar hu
    exact Or.inr ⟨p, pn, hu, hp, hpn, hcan, heq⟩
  · exact Or.inl ⟨hu, nodeWithValue_of_kind_ne hu⟩

/-- The provider of a stored node is stored, under the key `node_with_value`
reports or the node's own, and may be a parent unless it is a cut: the
node itself, or the parent of an unspecified node. -/
theorem provider_stored (hL : Linked s) (hk : s.nodes.lookup k = some n) :
    ∃ pn pid, nodeWithValue s n = .ok (pn, pid) ∧ s.nodes.lookup (pid.getD k) = some pn ∧
      (pn.isCut = false → pn.kind.canParent = true) ∧
      ((pid = none ∧ pn = n) ∨
        (∃ p, pid = some p ∧ n.parent = some p ∧ n.kind = .unspecifiedLocal)) := by
  rcases nodeWithValue_stored hL hk rfl with ⟨hu, heq⟩ | ⟨p, pn, hu, hp, hpn, hcan, heq⟩
  · refine ⟨n, none, heq, hk, fun hc => ?_, Or.inl ⟨rfl, rfl⟩⟩
    cases n <;> simp_all [GasNode.kind, GasNode.Kind.canParent, GasNode.isCut]
  · exact ⟨pn, some p, heq, hpn, fun _ => hcan, Or.inr ⟨p, rfl, hp, hu⟩⟩

/-- Every stored node has an origin: a root carries it, and a local node's root
is a stored `External` or `Reserved` node (`Linked.root_ok`). -/
theorem getOriginNode_ok (hL : Linked s) (hk : s.nodes.lookup k = some n) :
    ∃ o m rt, getOriginNode s k = .ok (o, m, rt) := by
  cases hx : n.externalData with
  | some om => exact ⟨om.1, om.2, k, by simp [getOriginNode, hk, hx]⟩
  | none =>
    obtain ⟨rt, hrt⟩ : ∃ rt, n.rootId = some rt := by
      cases n <;> simp_all [GasNode.externalData, GasNode.rootId]
    obtain ⟨rn, hrn, hkind⟩ := hL.root_ok k n rt hk hrt
    obtain ⟨o, m, hrx⟩ : ∃ o m, rn.externalData = some (o, m) := by
      rcases hkind with h | h <;> cases rn <;> simp_all [GasNode.kind, GasNode.externalData]
    exact ⟨o, m, rt, by simp [getOriginNode, hk, hx, hrt, hrn, hrx]⟩

/-! ## `decrease_parents_ref` -/

theorem decreaseParentsRef_root (h : n.parent = none) : decreaseParentsRef s n = .ok s := by
  simp [decreaseParentsRef, h]

/-- A stored local node is counted by its parent, so the decrement is taken. -/
theorem decreaseParentsRef_local (hL : Linked s) (hC : Counted s)
    (hk : s.nodes.lookup k = some n₀) (hkind : n.kind = n₀.kind) (hpar : n.parent = n₀.parent)
    {p : K} (hp : n.parent = some p) :
    ∃ pn, s.nodes.lookup p = some pn ∧ pn.kind.canParent = true ∧
      decreaseParentsRef s n = .ok (s.insertNode p
        (if n.kind = .specifiedLocal then pn.decreaseSpecRefs else pn.decreaseUnspecRefs)) := by
  obtain ⟨pn, hpn, hcan, -⟩ := hL.parent_ok k n₀ p hk (hpar ▸ hp)
  refine ⟨pn, hpn, hcan, ?_⟩
  -- the node itself is one of the children the parent counts
  have hone : 0 < pn.specRefs + pn.unspecRefs := by
    rw [hC.spec p pn hpn, hC.unspec p pn hpn]
    have h1 := childWeight_le_children .specifiedLocal p hk
    have h2 := childWeight_le_children .unspecifiedLocal p hk
    have hp0 : n₀.parent = some p := hpar ▸ hp
    unfold childWeight at h1 h2
    rcases GasNode.kind_local_of_parent hp0 with h | h
    · rw [if_pos ⟨h, hp0⟩] at h1
      omega
    · rw [if_pos ⟨h, hp0⟩] at h2
      omega
  have hrefs : pn.refs ≠ 0 := by
    unfold GasNode.refs u32Max
    omega
  cases n with
  | specifiedLocal parent root v l sr r c =>
    simp only [GasNode.parent, Option.some.injEq] at hp
    subst hp
    simp [decreaseParentsRef, GasNode.parent, hpn, hrefs, GasNode.kind]
  | unspecifiedLocal parent root l sr =>
    simp only [GasNode.parent, Option.some.injEq] at hp
    subst hp
    simp [decreaseParentsRef, GasNode.parent, hpn, hrefs, GasNode.kind]
  | _ => simp [GasNode.parent] at hp

/-- `decrease_parents_ref` writes nodes only. -/
theorem decreaseParentsRef_total {s' : TreeState E K M} (h : decreaseParentsRef s n = .ok s') :
    s'.total = s.total := by
  unfold decreaseParentsRef at h
  split at h
  · cases h
    rfl
  · split at h
    · cases h
    · split at h
      · cases h
      · split at h <;> cases h <;> rfl

/-! ## `find_ancestor_patron` -/

section Walk

variable {r : K → ℕ}

/-- The patron walk from a stored node that may be a parent ends within the
rank potential: induction on the fuel, the potential dropping at each step.
It finds no patron exactly when none is reachable. -/
theorem findPatronLoop_ok (hL : Linked s) (hr : Ranked r s) :
    ∀ fuel id node, s.nodes.lookup id = some node → node.kind.canParent = true →
      rankBelow r s id ≤ fuel →
      (¬ PatronAbove s id ∧ findPatronLoop s fuel id node = .ok none) ∨
      (∃ pn pid, s.nodes.lookup pid = some pn ∧ pn.isPatron = true ∧ PatronAbove s id ∧
        r pid ≤ r id ∧ findPatronLoop s fuel id node = .ok (some (pn, pid)))
  | 0, id, node, hid, _, hf => absurd hf (by have := rankBelow_pos r hid; omega)
  | fuel + 1, id, node, hid, hcan, hf => by
    by_cases hpat : node.isPatron = true
    · right
      exact ⟨node, id, hid, hpat, .here hid hpat, le_rfl, by simp [findPatronLoop, hpat]⟩
    · rw [Bool.not_eq_true] at hpat
      -- a non-patron root ends the walk: nothing above it
      have hroot : node.kind ≠ .specifiedLocal → ¬ PatronAbove s id := by
        intro hsp habove
        rcases habove.cases_lookup hid with h | ⟨h, -⟩
        · rw [hpat] at h
          exact Bool.false_ne_true h
        · exact hsp h
      cases node with
      | external =>
        left
        exact ⟨hroot (by simp [GasNode.kind]), by simp [findPatronLoop, hpat]⟩
      | reserved =>
        left
        exact ⟨hroot (by simp [GasNode.kind]), by simp [findPatronLoop, hpat]⟩
      | specifiedLocal parent root v l sr refs c =>
        -- a specified non-patron: the walk goes on from its parent
        obtain ⟨pn, hpn, hpcan, -⟩ := hL.parent_ok id _ parent hid rfl
        have hlt := rankBelow_parent_lt r hid (hr id _ parent hid rfl)
        rcases findPatronLoop_ok hL hr fuel parent pn hpn hpcan (by omega) with
          ⟨hnone, heq⟩ | ⟨qn, qid, hq, hqp, habove, hqr, heq⟩
        · left
          refine ⟨fun habove => ?_, by simp [findPatronLoop, hpat, hpn, heq]⟩
          rcases habove.cases_lookup hid with h | ⟨-, p, hp, hp'⟩
          · rw [hpat] at h
            exact Bool.false_ne_true h
          · simp only [GasNode.parent, Option.some.injEq] at hp
            subst hp
            exact hnone hp'
        · right
          have hrq : r qid < r id := lt_of_le_of_lt hqr (hr id _ parent hid rfl)
          exact ⟨qn, qid, hq, hqp, .up hid rfl rfl habove, hrq.le,
            by simp [findPatronLoop, hpat, hpn, heq]⟩
      | cut => simp [GasNode.kind, GasNode.Kind.canParent] at hcan
      | unspecifiedLocal => simp [GasNode.kind, GasNode.Kind.canParent] at hcan

/-- `find_ancestor_patron` of a specified node, from its stored parent. -/
theorem findAncestorPatron_spec (hL : Linked s) (hr : Ranked r s)
    (hk : s.nodes.lookup k = some n₀) (hpar : n.parent = n₀.parent)
    (hsp : n.kind = .specifiedLocal) :
    ∃ p pn, n.parent = some p ∧ s.nodes.lookup p = some pn ∧
      ((¬ PatronAbove s p ∧ findAncestorPatron s n = .ok none) ∨
       (∃ qn qid, s.nodes.lookup qid = some qn ∧ qn.isPatron = true ∧ PatronAbove s p ∧
          r qid ≤ r p ∧ findAncestorPatron s n = .ok (some (qn, qid)))) := by
  obtain ⟨p, hp⟩ := GasNode.exists_parent_of_kind (Or.inl hsp)
  obtain ⟨pn, hpn, hcan, -⟩ := hL.parent_ok k n₀ p hk (hpar ▸ hp)
  refine ⟨p, pn, hp, hpn, ?_⟩
  have hfuel : rankBelow r s p ≤ s.nodes.entries.length := rankBelow_le_size r s p
  cases n with
  | specifiedLocal parent root v l sr refs c =>
    simp only [GasNode.parent, Option.some.injEq] at hp
    subst hp
    rcases findPatronLoop_ok hL hr _ parent pn hpn hcan hfuel with
      ⟨hnp, heq⟩ | ⟨qn, qid, hq, hqp, habove, hqr, heq⟩
    · exact Or.inl ⟨hnp, by simp [findAncestorPatron, hpn, heq]⟩
    · exact Or.inr ⟨qn, qid, hq, hqp, habove, hqr, by simp [findAncestorPatron, hpn, heq]⟩
  | _ => simp [GasNode.kind] at hsp

end Walk

/-! ## `catch_value` -/

variable (bmax : ℕ)

theorem catchValue_blocked (h : n.isPatron = true ∨ n.kind = .unspecifiedLocal) :
    catchValue bmax s n = .ok (.blocked, n, s) := by
  rcases h with h | h
  · simp [catchValue, h]
  · cases n <;> simp_all [catchValue, GasNode.kind, GasNode.isPatron, GasNode.isUnspecifiedLocal]

/-- A non-patron root's value is caught. -/
theorem catchValue_root (hp : n.isPatron = false)
    (hroot : n.kind = .external ∨ n.kind = .cut ∨ n.kind = .reserved) {v : ℕ}
    (hv : n.value = some v) : catchValue bmax s n = .ok (.caught v, n.withValue 0, s) := by
  rcases hroot with h | h | h <;> cases n <;>
    simp_all [catchValue, GasNode.kind, GasNode.isUnspecifiedLocal, findAncestorPatron]

/-- A non-patron specified node's value is caught when no patron is above it,
and otherwise moved to the first patron above it. -/
theorem catchValue_specified (hL : Linked s) {r : K → ℕ} (hr : Ranked r s)
    (hk : s.nodes.lookup k = some n₀) (hpar : n.parent = n₀.parent)
    (hsp : n.kind = .specifiedLocal) (hpat : n.isPatron = false) {v : ℕ}
    (hv : n.value = some v) :
    ∃ p pn, n.parent = some p ∧ s.nodes.lookup p = some pn ∧
      ((¬ PatronAbove s p ∧ catchValue bmax s n = .ok (.caught v, n.withValue 0, s)) ∨
       (∃ qn qid, s.nodes.lookup qid = some qn ∧ qn.isPatron = true ∧ PatronAbove s p ∧
          r qid ≤ r p ∧ catchValue bmax s n = .ok (.missed, n.withValue 0,
            if v = 0 then s
            else s.insertNode qid (qn.withValue (saturatingAdd bmax (qn.value.getD 0) v))))) := by
  obtain ⟨p, pn, hp, hpn, hfind⟩ := findAncestorPatron_spec hL hr hk hpar hsp
  have hnu : n.isUnspecifiedLocal = false := by
    cases n <;> simp_all [GasNode.kind, GasNode.isUnspecifiedLocal]
  refine ⟨p, pn, hp, hpn, ?_⟩
  rcases hfind with ⟨hnp, heq⟩ | ⟨qn, qid, hq, hqp, habove, hqr, heq⟩
  · exact Or.inl ⟨hnp, by simp [catchValue, hpat, hnu, heq, hv]⟩
  · right
    refine ⟨qn, qid, hq, hqp, habove, hqr, ?_⟩
    have hqu : qn.kind ≠ .unspecifiedLocal := by
      intro hu
      rw [GasNode.isPatron_false_of_kind (Or.inr hu)] at hqp
      exact Bool.false_ne_true hqp
    obtain ⟨qv, hqv⟩ := GasNode.value_isSome_of_kind hqu
    by_cases hv0 : v = 0
    · subst hv0
      rw [GasNode.withValue_of_value n hv]
      simp [catchValue, hpat, hnu, heq, hv]
    · simp [catchValue, hpat, hnu, heq, hv, hv0, hqv]

/-- `catch_value` writes nodes only. -/
theorem catchValue_total {co : CatchValueOutput} {n' : GasNode E K M} {s' : TreeState E K M}
    (h : catchValue bmax s n = .ok (co, n', s')) : s'.total = s.total := by
  unfold catchValue at h
  split at h
  · cases h
    rfl
  · split at h
    · split at h
      · cases h
      · split at h
        · cases h
        · split at h
          · cases h
            rfl
          · split at h
            · cases h
            · cases h
              rfl
      · split at h
        · cases h
        · cases h
          rfl
    · cases h
      rfl

end TreeImpl

end Gear.GasTree
