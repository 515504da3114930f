import Gear.GasTree.Internal

/-!
# The gas-tree invariant

`TreeImpl` relies on an invariant of the stored nodes that its own docs state
in prose (`property_tests` module docs, invariants 1–13). It is stated here as
three bundles:

> `Linked`: every local node's parent is stored and is an `External`,
> `SpecifiedLocal` or `Reserved` node, the local node's `root` is its parent's
> root (or the parent itself when the parent is a root), and parent pointers
> are ranked: some `r : K → ℕ` strictly decreases from child to parent, so
> every parent chain is finite;
> `Counted`: `spec_refs` and `unspec_refs` of every node are exactly the
> numbers of its stored specified and unspecified children;
> `Settled`: a consumed node is kept only with children, without locks and
> system reservation, and without value unless an unspecified child still
> relies on it.

This file proves what the three give on their own: the root of every local
node is a stored `External` or `Reserved` node (`Linked.root_ok`), children
counts change only where a node is inserted or removed (`children_*`), and
the rank potential `rankBelow` that bounds every parent-chain walk by the
number of stored nodes (`rankBelow_parent_lt`).

`valueSum` is the value the stored nodes hold — value, locks and system
reservation — which `total_supply` must equal.
-/

namespace Gear.GasTree

namespace GasNode.Kind

/-- The kinds a parent may have — the test of `node_with_value`. -/
def canParent : Kind → Bool
  | .external | .specifiedLocal | .reserved => true
  | _ => false

end GasNode.Kind

variable {E K M : Type} [DecidableEq K]

open TreeState

/-! ## Frame lemmas for storage writes -/

namespace TreeState

@[simp] theorem lookup_insertNode_self (s : TreeState E K M) (k : K) (n : GasNode E K M) :
    (s.insertNode k n).nodes.lookup k = some n := by
  simp [insertNode, AList.lookup_insert]

theorem lookup_insertNode_ne (s : TreeState E K M) {k k' : K} (n : GasNode E K M) (h : k' ≠ k) :
    (s.insertNode k n).nodes.lookup k' = s.nodes.lookup k' := by
  simp [insertNode, AList.lookup_insert_ne h]

@[simp] theorem lookup_removeNode_self (s : TreeState E K M) (k : K) :
    (s.removeNode k).nodes.lookup k = none := by
  simp [removeNode]

theorem lookup_removeNode_ne (s : TreeState E K M) {k k' : K} (h : k' ≠ k) :
    (s.removeNode k).nodes.lookup k' = s.nodes.lookup k' := by
  simp [removeNode, AList.lookup_erase_ne h]

/-- The number of stored nodes. -/
def size (s : TreeState E K M) : ℕ := s.nodes.entries.length

theorem size_insertNode_of_lookup {s : TreeState E K M} {k : K} {n n' : GasNode E K M}
    (h : s.nodes.lookup k = some n) : (s.insertNode k n').size = s.size := by
  unfold size
  rw [← AList.sumBy_one, ← AList.sumBy_one]
  exact AList.sumBy_insert_of_eq h rfl

theorem size_removeNode_of_lookup {s : TreeState E K M} {k : K} {n : GasNode E K M}
    (h : s.nodes.lookup k = some n) : (s.removeNode k).size + 1 = s.size := by
  unfold size
  rw [← AList.sumBy_one, ← AList.sumBy_one, AList.sumBy_erase_add _ h]
  rfl

theorem size_pos_of_lookup {s : TreeState E K M} {k : K} {n : GasNode E K M}
    (h : s.nodes.lookup k = some n) : 0 < s.size := by
  have := size_removeNode_of_lookup h
  omega

end TreeState

/-! ## Children counts and the value sum -/

/-- Weight `1` when `n` is a child of kind `kd` of `p`. -/
def childWeight (kd : GasNode.Kind) (p : K) (n : GasNode E K M) : ℕ :=
  if n.kind = kd ∧ n.parent = some p then 1 else 0

/-- The number of stored children of kind `kd` of `p`. -/
def children (kd : GasNode.Kind) (s : TreeState E K M) (p : K) : ℕ :=
  s.nodes.sumBy fun _ n => childWeight kd p n

/-- The value the stored nodes hold: values, locks and system reservations. -/
def valueSum (s : TreeState E K M) : ℕ :=
  s.nodes.sumBy fun _ n => n.totalValue

namespace GasNode

variable {n : GasNode E K M}

omit [DecidableEq K] in
/-- Writing a value moves the node's total by the change of its value. -/
theorem totalValue_withValue {v : ℕ} (hv : n.value = some v) (w : ℕ) :
    (n.withValue w).totalValue + v = n.totalValue + w := by
  unfold totalValue
  rw [value_withValue, lock_withValue, systemReserve_withValue, hv]
  simp only [Option.map_some, Option.getD_some]
  omega

omit [DecidableEq K] in
@[simp] theorem totalValue_adjustRefs (i sp : Bool) :
    (n.adjustRefs i sp).totalValue = n.totalValue := by
  simp [totalValue]

omit [DecidableEq K] in
@[simp] theorem totalValue_markConsumed : n.markConsumed.totalValue = n.totalValue := by
  simp [totalValue]

end GasNode

section Counts

variable {s : TreeState E K M} {k : K} {n n' : GasNode E K M} (kd : GasNode.Kind) (p : K)

/-- Overwriting a node by one of the same kind and parent keeps every count. -/
theorem children_insertNode_same (h : s.nodes.lookup k = some n) (hk : n'.kind = n.kind)
    (hp : n'.parent = n.parent) : children kd (s.insertNode k n') p = children kd s p := by
  unfold children
  rw [insertNode_nodes]
  apply AList.sumBy_insert_of_eq h
  simp only [childWeight, hk, hp]

theorem children_insertNode_fresh (h : s.nodes.lookup k = none) :
    children kd (s.insertNode k n') p = children kd s p + childWeight kd p n' := by
  unfold children
  rw [insertNode_nodes]
  exact AList.sumBy_insert_of_lookup_eq_none h n'

theorem children_removeNode (h : s.nodes.lookup k = some n) :
    children kd (s.removeNode k) p + childWeight kd p n = children kd s p := by
  unfold children
  rw [removeNode_nodes, AList.sumBy_erase_add _ h]

theorem childWeight_le_children (h : s.nodes.lookup k = some n) :
    childWeight kd p n ≤ children kd s p :=
  AList.le_sumBy (fun _ n => childWeight kd p n) h

theorem valueSum_insertNode (h : s.nodes.lookup k = some n) :
    valueSum (s.insertNode k n') + n.totalValue = valueSum s + n'.totalValue := by
  unfold valueSum
  rw [insertNode_nodes]
  exact AList.sumBy_insert_add h

theorem valueSum_insertNode_fresh (h : s.nodes.lookup k = none) :
    valueSum (s.insertNode k n') = valueSum s + n'.totalValue := by
  unfold valueSum
  rw [insertNode_nodes]
  exact AList.sumBy_insert_of_lookup_eq_none h n'

theorem valueSum_removeNode (h : s.nodes.lookup k = some n) :
    valueSum (s.removeNode k) + n.totalValue = valueSum s := by
  unfold valueSum
  rw [removeNode_nodes, AList.sumBy_erase_add _ h]

theorem totalValue_le_valueSum (h : s.nodes.lookup k = some n) : n.totalValue ≤ valueSum s :=
  AList.le_sumBy (fun _ n => n.totalValue) h

/-- Two distinct stored nodes hold at most the value sum together. -/
theorem totalValue_add_le_valueSum {k' : K} (h : s.nodes.lookup k = some n)
    (h' : s.nodes.lookup k' = some n') (hne : k ≠ k') :
    n.totalValue + n'.totalValue ≤ valueSum s :=
  AList.add_le_sumBy (fun _ n => n.totalValue) h h' hne

end Counts

omit [DecidableEq K] in
@[simp] theorem valueSum_mutateTotal (s : TreeState E K M) (r : Option ℕ) :
    valueSum (s.mutateTotal r) = valueSum s := rfl

@[simp] theorem children_mutateTotal (kd : GasNode.Kind) (s : TreeState E K M) (r : Option ℕ)
    (p : K) : children kd (s.mutateTotal r) p = children kd s p := rfl

/-! ## The invariant -/

/-- `r` strictly decreases from every stored local node to its parent. -/
def Ranked (r : K → ℕ) (s : TreeState E K M) : Prop :=
  ∀ k n p, s.nodes.lookup k = some n → n.parent = some p → r p < r k

/-- Parent pointers: a local node's parent is stored, may be a parent, and
hands its root down; the pointers are ranked, so no chain is cyclic. -/
structure Linked (s : TreeState E K M) : Prop where
  parent_ok : ∀ k n p, s.nodes.lookup k = some n → n.parent = some p →
    ∃ pn, s.nodes.lookup p = some pn ∧ pn.kind.canParent = true ∧
      n.rootId = some (pn.rootId.getD p)
  ranked : ∃ r : K → ℕ, Ranked r s

/-- The children counters are exact. -/
structure Counted (s : TreeState E K M) : Prop where
  spec : ∀ k n, s.nodes.lookup k = some n → n.specRefs = children .specifiedLocal s k
  unspec : ∀ k n, s.nodes.lookup k = some n → n.unspecRefs = children .unspecifiedLocal s k

/-- A consumed node stays stored only with children, without locks or system
reservation, and holds value only while unspecified children rely on it
(`property_tests` invariants 7, 8 and 12). -/
def GasNode.Settled (n : GasNode E K M) : Prop :=
  n.isConsumed = true →
    0 < n.refs ∧ n.lock.total = 0 ∧ n.systemReserve.getD 0 = 0 ∧
      (n.unspecRefs = 0 → n.value.getD 0 = 0)

namespace GasNode.Settled

variable {n : GasNode E K M}

omit [DecidableEq K] in
/-- A node keeps `Settled` under any value while a consumed node has
unspecified children. -/
theorem withValue_of_unspec (h : n.Settled) (hu : n.isConsumed = true → n.unspecRefs ≠ 0)
    (w : ℕ) : (n.withValue w).Settled := by
  intro hc
  rw [GasNode.isConsumed_withValue] at hc
  obtain ⟨hr, hl, hs, -⟩ := h hc
  refine ⟨by rw [GasNode.refs_withValue]; exact hr, by rw [GasNode.lock_withValue]; exact hl,
    by rw [GasNode.systemReserve_withValue]; exact hs, fun h0 => ?_⟩
  rw [GasNode.unspecRefs_withValue] at h0
  exact absurd h0 (hu hc)

omit [DecidableEq K] in
/-- Lowering a node's value keeps `Settled`. -/
theorem withValue_le (h : n.Settled) {v w : ℕ} (hv : n.value = some v) (hw : w ≤ v) :
    (n.withValue w).Settled := by
  intro hc
  rw [GasNode.isConsumed_withValue] at hc
  obtain ⟨hr, hl, hs, hz⟩ := h hc
  refine ⟨by rw [GasNode.refs_withValue]; exact hr, by rw [GasNode.lock_withValue]; exact hl,
    by rw [GasNode.systemReserve_withValue]; exact hs, fun h0 => ?_⟩
  rw [GasNode.unspecRefs_withValue] at h0
  have hz' := hz h0
  rw [hv, Option.getD_some] at hz'
  rw [GasNode.value_withValue, hv, Option.map_some, Option.getD_some]
  omega

end GasNode.Settled

/-- The gas-tree invariant. -/
structure TreeInv (s : TreeState E K M) : Prop where
  linked : Linked s
  counted : Counted s
  settled : ∀ k n, s.nodes.lookup k = some n → n.Settled

/-- The invariant reads the nodes only. -/
theorem TreeInv.mutateTotal {s : TreeState E K M} (h : TreeInv s) (t : Option ℕ) :
    TreeInv (s.mutateTotal t) :=
  ⟨⟨h.linked.parent_ok, h.linked.ranked⟩, ⟨h.counted.spec, h.counted.unspec⟩, h.settled⟩

/-- The invariant of the whole storage: the tree invariant, and a total equal
to the value the nodes hold. -/
structure StateInv (s : TreeState E K M) : Prop where
  tree : TreeInv s
  supply : s.totalSupply = valueSum s

/-- The errors an operation reports about its arguments: a key that is
missing or taken, a consumed or forbidden node, too little value, locks or a
system reservation left at consumption, an overflowing total. -/
def GasTreeError.isUserError : GasTreeError → Bool
  | .nodeAlreadyExists | .nodeNotFound | .nodeWasConsumed | .insufficientBalance | .forbidden
  | .consumedWithLock | .consumedWithSystemReservation | .totalValueIsOverflowed => true
  | _ => false

/-- What an operation on `s` may return: a user error, with the storage left
as it was, or a result `a` with a storage `s'` such that `P a s'`. -/
def Outcome {α : Type} (s : TreeState E K M) (P : α → TreeState E K M → Prop) :
    Except GasTreeError α × TreeState E K M → Prop
  | (.error e, s') => e.isUserError = true ∧ s' = s
  | (.ok a, s') => P a s'

omit [DecidableEq K] in
theorem Outcome.of_error {α : Type} {s : TreeState E K M} {P : α → TreeState E K M → Prop}
    {r : Except GasTreeError α × TreeState E K M} {e : GasTreeError} (h : r = (.error e, s))
    (he : e.isUserError = true) : Outcome s P r := by
  rw [h]
  exact ⟨he, rfl⟩

omit [DecidableEq K] in
theorem Outcome.of_ok {α : Type} {s s' : TreeState E K M} {P : α → TreeState E K M → Prop}
    {r : Except GasTreeError α × TreeState E K M} {a : α} (h : r = (.ok a, s')) (hp : P a s') :
    Outcome s P r := by
  rw [h]
  exact hp

omit [DecidableEq K] in
theorem Outcome.mono {α : Type} {s : TreeState E K M} {P Q : α → TreeState E K M → Prop}
    {r : Except GasTreeError α × TreeState E K M} (h : Outcome s P r)
    (hPQ : ∀ a s', P a s' → Q a s') : Outcome s Q r := by
  rcases r with ⟨_ | a, s'⟩
  · exact h
  · exact hPQ a s' h

/-- What the operations that only move value inside the tree achieve: the
tree invariant, the total untouched and, while the value sum fits the
balance type, the value sum too. -/
def Keeps {α : Type} (bmax : ℕ) (s : TreeState E K M) (_ : α) (s' : TreeState E K M) : Prop :=
  TreeInv s' ∧ s'.total = s.total ∧ (valueSum s ≤ bmax → valueSum s' = valueSum s)

/-- No node has more than `u32::MAX` children of one kind, so no children
counter ever saturates. -/
def ChildCountsFit (s : TreeState E K M) : Prop :=
  ∀ p, children .specifiedLocal s p ≤ u32Max ∧ children .unspecifiedLocal s p ≤ u32Max

/-! ## Roots -/

omit [DecidableEq K] in
theorem GasNode.kind_external_or_reserved {n : GasNode E K M} (hc : n.kind.canParent = true)
    (hr : n.rootId = none) : n.kind = .external ∨ n.kind = .reserved := by
  cases n <;> simp_all [GasNode.kind, GasNode.Kind.canParent, GasNode.rootId]

/-- The root named by a local node is stored and is an `External` or
`Reserved` node: induction on the rank along the parent chain. -/
theorem Linked.root_ok {s : TreeState E K M} (hL : Linked s) :
    ∀ k n rt, s.nodes.lookup k = some n → n.rootId = some rt →
      ∃ rn, s.nodes.lookup rt = some rn ∧ (rn.kind = .external ∨ rn.kind = .reserved) := by
  obtain ⟨r, hr⟩ := hL.ranked
  intro k
  induction h : r k using Nat.strong_induction_on generalizing k with
  | _ d ih =>
    intro n rt hk hrt
    -- a node with a root is local, so it has a parent
    obtain ⟨p, hp⟩ : ∃ p, n.parent = some p := by
      cases n <;> simp_all [GasNode.rootId, GasNode.parent]
    obtain ⟨pn, hpn, hcan, hroot⟩ := hL.parent_ok k n p hk hp
    rw [hrt] at hroot
    cases hpr : pn.rootId with
    | none =>
      rw [hpr, Option.getD_none, Option.some.injEq] at hroot
      subst hroot
      exact ⟨pn, hpn, GasNode.kind_external_or_reserved hcan hpr⟩
    | some rt' =>
      rw [hpr, Option.getD_some, Option.some.injEq] at hroot
      subst hroot
      exact ih (r p) (h ▸ hr k n p hk hp) p rfl pn rt hpn hpr

/-- `k` reaches the root `rt` by parent pointers: `rt` is a stored node
without a parent, and `k` is `rt` or has a parent that reaches it. -/
inductive ReachesRoot (s : TreeState E K M) : K → K → Prop
  | root {k : K} {n : GasNode E K M} :
      s.nodes.lookup k = some n → n.parent = none → ReachesRoot s k k
  | parent {k p rt : K} {n : GasNode E K M} :
      s.nodes.lookup k = some n → n.parent = some p → ReachesRoot s p rt → ReachesRoot s k rt

/-- The root a local node names is the end of its parent chain: the same
induction on the rank as `Linked.root_ok`. -/
theorem Linked.reaches_root {s : TreeState E K M} (hL : Linked s) :
    ∀ k n rt, s.nodes.lookup k = some n → n.rootId = some rt → ReachesRoot s k rt := by
  obtain ⟨r, hr⟩ := hL.ranked
  intro k
  induction h : r k using Nat.strong_induction_on generalizing k with
  | _ d ih =>
    intro n rt hk hrt
    obtain ⟨p, hp⟩ : ∃ p, n.parent = some p := by
      cases n <;> simp_all [GasNode.rootId, GasNode.parent]
    obtain ⟨pn, hpn, hcan, hroot⟩ := hL.parent_ok k n p hk hp
    rw [hrt] at hroot
    cases hpr : pn.rootId with
    | none =>
      -- the parent is the root: an `External` or `Reserved` node has no parent
      rw [hpr, Option.getD_none, Option.some.injEq] at hroot
      subst hroot
      have hpp : pn.parent = none := by
        rcases GasNode.kind_external_or_reserved hcan hpr with hkd | hkd <;>
          cases pn <;> simp_all [GasNode.kind, GasNode.parent]
      exact .parent hk hp (.root hpn hpp)
    | some rt' =>
      rw [hpr, Option.getD_some, Option.some.injEq] at hroot
      subst hroot
      exact .parent hk hp (ih (r p) (h ▸ hr k n p hk hp) p rfl pn rt hpn hpr)

/-- A node of a kind that may not have children (`Cut`, `UnspecifiedLocal`)
is nobody's parent. -/
theorem Linked.no_children {s : TreeState E K M} (hL : Linked s) {k : K} {n : GasNode E K M}
    (hk : s.nodes.lookup k = some n) (hcan : n.kind.canParent = false) :
    ∀ j m, s.nodes.lookup j = some m → m.parent ≠ some k := by
  intro j m hj hp
  obtain ⟨pn, hpn, hcan', -⟩ := hL.parent_ok j m k hj hp
  rw [hk, Option.some.injEq] at hpn
  subst hpn
  rw [hcan] at hcan'
  cases hcan'

/-! ## The rank potential

A walk up the parent chain from `k` visits keys of strictly smaller rank, and
only stored ones; `rankBelow r s k` counts the stored keys of rank at most
`r k`, so it bounds the length of the walk and is at most the number of
stored nodes. -/

/-- The number of stored keys whose rank is at most that of `k`. -/
def rankBelow (r : K → ℕ) (s : TreeState E K M) (k : K) : ℕ :=
  s.nodes.sumBy fun k' _ => if r k' ≤ r k then 1 else 0

theorem rankBelow_le_size (r : K → ℕ) (s : TreeState E K M) (k : K) :
    rankBelow r s k ≤ s.size := by
  unfold rankBelow TreeState.size
  rw [← AList.sumBy_one]
  apply AList.sumBy_le_sumBy
  intro a _ _
  split <;> omega

/-- Stepping to a parent of smaller rank lowers the potential: the stored
child is counted at the child and not at the parent. -/
theorem rankBelow_parent_lt (r : K → ℕ) {s : TreeState E K M} {k p : K} {n : GasNode E K M}
    (hk : s.nodes.lookup k = some n) (hlt : r p < r k) :
    rankBelow r s p < rankBelow r s k := by
  unfold rankBelow
  rw [AList.sumBy_erase_add _ hk, AList.sumBy_erase_add _ hk]
  have hmono : (s.nodes.erase k).sumBy (fun k' _ => if r k' ≤ r p then 1 else 0) ≤
      (s.nodes.erase k).sumBy (fun k' _ => if r k' ≤ r k then 1 else 0) := by
    apply AList.sumBy_le_sumBy
    intro a _ _
    split <;> split <;> omega
  simp only [show ¬ r k ≤ r p by omega, if_false, le_refl, if_true]
  omega

theorem rankBelow_pos (r : K → ℕ) {s : TreeState E K M} {k : K} {n : GasNode E K M}
    (hk : s.nodes.lookup k = some n) : 0 < rankBelow r s k := by
  unfold rankBelow
  rw [AList.sumBy_erase_add _ hk]
  simp

/-- Overwriting a stored node keeps the potential. -/
theorem rankBelow_insertNode (r : K → ℕ) {s : TreeState E K M} {k : K} {n n' : GasNode E K M}
    (hk : s.nodes.lookup k = some n) (j : K) :
    rankBelow r (s.insertNode k n') j = rankBelow r s j := by
  unfold rankBelow
  rw [insertNode_nodes]
  exact AList.sumBy_insert_of_eq hk rfl

/-- Removing a node does not raise the potential. -/
theorem rankBelow_removeNode_le (r : K → ℕ) {s : TreeState E K M} {k : K} {n : GasNode E K M}
    (hk : s.nodes.lookup k = some n) (j : K) :
    rankBelow r (s.removeNode k) j ≤ rankBelow r s j := by
  unfold rankBelow
  rw [removeNode_nodes, AList.sumBy_erase_add _ hk]
  omega

end Gear.GasTree
