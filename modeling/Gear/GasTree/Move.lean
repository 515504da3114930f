import Gear.GasTree.Split

/-!
# The operations that move value

`spend` takes value out of a node's provider and out of the total. `lock` and
`system_reserve` move value from the provider into a slot of the node — a lock
slot or the system reservation — and `unlock` and `system_unreserve` move it
back. The provider is the node itself, or for an unspecified node its parent
(`node_with_value`); in the second case both nodes are written.

None of these writes changes a node's kind, parent, root or counters: each is
a payload write (`PayloadOf`), which keeps `Linked` and `Counted` at once. What
remains is `Settled` of the written nodes and the value sum. The nodes that
gain value are either not consumed or a provider with unspecified children,
the one case in which a consumed node may hold value. The saturating additions
into a slot or a provider are exact while the value sum fits the balance type,
as two distinct nodes hold at most the value sum together (the
`two_balances_fit` argument); so each operation `Keeps` the storage, and
`spend` takes `amount` out of the nodes and the total together.
-/

namespace Gear.GasTree

variable {E K M : Type} [DecidableEq K]

open TreeState TreeImpl

/-! ## Slot writes -/

namespace GasNode

variable {n : GasNode E K M}

omit [DecidableEq K] in
theorem totalValue_withLock (l : NodeLock) :
    (n.withLock l).totalValue + n.lock.total = n.totalValue + l.total := by
  unfold totalValue
  rw [value_withLock, lock_withLock, systemReserve_withLock]
  omega

omit [DecidableEq K] in
theorem totalValue_withSystemReserve {sr : ℕ} (h : n.systemReserve = some sr) (x : ℕ) :
    (n.withSystemReserve x).totalValue + sr = n.totalValue + x := by
  unfold totalValue
  rw [value_withSystemReserve, lock_withSystemReserve, systemReserve_withSystemReserve, h]
  simp only [Option.map_some, Option.getD_some]
  omega

omit [DecidableEq K] in
/-- A system-reservable node has a system reservation slot. -/
theorem systemReserve_of_reservable (h : n.isSystemReservable = true) :
    ∃ sr, n.systemReserve = some sr := by
  unfold isSystemReservable at h
  exact Option.isSome_iff_exists.1 h

omit [DecidableEq K] in
theorem lock_get_le_totalValue (id : LockId) : n.lock.get id ≤ n.totalValue := by
  have h := n.lock.get_le_total id
  unfold totalValue
  omega

omit [DecidableEq K] in
theorem value_le_totalValue {v : ℕ} (h : n.value = some v) : v ≤ n.totalValue := by
  unfold totalValue
  rw [h, Option.getD_some]
  omega

omit [DecidableEq K] in
theorem systemReserve_le_totalValue {sr : ℕ} (h : n.systemReserve = some sr) :
    sr ≤ n.totalValue := by
  unfold totalValue
  rw [h, Option.getD_some]
  omega

end GasNode

/-- `n'` is `n` with another payload: the same kind, parent, root and
counters, and `Settled`. -/
structure PayloadOf (n' n : GasNode E K M) : Prop where
  shape : SameShape n' n
  spec : n'.specRefs = n.specRefs
  unspec : n'.unspecRefs = n.unspecRefs
  settled : n'.Settled

namespace PayloadOf

variable {n : GasNode E K M}

omit [DecidableEq K] in
/-- A lower value is a payload write of a `Settled` node. -/
theorem withValue_le (h : n.Settled) {v w : ℕ} (hv : n.value = some v) (hw : w ≤ v) :
    PayloadOf (n.withValue w) n :=
  ⟨⟨by simp, by simp, by simp⟩, by simp, by simp, h.withValue_le hv hw⟩

omit [DecidableEq K] in
/-- Any value is a payload write of a `Settled` node with unspecified
children. -/
theorem withValue_of_unspec (h : n.Settled) (hu : n.unspecRefs ≠ 0) (w : ℕ) :
    PayloadOf (n.withValue w) n :=
  ⟨⟨by simp, by simp, by simp⟩, by simp, by simp, h.withValue_of_unspec (fun _ => hu) w⟩

omit [DecidableEq K] in
/-- Any setter chain on a node that is not consumed. -/
theorem of_not_consumed {n' : GasNode E K M} (hsh : SameShape n' n)
    (hsp : n'.specRefs = n.specRefs) (hun : n'.unspecRefs = n.unspecRefs)
    (hc : n'.isConsumed = false) : PayloadOf n' n :=
  ⟨hsh, hsp, hun, GasNode.settled_of_not_consumed hc⟩

end PayloadOf

section Payload

variable {s : TreeState E K M}

/-- A payload write keeps `TreeInv`. -/
theorem TreeInv.payload (hI : TreeInv s) {k : K} {n n' : GasNode E K M}
    (hk : s.nodes.lookup k = some n) (h : PayloadOf n' n) : TreeInv (s.insertNode k n') := by
  refine ⟨hI.linked.payload hk h.shape, hI.counted.payload hk h.shape h.spec h.unspec,
    fun j m hj => ?_⟩
  by_cases hjk : j = k
  · subst hjk
    rw [lookup_insertNode_self, Option.some.injEq] at hj
    rw [← hj]
    exact h.settled
  · rw [lookup_insertNode_ne _ _ hjk] at hj
    exact hI.settled j m hj

/-- One payload write that keeps the node's total value. -/
theorem keeps_payload (bmax : ℕ) (hI : TreeInv s) {α : Type} (a : α) {k : K}
    {n n' : GasNode E K M} (hk : s.nodes.lookup k = some n) (h : PayloadOf n' n)
    (htv : valueSum s ≤ bmax → n'.totalValue = n.totalValue) :
    Keeps bmax s a (s.insertNode k n') := by
  refine ⟨hI.payload hk h, rfl, fun hb => ?_⟩
  have h1 : valueSum (s.insertNode k n') + n.totalValue = valueSum s + n'.totalValue :=
    valueSum_insertNode hk
  have h2 := htv hb
  omega

/-- Two payload writes at distinct keys that keep the two nodes' total value. -/
theorem keeps_payload2 (bmax : ℕ) (hI : TreeInv s) {α : Type} (a : α) {k₁ k₂ : K}
    {n₁ n₁' n₂ n₂' : GasNode E K M} (h₁ : s.nodes.lookup k₁ = some n₁)
    (h₂ : s.nodes.lookup k₂ = some n₂) (hne : k₁ ≠ k₂) (hp₁ : PayloadOf n₁' n₁)
    (hp₂ : PayloadOf n₂' n₂)
    (htv : valueSum s ≤ bmax → n₁'.totalValue + n₂'.totalValue = n₁.totalValue + n₂.totalValue) :
    Keeps bmax s a ((s.insertNode k₁ n₁').insertNode k₂ n₂') := by
  have h₂' : (s.insertNode k₁ n₁').nodes.lookup k₂ = some n₂ := by
    rw [lookup_insertNode_ne _ _ (Ne.symm hne)]
    exact h₂
  refine ⟨(hI.payload h₁ hp₁).payload h₂' hp₂, rfl, fun hb => ?_⟩
  have e1 : valueSum (s.insertNode k₁ n₁') + n₁.totalValue = valueSum s + n₁'.totalValue :=
    valueSum_insertNode h₁
  have e2 : valueSum ((s.insertNode k₁ n₁').insertNode k₂ n₂') + n₂.totalValue =
      valueSum (s.insertNode k₁ n₁') + n₂'.totalValue :=
    valueSum_insertNode h₂'
  have e3 := htv hb
  omega

theorem keeps_self (bmax : ℕ) (hI : TreeInv s) {α : Type} (a : α) : Keeps bmax s a s :=
  ⟨hI, rfl, fun _ => rfl⟩

end Payload

/-! ## The value provider -/

section Provider

variable {s : TreeState E K M} {k : K} {n₀ n : GasNode E K M}

/-- The provider of a node shaped like the stored node at `k`: the node
itself, holding a value, or the stored parent of an unspecified node, under
another key, holding a value and counting the node among its unspecified
children. -/
theorem provider_of_shape (hI : TreeInv s) (hk : s.nodes.lookup k = some n₀)
    (hkind : n.kind = n₀.kind) (hpar : n.parent = n₀.parent) :
    (nodeWithValue s n = .ok (n, none) ∧ ∃ v, n.value = some v) ∨
    (∃ p pn v, nodeWithValue s n = .ok (pn, some p) ∧ p ≠ k ∧ s.nodes.lookup p = some pn ∧
      pn.value = some v ∧ pn.unspecRefs ≠ 0) := by
  rcases nodeWithValue_stored hI.linked hk hpar with
    ⟨hu, heq⟩ | ⟨p, pn, hu, hp, hpn, hcan, heq⟩
  · exact Or.inl ⟨heq, GasNode.value_isSome_of_kind hu⟩
  · right
    have hkp : pn.kind ≠ .unspecifiedLocal := by
      intro h
      rw [h] at hcan
      cases hcan
    obtain ⟨v, hv⟩ := GasNode.value_isSome_of_kind hkp
    -- the parent ranks below the node, so it is another key
    obtain ⟨r, hr⟩ := hI.linked.ranked
    have hlt : r p < r k := hr k n₀ p hk (hpar ▸ hp)
    have hne : p ≠ k := by
      rintro rfl
      exact lt_irrefl _ hlt
    -- and it counts the stored node among its unspecified children
    have hw : childWeight .unspecifiedLocal p n₀ = 1 := by
      unfold childWeight
      rw [if_pos ⟨hkind ▸ hu, hpar ▸ hp⟩]
    have hle := childWeight_le_children .unspecifiedLocal p hk
    rw [hw, ← hI.counted.unspec p pn hpn] at hle
    exact ⟨p, pn, v, heq, hne, hpn, hv, by omega⟩

end Provider

/-! ## `spend` -/

section Spend

variable {s : TreeState E K M}

/-- The node write of `spend`, before the total: the provider less `amount`. -/
theorem spend_eq {key : K} {amount : ℕ} {n pn : GasNode E K M} {pid : Option K} {v : ℕ}
    (hk : s.nodes.lookup key = some n) (hnwv : nodeWithValue s n = .ok (pn, pid))
    (hv : pn.value = some v) (hle : amount ≤ v) :
    spend s key amount =
      match negativeApplyTo amount s.total with
      | some t => (.ok amount, (s.insertNode (pid.getD key) (pn.withValue (v - amount))).mutateTotal
          (some t))
      | none => (.error .totalValueIsUnderflowed,
          (s.insertNode (pid.getD key) (pn.withValue (v - amount))).mutateTotal none) := by
  have hlt : ¬ v < amount := Nat.not_lt.2 hle
  cases ht : negativeApplyTo amount s.total <;> simp [spend, hk, hnwv, hv, hlt, ht]

/-- `spend` fails on its checks without a write, or lowers the provider; the
nodes keep `TreeInv` either way, whatever the total does. -/
theorem spend_treeInv (hI : TreeInv s) (key : K) (amount : ℕ) :
    TreeInv (spend s key amount).2 := by
  cases hk : s.nodes.lookup key with
  | none =>
    have h : (spend s key amount).2 = s := by simp [spend, hk]
    rw [h]
    exact hI
  | some n =>
    obtain ⟨pn, pid, hnwv, hpn, -⟩ := provider_stored hI.linked hk
    cases hv : pn.value with
    | none =>
      have h : (spend s key amount).2 = s := by simp [spend, hk, hnwv, hv]
      rw [h]
      exact hI
    | some v =>
      by_cases hlt : v < amount
      · have h : (spend s key amount).2 = s := by simp [spend, hk, hnwv, hv, hlt]
        rw [h]
        exact hI
      have hI' := hI.payload hpn
        (PayloadOf.withValue_le (hI.settled _ pn hpn) hv (Nat.sub_le v amount))
      rw [spend_eq hk hnwv hv (Nat.le_of_not_lt hlt)]
      cases negativeApplyTo amount s.total with
      | none => exact hI'.mutateTotal none
      | some t => exact hI'.mutateTotal (some t)

/-- On a storage whose total is its value sum `spend` fails only on its own
checks, without a write, or takes `amount` out of the nodes and the total. -/
theorem spend_outcome (hS : StateInv s) (key : K) (amount : ℕ) :
    Outcome s (fun a s' => StateInv s' ∧ a = amount ∧ s'.totalSupply + amount = s.totalSupply)
      (spend s key amount) := by
  cases hk : s.nodes.lookup key with
  | none => exact Outcome.of_error (e := .nodeNotFound) (by simp [spend, hk]) rfl
  | some n =>
    obtain ⟨pn, pid, hnwv, hpn, -⟩ := provider_stored hS.tree.linked hk
    rcases provider_of_shape hS.tree hk rfl rfl with ⟨h, v, hv⟩ | ⟨p, qn, v, h, -, -, hv, -⟩
    all_goals
      rw [hnwv, Except.ok.injEq, Prod.mk.injEq] at h
      obtain ⟨rfl, -⟩ := h
    all_goals
      by_cases hlt : v < amount
      · exact Outcome.of_error (e := .insufficientBalance) (by simp [spend, hk, hnwv, hv, hlt]) rfl
      have hle : amount ≤ v := Nat.le_of_not_lt hlt
      -- the provider's value is part of the total, so the total covers `amount`
      have hcover : amount ≤ s.total.getD 0 := by
        have h1 := GasNode.value_le_totalValue hv
        have h2 := totalValue_le_valueSum hpn
        have h3 := hS.supply
        unfold totalSupply at h3
        omega
      have happly : negativeApplyTo amount s.total = some (s.total.getD 0 - amount) := by
        simp [negativeApplyTo, hcover]
      rw [spend_eq hk hnwv hv hle, happly]
      refine Outcome.of_ok rfl ⟨⟨(hS.tree.payload hpn (PayloadOf.withValue_le
        (hS.tree.settled _ pn hpn) hv (Nat.sub_le v amount))).mutateTotal _, ?_⟩, rfl, ?_⟩
      · have h1 : valueSum (s.insertNode (pid.getD key) (pn.withValue (v - amount))) +
            pn.totalValue = valueSum s + (pn.withValue (v - amount)).totalValue :=
          valueSum_insertNode hpn
        have h2 := pn.totalValue_withValue hv (v - amount)
        have h3 := hS.supply
        unfold totalSupply at h3 ⊢
        rw [mutateTotal_total, Option.getD_some, valueSum_mutateTotal]
        omega
      · unfold totalSupply
        rw [mutateTotal_total, Option.getD_some]
        omega

end Spend

/-! ## `lock` and `system_reserve` -/

section Into

variable {s : TreeState E K M}

/-- `lock` moves `amount` from the provider into the node's lock slot `id`. -/
theorem lock_spec (bmax : ℕ) (hI : TreeInv s) (key : K) (id : LockId) (amount : ℕ) :
    Outcome s (Keeps bmax s) (lock bmax s key id amount) := by
  cases hk : s.nodes.lookup key with
  | none => exact Outcome.of_error (e := .nodeNotFound) (by simp [lock, hk]) rfl
  | some node =>
    by_cases hc : node.isConsumed = true
    · exact Outcome.of_error (e := .nodeWasConsumed) (by simp [lock, hk, hc]) rfl
    rw [Bool.not_eq_true] at hc
    by_cases h0 : amount = 0
    · have heq : lock bmax s key id amount = (.ok (), s) := by simp [lock, hk, hc, h0]
      exact Outcome.of_ok heq (keeps_self bmax hI ())
    rcases provider_of_shape hI hk rfl rfl with
      ⟨hnwv, v, hv⟩ | ⟨p, pn, v, hnwv, hpk, hpn, hv, -⟩
    · -- the node is its own provider: one write
      by_cases hlt : v < amount
      · exact Outcome.of_error (e := .insufficientBalance)
          (by simp [lock, hk, hc, h0, hnwv, hv, hlt]) rfl
      have hle : amount ≤ v := Nat.le_of_not_lt hlt
      have heq : lock bmax s key id amount = (.ok (), s.insertNode key
          ((node.withValue (v - amount)).withLock (node.lock.set id
            (saturatingAdd bmax (node.lock.get id) amount)))) := by
        simp [lock, hk, hc, h0, hnwv, hv, hlt]
      refine Outcome.of_ok heq (keeps_payload bmax hI () hk
        (.of_not_consumed ⟨by simp, by simp, by simp⟩ (by simp) (by simp) (by simp [hc]))
        fun hb => ?_)
      -- the lock slot and the value stay below the node's total, so no saturation
      have hfit : node.lock.get id + amount ≤ bmax := by
        have h1 := node.lock.get_le_total id
        have h2 := totalValue_le_valueSum hk
        unfold GasNode.totalValue at h2
        rw [hv, Option.getD_some] at h2
        omega
      have e1 := (node.withValue (v - amount)).totalValue_withLock
        (node.lock.set id (saturatingAdd bmax (node.lock.get id) amount))
      have e2 := node.lock.total_set id (saturatingAdd bmax (node.lock.get id) amount)
      have e3 := node.totalValue_withValue hv (v - amount)
      rw [saturatingAdd_of_le hfit] at e1 e2 ⊢
      rw [GasNode.lock_withValue] at e1
      omega
    · -- a parent provides: the parent is written first, then the node
      by_cases hlt : v < amount
      · exact Outcome.of_error (e := .insufficientBalance)
          (by simp [lock, hk, hc, h0, hnwv, hv, hlt]) rfl
      have hle : amount ≤ v := Nat.le_of_not_lt hlt
      have heq : lock bmax s key id amount = (.ok (), (s.insertNode p (pn.withValue (v - amount))).insertNode
          key (node.withLock (node.lock.set id (saturatingAdd bmax (node.lock.get id) amount)))) := by
        simp [lock, hk, hc, h0, hnwv, hv, hlt, Ne.symm hpk]
      refine Outcome.of_ok heq (keeps_payload2 bmax hI () hpn hk hpk
        (.withValue_le (hI.settled p pn hpn) hv (Nat.sub_le v amount))
        (.of_not_consumed ⟨by simp, by simp, by simp⟩ (by simp) (by simp) (by simp [hc]))
        fun hb => ?_)
      -- the provider and the node are two nodes of the sum, so no saturation
      have hfit : node.lock.get id + amount ≤ bmax := by
        have h1 := node.lock_get_le_totalValue id
        have h2 := GasNode.value_le_totalValue hv
        have h3 := totalValue_add_le_valueSum hpn hk hpk
        omega
      have e1 := node.totalValue_withLock
        (node.lock.set id (saturatingAdd bmax (node.lock.get id) amount))
      have e2 := node.lock.total_set id (saturatingAdd bmax (node.lock.get id) amount)
      have e3 := pn.totalValue_withValue hv (v - amount)
      rw [saturatingAdd_of_le hfit] at e1 e2 ⊢
      omega

/-- `system_reserve` moves `amount` from the provider into the node's system
reservation. -/
theorem systemReserve_spec (bmax : ℕ) (hI : TreeInv s) (key : K) (amount : ℕ) :
    Outcome s (Keeps bmax s) (systemReserve bmax s key amount) := by
  cases hk : s.nodes.lookup key with
  | none => exact Outcome.of_error (e := .nodeNotFound) (by simp [systemReserve, hk]) rfl
  | some node =>
    by_cases hres : node.isSystemReservable = false
    · exact Outcome.of_error (e := .forbidden) (by simp [systemReserve, hk, hres]) rfl
    rw [Bool.not_eq_false] at hres
    obtain ⟨sr, hsr⟩ := GasNode.systemReserve_of_reservable hres
    by_cases hc : node.isConsumed = true
    · exact Outcome.of_error (e := .nodeWasConsumed) (by simp [systemReserve, hk, hres, hc]) rfl
    rw [Bool.not_eq_true] at hc
    by_cases h0 : amount = 0
    · have heq : systemReserve bmax s key amount = (.ok (), s) := by
        simp [systemReserve, hk, hres, hc, h0]
      exact Outcome.of_ok heq (keeps_self bmax hI ())
    rcases provider_of_shape hI hk rfl rfl with
      ⟨hnwv, v, hv⟩ | ⟨p, pn, v, hnwv, hpk, hpn, hv, -⟩
    · -- the node is its own provider: one write
      by_cases hlt : v < amount
      · exact Outcome.of_error (e := .insufficientBalance)
          (by simp [systemReserve, hk, hres, hc, h0, hnwv, hv, hlt]) rfl
      have hle : amount ≤ v := Nat.le_of_not_lt hlt
      have heq : systemReserve bmax s key amount = (.ok (), s.insertNode key
          ((node.withValue (v - amount)).withSystemReserve (saturatingAdd bmax sr amount))) := by
        simp [systemReserve, hk, hres, hc, h0, hnwv, hv, hlt, hsr]
      refine Outcome.of_ok heq (keeps_payload bmax hI () hk
        (.of_not_consumed ⟨by simp, by simp, by simp⟩ (by simp) (by simp) (by simp [hc]))
        fun hb => ?_)
      have hfit : sr + amount ≤ bmax := by
        have h2 := totalValue_le_valueSum hk
        unfold GasNode.totalValue at h2
        rw [hv, hsr, Option.getD_some, Option.getD_some] at h2
        omega
      have hsr' : (node.withValue (v - amount)).systemReserve = some sr := by
        rw [GasNode.systemReserve_withValue, hsr]
      have e1 := GasNode.totalValue_withSystemReserve hsr' (saturatingAdd bmax sr amount)
      have e3 := node.totalValue_withValue hv (v - amount)
      rw [saturatingAdd_of_le hfit] at e1 ⊢
      omega
    · -- a parent provides: the parent is written first, then the node
      by_cases hlt : v < amount
      · exact Outcome.of_error (e := .insufficientBalance)
          (by simp [systemReserve, hk, hres, hc, h0, hnwv, hv, hlt]) rfl
      have hle : amount ≤ v := Nat.le_of_not_lt hlt
      have heq : systemReserve bmax s key amount = (.ok (), (s.insertNode p
          (pn.withValue (v - amount))).insertNode key
            (node.withSystemReserve (saturatingAdd bmax sr amount))) := by
        simp [systemReserve, hk, hres, hc, h0, hnwv, hv, hlt, hsr,
          Ne.symm hpk]
      refine Outcome.of_ok heq (keeps_payload2 bmax hI () hpn hk hpk
        (.withValue_le (hI.settled p pn hpn) hv (Nat.sub_le v amount))
        (.of_not_consumed ⟨by simp, by simp, by simp⟩ (by simp) (by simp) (by simp [hc]))
        fun hb => ?_)
      have hfit : sr + amount ≤ bmax := by
        have h1 := GasNode.systemReserve_le_totalValue hsr
        have h2 := GasNode.value_le_totalValue hv
        have h3 := totalValue_add_le_valueSum hpn hk hpk
        omega
      have e1 := GasNode.totalValue_withSystemReserve hsr (saturatingAdd bmax sr amount)
      have e3 := pn.totalValue_withValue hv (v - amount)
      rw [saturatingAdd_of_le hfit] at e1 ⊢
      omega

end Into

/-! ## `unlock` and `system_unreserve` -/

section OutOf

variable {s : TreeState E K M}

/-- `unlock` moves `amount` from the node's lock slot `id` back to the
provider. -/
theorem unlock_spec (bmax : ℕ) (hI : TreeInv s) (key : K) (id : LockId) (amount : ℕ) :
    Outcome s (Keeps bmax s) (unlock bmax s key id amount) := by
  cases hk : s.nodes.lookup key with
  | none => exact Outcome.of_error (e := .nodeNotFound) (by simp [unlock, hk]) rfl
  | some node =>
    by_cases hc : node.isConsumed = true
    · exact Outcome.of_error (e := .nodeWasConsumed) (by simp [unlock, hk, hc]) rfl
    rw [Bool.not_eq_true] at hc
    by_cases h0 : amount = 0
    · have heq : unlock bmax s key id amount = (.ok (), s) := by simp [unlock, hk, hc, h0]
      exact Outcome.of_ok heq (keeps_self bmax hI ())
    by_cases hlt : node.lock.get id < amount
    · exact Outcome.of_error (e := .insufficientBalance) (by simp [unlock, hk, hc, h0, hlt]) rfl
    have hle : amount ≤ node.lock.get id := Nat.le_of_not_lt hlt
    -- the node without the unlocked amount
    have e2 := node.lock.total_set id (node.lock.get id - amount)
    have e1 := node.totalValue_withLock (node.lock.set id (node.lock.get id - amount))
    rcases provider_of_shape (n := node.withLock (node.lock.set id (node.lock.get id - amount)))
        hI hk (by simp) (by simp) with
      ⟨hnwv, v, hv⟩ | ⟨p, pn, v, hnwv, hpk, hpn, hv, hu⟩
    · -- the node is its own provider: one write
      have heq : unlock bmax s key id amount = (.ok (), s.insertNode key
          ((node.withLock (node.lock.set id (node.lock.get id - amount))).withValue
            (saturatingAdd bmax v amount))) := by
        simp [unlock, hk, hc, h0, hlt, hnwv, hv]
      refine Outcome.of_ok heq (keeps_payload bmax hI () hk
        (.of_not_consumed ⟨by simp, by simp, by simp⟩ (by simp) (by simp) (by simp [hc]))
        fun hb => ?_)
      have hfit : v + amount ≤ bmax := by
        have h1 := GasNode.value_le_totalValue hv
        have h2 := totalValue_le_valueSum hk
        omega
      have e3 := GasNode.totalValue_withValue hv (saturatingAdd bmax v amount)
      rw [saturatingAdd_of_le hfit] at e3 ⊢
      omega
    · -- a parent provides: the node is written first, then the parent
      have heq : unlock bmax s key id amount = (.ok (), (s.insertNode key
          (node.withLock (node.lock.set id (node.lock.get id - amount)))).insertNode p
            (pn.withValue (saturatingAdd bmax v amount))) := by
        simp [unlock, hk, hc, h0, hlt, hnwv, hv]
      refine Outcome.of_ok heq (keeps_payload2 bmax hI () hk hpn (Ne.symm hpk)
        (.of_not_consumed ⟨by simp, by simp, by simp⟩ (by simp) (by simp) (by simp [hc]))
        (.withValue_of_unspec (hI.settled p pn hpn) hu _)
        fun hb => ?_)
      have hfit : v + amount ≤ bmax := by
        have h1 := node.lock_get_le_totalValue id
        have h2 := GasNode.value_le_totalValue hv
        have h3 := totalValue_add_le_valueSum hpn hk hpk
        omega
      have e3 := pn.totalValue_withValue hv (saturatingAdd bmax v amount)
      rw [saturatingAdd_of_le hfit] at e3 ⊢
      omega

/-- `system_unreserve` moves the node's whole system reservation back to the
provider and returns it. -/
theorem systemUnreserve_spec (bmax : ℕ) (hI : TreeInv s) (key : K) :
    Outcome s (Keeps bmax s) (systemUnreserve bmax s key) := by
  cases hk : s.nodes.lookup key with
  | none => exact Outcome.of_error (e := .nodeNotFound) (by simp [systemUnreserve, hk]) rfl
  | some node =>
    by_cases hres : node.isSystemReservable = false
    · exact Outcome.of_error (e := .forbidden) (by simp [systemUnreserve, hk, hres]) rfl
    rw [Bool.not_eq_false] at hres
    obtain ⟨sr, hsr⟩ := GasNode.systemReserve_of_reservable hres
    by_cases hc : node.isConsumed = true
    · exact Outcome.of_error (e := .nodeWasConsumed)
        (by simp [systemUnreserve, hk, hres, hc]) rfl
    rw [Bool.not_eq_true] at hc
    by_cases h0 : sr = 0
    · have heq : systemUnreserve bmax s key = (.ok 0, s) := by
        simp [systemUnreserve, hk, hres, hc, hsr, h0]
      exact Outcome.of_ok heq (keeps_self bmax hI 0)
    -- the node without its reservation
    have e1 := GasNode.totalValue_withSystemReserve hsr 0
    rcases provider_of_shape (n := node.withSystemReserve 0) hI hk (by simp) (by simp) with
      ⟨hnwv, v, hv⟩ | ⟨p, pn, v, hnwv, hpk, hpn, hv, hu⟩
    · -- the node is its own provider: one write
      have heq : systemUnreserve bmax s key = (.ok sr, s.insertNode key
          ((node.withSystemReserve 0).withValue (saturatingAdd bmax v sr))) := by
        simp [systemUnreserve, hk, hres, hc, hsr, h0, hnwv, hv]
      refine Outcome.of_ok heq (keeps_payload bmax hI sr hk
        (.of_not_consumed ⟨by simp, by simp, by simp⟩ (by simp) (by simp) (by simp [hc]))
        fun hb => ?_)
      have hfit : v + sr ≤ bmax := by
        have h1 := GasNode.value_le_totalValue hv
        have h2 := totalValue_le_valueSum hk
        omega
      have e3 := GasNode.totalValue_withValue hv (saturatingAdd bmax v sr)
      rw [saturatingAdd_of_le hfit] at e3 ⊢
      omega
    · -- a parent provides: the node is written first, then the parent
      have heq : systemUnreserve bmax s key = (.ok sr, (s.insertNode key
          (node.withSystemReserve 0)).insertNode p (pn.withValue (saturatingAdd bmax v sr))) := by
        simp [systemUnreserve, hk, hres, hc, hsr, h0, hnwv, hv]
      refine Outcome.of_ok heq (keeps_payload2 bmax hI sr hk hpn (Ne.symm hpk)
        (.of_not_consumed ⟨by simp, by simp, by simp⟩ (by simp) (by simp) (by simp [hc]))
        (.withValue_of_unspec (hI.settled p pn hpn) hu _)
        fun hb => ?_)
      have hfit : v + sr ≤ bmax := by
        have h1 := GasNode.systemReserve_le_totalValue hsr
        have h2 := GasNode.value_le_totalValue hv
        have h3 := totalValue_add_le_valueSum hpn hk hpk
        omega
      have e3 := pn.totalValue_withValue hv (saturatingAdd bmax v sr)
      rw [saturatingAdd_of_le hfit] at e3 ⊢
      omega

end OutOf

end Gear.GasTree
