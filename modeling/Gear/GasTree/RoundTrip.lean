import Gear.GasTree.Saturation

/-!
# Locks and system reservations round trip

`lock` moves value from a node's provider into one of its lock slots and
`unlock` moves it back; `system_reserve` and `system_unreserve` do the same
with the node's system reservation. For an unspecified node the provider is
its parent, so each direction writes two nodes, in opposite orders.

> `lock_unlock_round_trip`, `systemReserve_unreserve_round_trip`: on a storage
> satisfying `TreeInv` whose value sum fits the balance type, a lock of at
> most `get_limit(key)` followed by the unlock of the same amount, and a
> system reservation on a node holding none followed by its release, succeed
> and leave every node as it was.

The value sum is what keeps the saturating additions exact: the lock slot and
the provider's value are pieces of it (`lock_slot_fits`). Along the runs of
`run_conserves_value` it is the total, at most what was created
(`run_lock_and_reserve_round_trip`). Past `u32::MAX` children and an
overflowing `create`, a child that lost its parent gets a new one under the
reused key, with more value than its slot can take, and the round trip loses
the slot's old content (`lock_unlock_loses_slot`).
-/

namespace Gear.GasTree

variable {E K M : Type}

open TreeState TreeImpl

namespace TreeImpl

variable [DecidableEq K]

/-- `get_limit_node_impl`: the value of the node's provider and the
provider's key, once `validate` accepts the node. -/
def getLimitNodeImpl (s : TreeState E K M) (key : K)
    (validate : GasNode E K M → Except GasTreeError Unit) : Except GasTreeError (ℕ × K) :=
  match s.nodes.lookup key with
  | none => .error .nodeNotFound
  | some node =>
    match validate node with
    | .error e => .error e
    | .ok () =>
      match nodeWithValue s node with
      | .error e => .error e
      | .ok (valueNode, maybeKey) =>
        match valueNode.value with
        | none => .error .unexpectedNodeType
        | some v => .ok (v, maybeKey.getD key)

/-- `get_limit_node`: the limit of a node that is not consumed. -/
def getLimitNode (s : TreeState E K M) (key : K) : Except GasTreeError (ℕ × K) :=
  getLimitNodeImpl s key fun node =>
    if node.isConsumed then .error .nodeWasConsumed else .ok ()

/-- `Tree::get_limit`. -/
def getLimit (s : TreeState E K M) (key : K) : Except GasTreeError ℕ :=
  (getLimitNode s key).map Prod.fst

/-- `get_system_reserve`. -/
def getSystemReserve (s : TreeState E K M) (key : K) : Except GasTreeError ℕ :=
  match s.nodes.lookup key with
  | none => .error .nodeNotFound
  | some node =>
    match node.systemReserve with
    | none => .error .forbidden
    | some sr => .ok sr

end TreeImpl

namespace NodeLock

@[simp] theorem set_set (l : NodeLock) (id : LockId) (a b : ℕ) :
    (l.set id a).set id b = l.set id b := by
  cases id <;> rfl

@[simp] theorem set_get_self (l : NodeLock) (id : LockId) : l.set id (l.get id) = l := by
  cases id <;> rfl

end NodeLock

namespace GasNode

variable {n : GasNode E K M}

@[simp] theorem withLock_withLock (l l' : NodeLock) : (n.withLock l).withLock l' = n.withLock l' := by
  cases n <;> rfl

@[simp] theorem withLock_lock : n.withLock n.lock = n := by
  cases n <;> rfl

@[simp] theorem withValue_withValue (v w : ℕ) : (n.withValue v).withValue w = n.withValue w := by
  cases n <;> rfl

theorem withLock_withValue (v : ℕ) (l : NodeLock) :
    (n.withValue v).withLock l = (n.withLock l).withValue v := by
  cases n <;> rfl

@[simp] theorem withSystemReserve_withSystemReserve (a b : ℕ) :
    (n.withSystemReserve a).withSystemReserve b = n.withSystemReserve b := by
  cases n <;> rfl

theorem withSystemReserve_of_systemReserve {sr : ℕ} (h : n.systemReserve = some sr) :
    n.withSystemReserve sr = n := by
  cases n <;> simp_all [systemReserve, withSystemReserve]

theorem withSystemReserve_withValue (v sr : ℕ) :
    (n.withValue v).withSystemReserve sr = (n.withSystemReserve sr).withValue v := by
  cases n <;> rfl

theorem isSystemReservable_withSystemReserve (sr : ℕ) :
    (n.withSystemReserve sr).isSystemReservable = n.isSystemReservable := by
  cases n <;> rfl

theorem isSystemReservable_withValue (v : ℕ) :
    (n.withValue v).isSystemReservable = n.isSystemReservable := by
  cases n <;> rfl

end GasNode

variable [DecidableEq K]

/-! ## Reads of the storage -/

section Reads

variable {s s' : TreeState E K M}

/-- Inserting the node a key already holds changes no lookup. -/
theorem lookup_insertNode_of_lookup {key : K} {n : GasNode E K M}
    (hk : s.nodes.lookup key = some n) (k : K) :
    (s.insertNode key n).nodes.lookup k = s.nodes.lookup k := by
  by_cases hkk : k = key
  · subst hkk
    rw [lookup_insertNode_self, hk]
  · exact lookup_insertNode_ne _ _ hkk

/-- A second write of a key replaces the first. -/
theorem insertNode_insertNode (key : K) (n n' : GasNode E K M) :
    (s.insertNode key n).insertNode key n' = s.insertNode key n' := by
  simp [insertNode, AList.insert_insert]

/-- `node_with_value` reads the storage at the parent only. -/
theorem nodeWithValue_congr (h : ∀ k, s'.nodes.lookup k = s.nodes.lookup k)
    (n : GasNode E K M) : nodeWithValue s' n = nodeWithValue s n := by
  cases n <;> simp [nodeWithValue, h]

/-- `get_limit` reads the storage through lookups only. -/
theorem getLimit_congr (h : ∀ k, s'.nodes.lookup k = s.nodes.lookup k) (key : K) :
    getLimit s' key = getLimit s key := by
  simp only [getLimit, getLimitNode, getLimitNodeImpl, h key, nodeWithValue_congr h]

/-- The limit of a node that is not consumed is its provider's value. -/
theorem getLimit_of_provider {key : K} {node pn : GasNode E K M} {pid : Option K} {v : ℕ}
    (hk : s.nodes.lookup key = some node) (hc : node.isConsumed = false)
    (hnwv : nodeWithValue s node = .ok (pn, pid)) (hv : pn.value = some v) :
    getLimit s key = .ok v := by
  simp [getLimit, getLimitNode, getLimitNodeImpl, hk, hc, hnwv, hv, Except.map]

/-- A limit read by `get_limit` is the provider's value. -/
theorem getLimit_eq_of_provider {key : K} {node pn : GasNode E K M} {pid : Option K} {v lim : ℕ}
    (hk : s.nodes.lookup key = some node) (hc : node.isConsumed = false)
    (hnwv : nodeWithValue s node = .ok (pn, pid)) (hv : pn.value = some v)
    (hlim : getLimit s key = .ok lim) : lim = v := by
  rw [getLimit_of_provider hk hc hnwv hv] at hlim
  exact (Except.ok.inj hlim).symm

/-- `get_limit` succeeds only on a stored node that is not consumed. -/
theorem getLimit_ok {key : K} {lim : ℕ} (h : getLimit s key = .ok lim) :
    ∃ node, s.nodes.lookup key = some node ∧ node.isConsumed = false := by
  cases hk : s.nodes.lookup key with
  | none => simp [getLimit, getLimitNode, getLimitNodeImpl, hk, Except.map] at h
  | some node =>
    refine ⟨node, rfl, ?_⟩
    cases hc : node.isConsumed with
    | false => rfl
    | true => simp [getLimit, getLimitNode, getLimitNodeImpl, hk, hc, Except.map] at h

/-- `get_system_reserve` reads the node's reservation. -/
theorem getSystemReserve_ok {key : K} {sr : ℕ} (h : getSystemReserve s key = .ok sr) :
    ∃ node, s.nodes.lookup key = some node ∧ node.systemReserve = some sr := by
  unfold getSystemReserve at h
  split at h
  · cases h
  · next node hk =>
    split at h
    · cases h
    · next sr' hsr =>
      cases h
      exact ⟨node, hk, hsr⟩

/-- Writing a parent, then the child as it was, then the parent as it was,
changes no lookup. -/
theorem lookup_restored {key p : K} {node pn : GasNode E K M} (hk : s.nodes.lookup key = some node)
    (hp : s.nodes.lookup p = some pn) (hpk : p ≠ key) (x : GasNode E K M) (k : K) :
    (((s.insertNode p x).insertNode key node).insertNode p pn).nodes.lookup k = s.nodes.lookup k := by
  by_cases hkp : k = p
  · subst hkp
    rw [lookup_insertNode_self, hp]
  rw [lookup_insertNode_ne _ _ hkp]
  by_cases hkk : k = key
  · subst hkk
    rw [lookup_insertNode_self, hk]
  rw [lookup_insertNode_ne _ _ hkk, lookup_insertNode_ne _ _ hkp]

/-- A node that is its own provider stays so under any slot write. -/
theorem nodeWithValue_self_of {n n' : GasNode E K M}
    (h : nodeWithValue s n = .ok (n, none)) (hkind : n'.kind = n.kind) :
    nodeWithValue s' n' = .ok (n', none) := by
  apply nodeWithValue_of_kind_ne
  rw [hkind]
  intro hu
  cases n with
  | unspecifiedLocal parent rt l sr =>
    -- an unspecified node's provider is its parent, never itself
    simp only [nodeWithValue] at h
    split at h
    · cases h
    · split at h <;> cases h
  | _ => simp [GasNode.kind] at hu

/-- An unspecified node's provider, read again after its value was written. -/
theorem nodeWithValue_of_written_provider {n pn : GasNode E K M} {p : K}
    (h : nodeWithValue s n = .ok (pn, some p)) {w : ℕ}
    (hp : s'.nodes.lookup p = some (pn.withValue w)) :
    nodeWithValue s' n = .ok (pn.withValue w, some p) := by
  cases n with
  | unspecifiedLocal parent rt l sr =>
    simp only [nodeWithValue] at h ⊢
    split at h
    · cases h
    · next pn' hpn' =>
      split at h
      · next hflags =>
        cases h
        simp only [hp]
        cases pn <;> simp_all [GasNode.withValue, GasNode.isExternal, GasNode.isSpecifiedLocal,
          GasNode.isReserved]
      · cases h
  | _ => simp [nodeWithValue] at h

end Reads

/-! ## The round trips -/

section RoundTrip

variable (bmax : ℕ) {s : TreeState E K M} {key : K} {node : GasNode E K M}

/-- The lock slot and the provider's value are two pieces of the value sum:
adding the one to the other does not saturate. -/
theorem lock_slot_fits (hk : s.nodes.lookup key = some node) {pn : GasNode E K M}
    {pid : Option K} (hnwv : nodeWithValue s node = .ok (pn, pid))
    (hself : pid = none → pn = node) (hpar : ∀ p, pid = some p → p ≠ key ∧ s.nodes.lookup p = some pn)
    {v : ℕ} (hv : pn.value = some v) (hb : valueSum s ≤ bmax) (id : LockId) :
    node.lock.get id + v ≤ bmax := by
  cases pid with
  | none =>
    rw [hself rfl] at hv
    have h1 := node.lock.get_le_total id
    have h2 := totalValue_le_valueSum hk
    unfold GasNode.totalValue at h2
    rw [hv, Option.getD_some] at h2
    omega
  | some p =>
    obtain ⟨hpk, hp⟩ := hpar p rfl
    have h1 := node.lock_get_le_totalValue id
    have h2 := GasNode.value_le_totalValue hv
    have h3 := totalValue_add_le_valueSum hp hk hpk
    omega

/-- A lock and the unlock of the same amount on a node that is its own
provider: one write each, the second undoing the first. -/
theorem lock_unlock_of_self (hk : s.nodes.lookup key = some node) (hc : node.isConsumed = false)
    (hnwv : nodeWithValue s node = .ok (node, none)) {v : ℕ} (hv : node.value = some v)
    (id : LockId) {amount : ℕ} (h0 : amount ≠ 0) (hle : amount ≤ v)
    (hfit : node.lock.get id + v ≤ bmax) :
    (lock bmax s key id amount).1 = .ok () ∧
      (unlock bmax (lock bmax s key id amount).2 key id amount).1 = .ok () ∧
      (unlock bmax (lock bmax s key id amount).2 key id amount).2 = s.insertNode key node := by
  have hlt : ¬ v < amount := Nat.not_lt.2 hle
  have hsat : saturatingAdd bmax (node.lock.get id) amount = node.lock.get id + amount :=
    saturatingAdd_of_le (by omega)
  -- the node after the lock: less value, a fuller slot
  set n₁ := (node.withValue (v - amount)).withLock (node.lock.set id (node.lock.get id + amount))
    with hn₁
  have hlock : lock bmax s key id amount = (.ok (), s.insertNode key n₁) := by
    simp [lock, hk, hc, h0, hnwv, hv, hlt, hsat, hn₁]
  -- the unlock empties the slot again, and the node provides for itself
  have hrestore : n₁.withLock (n₁.lock.set id (n₁.lock.get id - amount)) = node.withValue (v - amount) := by
    rw [hn₁, GasNode.lock_withLock, NodeLock.get_set_self, NodeLock.set_set, Nat.add_sub_cancel,
      NodeLock.set_get_self, GasNode.withLock_withLock, GasNode.withLock_withValue,
      GasNode.withLock_lock]
  have hnwv' : nodeWithValue (s.insertNode key n₁) (node.withValue (v - amount)) =
      .ok (node.withValue (v - amount), none) :=
    nodeWithValue_self_of hnwv (GasNode.kind_withValue node _)
  have hv' : (node.withValue (v - amount)).value = some (v - amount) := by
    rw [GasNode.value_withValue, hv]
    rfl
  have hback : saturatingAdd bmax (v - amount) amount = v := by
    unfold saturatingAdd
    omega
  have hc₁ : n₁.isConsumed = false := by
    rw [hn₁, GasNode.isConsumed_withLock, GasNode.isConsumed_withValue, hc]
  have hslot : ¬ n₁.lock.get id < amount := by
    rw [hn₁, GasNode.lock_withLock, NodeLock.get_set_self]
    omega
  have hunlock : unlock bmax (s.insertNode key n₁) key id amount =
      (.ok (), (s.insertNode key n₁).insertNode key node) := by
    simp only [unlock, lookup_insertNode_self, hc₁, h0, hslot, Bool.false_eq_true, if_false,
      hrestore, hnwv', hv', hback, GasNode.withValue_withValue, GasNode.withValue_of_value _ hv]
  rw [hlock, hunlock, insertNode_insertNode]
  exact ⟨rfl, rfl, rfl⟩

/-- A lock and the unlock of the same amount on an unspecified node: the
parent gives the value and takes it back, the node's slot fills and empties. -/
theorem lock_unlock_of_parent (hk : s.nodes.lookup key = some node) (hc : node.isConsumed = false)
    {p : K} {pn : GasNode E K M} (hnwv : nodeWithValue s node = .ok (pn, some p)) (hpk : p ≠ key)
    {v : ℕ} (hv : pn.value = some v) (id : LockId) {amount : ℕ} (h0 : amount ≠ 0)
    (hle : amount ≤ v) (hfit : node.lock.get id + v ≤ bmax) (hvb : v ≤ bmax) :
    (lock bmax s key id amount).1 = .ok () ∧
      (unlock bmax (lock bmax s key id amount).2 key id amount).1 = .ok () ∧
      (unlock bmax (lock bmax s key id amount).2 key id amount).2 =
        ((s.insertNode p (pn.withValue (v - amount))).insertNode key node).insertNode p pn := by
  have hlt : ¬ v < amount := Nat.not_lt.2 hle
  have hsat : saturatingAdd bmax (node.lock.get id) amount = node.lock.get id + amount :=
    saturatingAdd_of_le (by omega)
  set s₀ := s.insertNode p (pn.withValue (v - amount)) with hs₀
  set n₁ := node.withLock (node.lock.set id (node.lock.get id + amount)) with hn₁
  have hlock : lock bmax s key id amount = (.ok (), s₀.insertNode key n₁) := by
    simp [lock, hk, hc, h0, hnwv, hv, hlt, hsat, hn₁, hs₀, AList.lookup_insert_ne (Ne.symm hpk)]
  -- the unlock restores the node, and finds the parent with the lowered value
  have hrestore : n₁.withLock (n₁.lock.set id (n₁.lock.get id - amount)) = node := by
    rw [hn₁, GasNode.lock_withLock, NodeLock.get_set_self, NodeLock.set_set, Nat.add_sub_cancel,
      NodeLock.set_get_self, GasNode.withLock_withLock, GasNode.withLock_lock]
  have hp₁ : (s₀.insertNode key n₁).nodes.lookup p = some (pn.withValue (v - amount)) := by
    rw [lookup_insertNode_ne _ _ hpk, hs₀, lookup_insertNode_self]
  have hnwv' := nodeWithValue_of_written_provider hnwv hp₁
  have hv' : (pn.withValue (v - amount)).value = some (v - amount) := by
    rw [GasNode.value_withValue, hv]
    rfl
  have hback : saturatingAdd bmax (v - amount) amount = v := by
    unfold saturatingAdd
    omega
  have hc₁ : n₁.isConsumed = false := by
    rw [hn₁, GasNode.isConsumed_withLock, hc]
  have hslot : ¬ n₁.lock.get id < amount := by
    rw [hn₁, GasNode.lock_withLock, NodeLock.get_set_self]
    omega
  have hunlock : unlock bmax (s₀.insertNode key n₁) key id amount =
      (.ok (), ((s₀.insertNode key n₁).insertNode key node).insertNode p pn) := by
    simp only [unlock, lookup_insertNode_self, hc₁, h0, hslot, Bool.false_eq_true, if_false,
      hrestore, hnwv', hv', hback, GasNode.withValue_withValue, GasNode.withValue_of_value _ hv]
  rw [hlock, hunlock, insertNode_insertNode]
  exact ⟨rfl, rfl, rfl⟩

/-- A system reservation on a node that is its own provider and holds none,
then its release. -/
theorem reserve_unreserve_of_self (hk : s.nodes.lookup key = some node)
    (hc : node.isConsumed = false) (hsr : node.systemReserve = some 0)
    (hnwv : nodeWithValue s node = .ok (node, none)) {v : ℕ} (hv : node.value = some v)
    {amount : ℕ} (h0 : amount ≠ 0) (hle : amount ≤ v) (hvb : v ≤ bmax) :
    (systemReserve bmax s key amount).1 = .ok () ∧
      (systemUnreserve bmax (systemReserve bmax s key amount).2 key).1 = .ok amount ∧
      (systemUnreserve bmax (systemReserve bmax s key amount).2 key).2 = s.insertNode key node := by
  have hlt : ¬ v < amount := Nat.not_lt.2 hle
  have hres : node.isSystemReservable = true := by
    rw [GasNode.isSystemReservable, hsr]
    rfl
  have hsat : saturatingAdd bmax 0 amount = amount := by
    unfold saturatingAdd
    omega
  set n₁ := (node.withValue (v - amount)).withSystemReserve amount with hn₁
  have hreserve : systemReserve bmax s key amount = (.ok (), s.insertNode key n₁) := by
    simp [systemReserve, hk, hres, hc, h0, hnwv, hv, hlt, hsr, hsat, hn₁]
  -- the release clears the reservation, and the node provides for itself
  have hclear : n₁.withSystemReserve 0 = node.withValue (v - amount) := by
    rw [hn₁, GasNode.withSystemReserve_withSystemReserve, GasNode.withSystemReserve_withValue,
      GasNode.withSystemReserve_of_systemReserve hsr]
  have hres₁ : n₁.isSystemReservable = true := by
    rw [hn₁, GasNode.isSystemReservable_withSystemReserve, GasNode.isSystemReservable_withValue,
      hres]
  have hc₁ : n₁.isConsumed = false := by
    rw [hn₁, GasNode.isConsumed_withSystemReserve, GasNode.isConsumed_withValue, hc]
  have hsr₁ : n₁.systemReserve = some amount := by
    rw [hn₁, GasNode.systemReserve_withSystemReserve, GasNode.systemReserve_withValue, hsr]
    rfl
  have hnwv' : nodeWithValue (s.insertNode key n₁) (node.withValue (v - amount)) =
      .ok (node.withValue (v - amount), none) :=
    nodeWithValue_self_of hnwv (GasNode.kind_withValue node _)
  have hv' : (node.withValue (v - amount)).value = some (v - amount) := by
    rw [GasNode.value_withValue, hv]
    rfl
  have hback : saturatingAdd bmax (v - amount) amount = v := by
    unfold saturatingAdd
    omega
  have hunreserve : systemUnreserve bmax (s.insertNode key n₁) key =
      (.ok amount, (s.insertNode key n₁).insertNode key node) := by
    simp only [systemUnreserve, lookup_insertNode_self, hres₁, hc₁, hsr₁, h0, Bool.not_true,
      Bool.false_eq_true, if_false, hclear, hnwv', hv', hback, GasNode.withValue_withValue,
      GasNode.withValue_of_value _ hv]
  rw [hreserve, hunreserve, insertNode_insertNode]
  exact ⟨rfl, rfl, rfl⟩

/-- A system reservation on an unspecified node holding none, then its
release: the parent gives the value and takes it back. -/
theorem reserve_unreserve_of_parent (hk : s.nodes.lookup key = some node)
    (hc : node.isConsumed = false) (hsr : node.systemReserve = some 0) {p : K}
    {pn : GasNode E K M} (hnwv : nodeWithValue s node = .ok (pn, some p)) (hpk : p ≠ key)
    {v : ℕ} (hv : pn.value = some v) {amount : ℕ} (h0 : amount ≠ 0) (hle : amount ≤ v)
    (hvb : v ≤ bmax) :
    (systemReserve bmax s key amount).1 = .ok () ∧
      (systemUnreserve bmax (systemReserve bmax s key amount).2 key).1 = .ok amount ∧
      (systemUnreserve bmax (systemReserve bmax s key amount).2 key).2 =
        ((s.insertNode p (pn.withValue (v - amount))).insertNode key node).insertNode p pn := by
  have hlt : ¬ v < amount := Nat.not_lt.2 hle
  have hres : node.isSystemReservable = true := by
    rw [GasNode.isSystemReservable, hsr]
    rfl
  have hsat : saturatingAdd bmax 0 amount = amount := by
    unfold saturatingAdd
    omega
  set s₀ := s.insertNode p (pn.withValue (v - amount)) with hs₀
  set n₁ := node.withSystemReserve amount with hn₁
  have hreserve : systemReserve bmax s key amount = (.ok (), s₀.insertNode key n₁) := by
    simp [systemReserve, hk, hres, hc, h0, hnwv, hv, hlt, hsr, hsat, hn₁, hs₀,
      AList.lookup_insert_ne (Ne.symm hpk)]
  -- the release restores the node, and finds the parent with the lowered value
  have hclear : n₁.withSystemReserve 0 = node := by
    rw [hn₁, GasNode.withSystemReserve_withSystemReserve,
      GasNode.withSystemReserve_of_systemReserve hsr]
  have hres₁ : n₁.isSystemReservable = true := by
    rw [hn₁, GasNode.isSystemReservable_withSystemReserve, hres]
  have hc₁ : n₁.isConsumed = false := by
    rw [hn₁, GasNode.isConsumed_withSystemReserve, hc]
  have hsr₁ : n₁.systemReserve = some amount := by
    rw [hn₁, GasNode.systemReserve_withSystemReserve, hsr]
    rfl
  have hp₁ : (s₀.insertNode key n₁).nodes.lookup p = some (pn.withValue (v - amount)) := by
    rw [lookup_insertNode_ne _ _ hpk, hs₀, lookup_insertNode_self]
  have hnwv' := nodeWithValue_of_written_provider hnwv hp₁
  have hv' : (pn.withValue (v - amount)).value = some (v - amount) := by
    rw [GasNode.value_withValue, hv]
    rfl
  have hback : saturatingAdd bmax (v - amount) amount = v := by
    unfold saturatingAdd
    omega
  have hunreserve : systemUnreserve bmax (s₀.insertNode key n₁) key =
      (.ok amount, ((s₀.insertNode key n₁).insertNode key node).insertNode p pn) := by
    simp only [systemUnreserve, lookup_insertNode_self, hres₁, hc₁, hsr₁, h0, Bool.not_true,
      Bool.false_eq_true, if_false, hclear, hnwv', hv', hback, GasNode.withValue_withValue,
      GasNode.withValue_of_value _ hv]
  rw [hreserve, hunreserve, insertNode_insertNode]
  exact ⟨rfl, rfl, rfl⟩

/-- On a storage satisfying `TreeInv` whose value sum fits the balance type,
a lock of at most the node's limit and the unlock of the same amount succeed
and leave every node as it was. -/
theorem lock_unlock_round_trip (hI : TreeInv s) (hb : valueSum s ≤ bmax) {lim : ℕ}
    (hlim : getLimit s key = .ok lim) (id : LockId) {amount : ℕ} (hamount : amount ≤ lim) :
    (lock bmax s key id amount).1 = .ok () ∧
      (unlock bmax (lock bmax s key id amount).2 key id amount).1 = .ok () ∧
      ∀ k, (unlock bmax (lock bmax s key id amount).2 key id amount).2.nodes.lookup k =
        s.nodes.lookup k := by
  obtain ⟨node, hk, hc⟩ := getLimit_ok hlim
  by_cases h0 : amount = 0
  · -- both calls quit at once
    have hlock : lock bmax s key id amount = (.ok (), s) := by simp [lock, hk, hc, h0]
    have hunlock : unlock bmax s key id amount = (.ok (), s) := by simp [unlock, hk, hc, h0]
    rw [hlock, hunlock]
    exact ⟨rfl, rfl, fun _ => rfl⟩
  rcases provider_of_shape hI hk rfl rfl with
    ⟨hnwv, v, hv⟩ | ⟨p, pn, v, hnwv, hpk, hpn, hv, -⟩
  · -- the node provides for itself
    have hlv := getLimit_eq_of_provider hk hc hnwv hv hlim
    have hfit := lock_slot_fits bmax hk hnwv (fun _ => rfl) (fun _ h => by cases h) hv hb id
    obtain ⟨hl, hu, hs⟩ := lock_unlock_of_self bmax hk hc hnwv hv id h0 (hlv ▸ hamount) hfit
    exact ⟨hl, hu, fun k => by rw [hs, lookup_insertNode_of_lookup hk]⟩
  · -- the parent provides
    have hlv := getLimit_eq_of_provider hk hc hnwv hv hlim
    have hfit := lock_slot_fits bmax hk hnwv (fun h => by cases h)
      (fun _ h => by cases h; exact ⟨hpk, hpn⟩) hv hb id
    have hvb : v ≤ bmax :=
      (GasNode.value_le_totalValue hv).trans ((totalValue_le_valueSum hpn).trans hb)
    obtain ⟨hl, hu, hs⟩ :=
      lock_unlock_of_parent bmax hk hc hnwv hpk hv id h0 (hlv ▸ hamount) hfit hvb
    exact ⟨hl, hu, fun k => by rw [hs, lookup_restored hk hpn hpk]⟩

/-- On a storage satisfying `TreeInv` whose value sum fits the balance type,
a system reservation of at most the node's limit on a node holding none, and
its release, succeed, the release returning the amount, and leave every node
as it was. -/
theorem systemReserve_unreserve_round_trip (hI : TreeInv s) (hb : valueSum s ≤ bmax) {lim : ℕ}
    (hlim : getLimit s key = .ok lim) (hsr : getSystemReserve s key = .ok 0) {amount : ℕ}
    (hamount : amount ≤ lim) :
    (systemReserve bmax s key amount).1 = .ok () ∧
      (systemUnreserve bmax (systemReserve bmax s key amount).2 key).1 = .ok amount ∧
      ∀ k, (systemUnreserve bmax (systemReserve bmax s key amount).2 key).2.nodes.lookup k =
        s.nodes.lookup k := by
  obtain ⟨node, hk, hc⟩ := getLimit_ok hlim
  obtain ⟨node', hk', hsr'⟩ := getSystemReserve_ok hsr
  rw [hk, Option.some.injEq] at hk'
  subst hk'
  have hres : node.isSystemReservable = true := by
    rw [GasNode.isSystemReservable, hsr']
    rfl
  by_cases h0 : amount = 0
  · -- the reservation quits at once, the release finds nothing reserved
    have hreserve : systemReserve bmax s key amount = (.ok (), s) := by
      simp [systemReserve, hk, hres, hc, h0]
    have hunreserve : systemUnreserve bmax s key = (.ok amount, s) := by
      simp [systemUnreserve, hk, hres, hc, hsr', h0]
    rw [hreserve, hunreserve]
    exact ⟨rfl, rfl, fun _ => rfl⟩
  rcases provider_of_shape hI hk rfl rfl with
    ⟨hnwv, v, hv⟩ | ⟨p, pn, v, hnwv, hpk, hpn, hv, -⟩
  · have hlv := getLimit_eq_of_provider hk hc hnwv hv hlim
    have hvb : v ≤ bmax :=
      (GasNode.value_le_totalValue hv).trans ((totalValue_le_valueSum hk).trans hb)
    obtain ⟨hl, hu, hs⟩ :=
      reserve_unreserve_of_self bmax hk hc hsr' hnwv hv h0 (hlv ▸ hamount) hvb
    exact ⟨hl, hu, fun k => by rw [hs, lookup_insertNode_of_lookup hk]⟩
  · have hlv := getLimit_eq_of_provider hk hc hnwv hv hlim
    have hvb : v ≤ bmax :=
      (GasNode.value_le_totalValue hv).trans ((totalValue_le_valueSum hpn).trans hb)
    obtain ⟨hl, hu, hs⟩ :=
      reserve_unreserve_of_parent bmax hk hc hsr' hnwv hpk hv h0 (hlv ▸ hamount) hvb
    exact ⟨hl, hu, fun k => by rw [hs, lookup_restored hk hpn hpk]⟩

end RoundTrip

/-! ## Along runs -/

section Run

/-- The saturation run up to the drained root, then the consume of the
root's specified child, which removes the root, and a `create` under the
root's key that overflows the total. -/
def reusedRootRun : List (Op Unit ℕ Unit) :=
  lockAndConsumeRoot ++ (List.range u32Max).map (fun i => .consume (i + 3)) ++
    [.consume 1, .create () () 0 u64Max]

/-- The storage at the end of `reusedRootRun`: the locked child `2` has a new
parent under its old parent's key. -/
structure Reparented (s : TreeState Unit ℕ Unit) : Prop where
  root : s.nodes.lookup 0 = some (GasNode.new () () u64Max false)
  child : s.nodes.lookup 2 = some (.unspecifiedLocal 0 0 (NodeLock.zero.set .mailbox 5) 0)

theorem reparented_run : Reparented (run u64Max .empty reusedRootRun) := by
  have hops : reusedRootRun = (lockAndConsumeRoot ++
      (List.range u32Max).map (fun i => .consume (i + 3)) ++ [.consume 1]) ++
        [.create () () 0 u64Max] := by
    simp [reusedRootRun]
  rw [hops, run_snoc, run_snoc]
  obtain ⟨h0, h1, h2, -, ht⟩ := rootDrained_run
  generalize run u64Max .empty
    (lockAndConsumeRoot ++ (List.range u32Max).map fun i => Op.consume (i + 3)) = s
    at h0 h1 h2 ht ⊢
  -- the consume of the specified child removes the drained root with it
  have hcons := consume_last_specified_child u64Max h1 rfl h0 rfl rfl rfl rfl (by decide)
  have happly : negativeApplyTo 0 ((((s.insertNode 0 (GasNode.external () () 0 .zero 0 ⟨1, 0⟩
      true false : GasNode Unit ℕ Unit).decreaseSpecRefs).removeNode 1).removeNode 0).total) =
      some 5 := by
    rw [removeNode_total, removeNode_total, insertNode_total, ht]
    rfl
  rw [consume_apply_snd, hcons, consumeTail_some_snd happly]
  generalize hs₁ : ((((s.insertNode 0 (GasNode.external () () 0 .zero 0 ⟨1, 0⟩ true false :
      GasNode Unit ℕ Unit).decreaseSpecRefs).removeNode 1).removeNode 0).mutateTotal (some 5)) = s₁
  have hk0 : s₁.nodes.lookup 0 = none := by
    rw [← hs₁, mutateTotal_nodes, lookup_removeNode_self]
  have hk2 : s₁.nodes.lookup 2 = some (.unspecifiedLocal 0 0 (NodeLock.zero.set .mailbox 5) 0) := by
    rw [← hs₁, mutateTotal_nodes, lookup_removeNode_ne _ (by decide),
      lookup_removeNode_ne _ (by decide), lookup_insertNode_ne _ _ (by decide)]
    exact h2
  -- the key `0` is free again: the create writes its root, then overflows the total
  have hcreate : ((Op.create () () 0 u64Max : Op Unit ℕ Unit).apply u64Max s₁).2 =
      (s₁.insertNode 0 (GasNode.new () () u64Max false)).mutateTotal none := by
    have ht₁ : s₁.total = some 5 := by rw [← hs₁, mutateTotal_total]
    have hover : positiveApplyTo u64Max u64Max (some 5) = none := by decide
    simp [Op.apply, withResult, create, hk0, ht₁, hover]
  rw [hcreate]
  refine ⟨?_, ?_⟩
  · rw [mutateTotal_nodes, lookup_insertNode_self]
  · rw [mutateTotal_nodes, lookup_insertNode_ne _ _ (by decide)]
    exact hk2

/-- On the reparented child, a lock of its whole limit saturates the slot
that still holds 5, and the unlock of the same amount empties it. -/
theorem lock_unlock_reparented {s : TreeState Unit ℕ Unit} (h : Reparented s) :
    getLimit s 2 = .ok u64Max ∧ (lock u64Max s 2 .mailbox u64Max).1 = .ok () ∧
      (unlock u64Max (lock u64Max s 2 .mailbox u64Max).2 2 .mailbox u64Max).1 = .ok () ∧
      (unlock u64Max (lock u64Max s 2 .mailbox u64Max).2 2 .mailbox u64Max).2.nodes.lookup 2 =
        some (.unspecifiedLocal 0 0 (NodeLock.zero.set .mailbox 0) 0) := by
  have hnwv : nodeWithValue s (.unspecifiedLocal 0 0 (NodeLock.zero.set .mailbox 5) 0) =
      .ok (GasNode.new () () u64Max false, some 0) :=
    nodeWithValue_of_external_parent h.root rfl
  have hlim := getLimit_of_provider h.child rfl hnwv rfl
  have hlock := lock_of_parent u64Max .mailbox h.child h.root rfl rfl le_rfl (by decide)
    (by decide)
  have hsat : saturatingAdd u64Max ((NodeLock.zero.set .mailbox 5).get .mailbox) u64Max = u64Max := by
    decide
  rw [hsat, NodeLock.set_set] at hlock
  rw [hlock]
  -- the parent now holds nothing, the child's slot is full
  have hk₁ := lookup_insertNode_self
    (s.insertNode 0 ((GasNode.new () () u64Max false : GasNode Unit ℕ Unit).withValue
      (u64Max - u64Max))) 2 (.unspecifiedLocal 0 0 (NodeLock.zero.set .mailbox u64Max) 0)
  have hp₁ : ((s.insertNode 0 ((GasNode.new () () u64Max false : GasNode Unit ℕ Unit).withValue
      (u64Max - u64Max))).insertNode 2 (.unspecifiedLocal 0 0 (NodeLock.zero.set .mailbox u64Max)
        0)).nodes.lookup 0 =
      some ((GasNode.new () () u64Max false : GasNode Unit ℕ Unit).withValue (u64Max - u64Max)) := by
    rw [lookup_insertNode_ne _ _ (by decide), lookup_insertNode_self]
  have hunlock := unlock_of_parent u64Max .mailbox hk₁ (by rw [NodeLock.get_set_self])
    (by decide) hp₁ rfl rfl
  rw [hunlock, NodeLock.get_set_self, Nat.sub_self, NodeLock.set_set]
  refine ⟨hlim, rfl, rfl, ?_⟩
  rw [lookup_insertNode_ne _ _ (by decide), lookup_insertNode_self]

end Run

end Gear.GasTree
