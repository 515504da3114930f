import Gear.GasTree.Shape

/-!
# The operations that add a node

`create` adds an `External` root and raises the total; `split` adds an
`UnspecifiedLocal` child of the value provider; `split_with_value`, `cut`,
`create_deposit` and `reserve` go through `create_from_with_value`, which
takes `amount` from the value provider into a new `SpecifiedLocal` child, a
`Cut` root, an `External` deposit root or a `Reserved` root.

On a storage satisfying `TreeInv` each of them fails only with a user error
and without a write, or adds its node keeping `TreeInv`, the total and —
while it fits the balance type — the value sum (`Keeps`); `create` adds
`amount` to both. A new child raises its provider's counter of its kind, so
these are the only places where `ChildCountsFit` of the result is needed:
it says that the saturating `u32` increment was exact.
-/

namespace Gear.GasTree

variable {E K M : Type} [DecidableEq K]

open TreeState TreeImpl

/-! ## Raising a counter -/

namespace GasNode

variable {n : GasNode E K M}

omit [DecidableEq K] in
theorem specRefs_increaseSpecRefs (h : n.kind.canParent = true) :
    n.increaseSpecRefs.specRefs = min (n.specRefs + 1) u32Max := by
  cases n <;> simp_all [kind, Kind.canParent, increaseSpecRefs, adjustRefs, adjustRefs.bump,
    specRefs]

omit [DecidableEq K] in
theorem unspecRefs_increaseUnspecRefs (h : n.kind.canParent = true) :
    n.increaseUnspecRefs.unspecRefs = min (n.unspecRefs + 1) u32Max := by
  cases n <;> simp_all [kind, Kind.canParent, increaseUnspecRefs, adjustRefs, adjustRefs.bump,
    unspecRefs]

omit [DecidableEq K] in
/-- A raised counter is at least one. -/
theorem refs_adjustRefs_pos (h : n.kind.canParent = true) (sp : Bool) :
    0 < (n.adjustRefs true sp).refs := by
  cases n <;> cases sp <;> simp_all [kind, Kind.canParent, adjustRefs, adjustRefs.bump, refs,
    specRefs, unspecRefs, u32Max]

omit [DecidableEq K] in
/-- A node that gains a child stays `Settled`. -/
theorem Settled.adjustRefs_true (h : n.Settled) (hcan : n.kind.canParent = true) (sp : Bool) :
    (n.adjustRefs true sp).Settled := by
  intro hc
  rw [isConsumed_adjustRefs] at hc
  obtain ⟨-, hl, hs, hz⟩ := h hc
  refine ⟨refs_adjustRefs_pos hcan sp, by rw [lock_adjustRefs]; exact hl,
    by rw [systemReserve_adjustRefs]; exact hs, fun hu => ?_⟩
  rw [value_adjustRefs]
  cases sp with
  | true =>
    rw [unspecRefs_adjustRefs_spec] at hu
    exact hz hu
  | false =>
    -- the unspecified counter was just raised
    have hpos := unspecRefs_increaseUnspecRefs hcan
    unfold increaseUnspecRefs at hpos
    rw [hpos] at hu
    unfold u32Max at hu
    omega

end GasNode

/-! ## Writes that add a node -/

section Add

variable {s : TreeState E K M}

/-- A provider's counter of the kind of a fresh child stays exact when the
result has no more than `u32::MAX` children of that kind below it. -/
theorem counter_fits {c p : K} {pn pn' m : GasNode E K M} (kd : GasNode.Kind)
    (hc : s.nodes.lookup c = none) (hpn : s.nodes.lookup p = some pn)
    (hsh : SameShape pn' pn) (hcp : c ≠ p)
    (hfit : children kd ((s.insertNode c m).insertNode p pn') p ≤ u32Max)
    (hw : childWeight kd p m = 1) :
    children kd s p + 1 ≤ u32Max := by
  have h1 : children kd ((s.insertNode c m).insertNode p pn') p =
      children kd (s.insertNode c m) p :=
    children_insertNode_same kd p (by rw [lookup_insertNode_ne _ _ (Ne.symm hcp)]; exact hpn)
      hsh.1 hsh.2.1
  have h2 : children kd (s.insertNode c m) p = children kd s p + childWeight kd p m :=
    children_insertNode_fresh kd p hc
  omega

/-- `Settled` after a new node and a provider write. -/
theorem settled_insert_two {c p : K} {m pn' : GasNode E K M}
    (hS : ∀ j n, s.nodes.lookup j = some n → n.Settled) (hm : m.Settled) (hp : pn'.Settled) :
    ∀ j n, ((s.insertNode c m).insertNode p pn').nodes.lookup j = some n → n.Settled := by
  intro j n hj
  by_cases hjp : j = p
  · subst hjp
    rw [lookup_insertNode_self, Option.some.injEq] at hj
    rw [← hj]
    exact hp
  · rw [lookup_insertNode_ne _ _ hjp] at hj
    by_cases hjc : j = c
    · subst hjc
      rw [lookup_insertNode_self, Option.some.injEq] at hj
      rw [← hj]
      exact hm
    · rw [lookup_insertNode_ne _ _ hjc] at hj
      exact hS j n hj

/-- The value sum after a new node and a provider write. -/
theorem valueSum_insert_two {c p : K} {m pn pn' : GasNode E K M}
    (hc : s.nodes.lookup c = none) (hpn : s.nodes.lookup p = some pn) (hcp : c ≠ p) :
    valueSum ((s.insertNode c m).insertNode p pn') + pn.totalValue =
      valueSum s + m.totalValue + pn'.totalValue := by
  have h1 : valueSum ((s.insertNode c m).insertNode p pn') + pn.totalValue =
      valueSum (s.insertNode c m) + pn'.totalValue :=
    valueSum_insertNode (by rw [lookup_insertNode_ne _ _ (Ne.symm hcp)]; exact hpn)
  have h2 : valueSum (s.insertNode c m) = valueSum s + m.totalValue :=
    valueSum_insertNode_fresh hc
  omega

omit [DecidableEq K] in
/-- A node that is not consumed is `Settled`. -/
theorem GasNode.settled_of_not_consumed {n : GasNode E K M} (h : n.isConsumed = false) :
    n.Settled := by
  intro hc
  rw [h] at hc
  cases hc

end Add

/-! ## `split` -/

section Split

variable {s : TreeState E K M}

/-- `split` adds an unspecified child of the value provider, which counts
it; no value moves. -/
theorem split_spec (bmax : ℕ) (hI : TreeInv s) (key newKey : K) :
    Outcome s (fun a s' => ChildCountsFit s' → Keeps bmax s a s') (split s key newKey) := by
  cases hk : s.nodes.lookup key with
  | none => exact Outcome.of_error (e := .nodeNotFound) (by simp [split, hk]) rfl
  | some n =>
    obtain ⟨pn, pid, hnwv, hpn, hcan, -⟩ := provider_stored hI.linked hk
    by_cases hcut : pn.isCut = true
    · exact Outcome.of_error (e := .forbidden) (by simp [split, hk, hnwv, hcut]) rfl
    rw [Bool.not_eq_true] at hcut
    have hcan' := hcan hcut
    cases hnew : s.nodes.lookup newKey with
    | some _ =>
      exact Outcome.of_error (e := .nodeAlreadyExists) (by simp [split, hk, hnwv, hcut, hnew]) rfl
    | none =>
      -- the new child under the provider's key `P`
      generalize hP : pid.getD key = P at hpn
      have hcP : newKey ≠ P := by
        rintro rfl
        rw [hnew] at hpn
        cases hpn
      have heq : split s key newKey = (.ok (), (s.insertNode newKey
          (.unspecifiedLocal P (pn.rootId.getD P) .zero 0)).insertNode P pn.increaseUnspecRefs) := by
        simp [split, hk, hnwv, hcut, hnew, hP, GasNode.increaseUnspecRefs]
      refine Outcome.of_ok heq fun hfit => ⟨?_, rfl, fun _ => ?_⟩
      · have hsh : SameShape pn.increaseUnspecRefs pn := ⟨by simp [GasNode.increaseUnspecRefs],
          by simp [GasNode.increaseUnspecRefs], by simp [GasNode.increaseUnspecRefs]⟩
        have hw : childWeight .unspecifiedLocal P
            (GasNode.unspecifiedLocal P (pn.rootId.getD P) .zero 0 : GasNode E K M) = 1 := by
          simp [childWeight, GasNode.kind, GasNode.parent]
        have hroom := counter_fits .unspecifiedLocal hnew hpn hsh hcP
          (hfit P).2 hw
        rw [← hI.counted.unspec P pn hpn] at hroom
        obtain ⟨hL', hC'⟩ := addChild_inv hI.linked hI.counted hnew hpn hcan' rfl rfl rfl rfl hsh
          (by
            rw [show childWeight .specifiedLocal P (GasNode.unspecifiedLocal P (pn.rootId.getD P)
              .zero 0 : GasNode E K M) = 0 by simp [childWeight, GasNode.kind]]
            simp [GasNode.increaseUnspecRefs])
          (by rw [GasNode.unspecRefs_increaseUnspecRefs hcan', hw]; omega)
        refine ⟨hL', hC', settled_insert_two hI.settled
          (GasNode.settled_of_not_consumed rfl) ?_⟩
        exact (hI.settled P pn hpn).adjustRefs_true hcan' false
      · have h : valueSum ((s.insertNode newKey (.unspecifiedLocal P (pn.rootId.getD P) .zero 0)).insertNode
            P pn.increaseUnspecRefs) + pn.totalValue = valueSum s +
            (GasNode.unspecifiedLocal P (pn.rootId.getD P) .zero 0 : GasNode E K M).totalValue +
            pn.increaseUnspecRefs.totalValue := valueSum_insert_two hnew hpn hcP
        have hpv : pn.increaseUnspecRefs.totalValue = pn.totalValue := by
          simp [GasNode.increaseUnspecRefs]
        have hz : (GasNode.unspecifiedLocal P (pn.rootId.getD P) .zero 0 :
            GasNode E K M).totalValue = 0 := rfl
        omega

end Split

/-! ## `create_from_with_value` -/

section CreateFrom

variable {s : TreeState E K M} {key newKey : K} {amount : ℕ}
  {constructor : K → ℕ → GasNode E K M → K →
    Except GasTreeError (GasNode E K M × GasNode E K M)}

/-- The write `create_from_with_value` makes once its checks have passed: the
new node, then the provider less `amount`. -/
theorem createFromWithValue_ok {n pn pn' m : GasNode E K M} {pid : Option K} {v : ℕ}
    (hnew : s.nodes.lookup newKey = none) (hk : s.nodes.lookup key = some n)
    (hnwv : nodeWithValue s n = .ok (pn, pid)) (hcut : pn.isCut = false)
    (hv : pn.value = some v) (hle : amount ≤ v)
    (hc : constructor key amount pn (pid.getD key) = .ok (m, pn')) (hv' : pn'.value = some v) :
    createFromWithValue s key newKey amount constructor =
      (.ok (), (s.insertNode newKey m).insertNode (pid.getD key) (pn'.withValue (v - amount))) := by
  have hlt : ¬ v < amount := Nat.not_lt.2 hle
  simp [createFromWithValue, hnew, hk, hnwv, hcut, hv, hlt, hc, hv']

/-- On a linked storage `create_from_with_value` fails on its own checks only,
with a user error and without a write; past them the constructor decides, and
`hcons` says what its write achieves. -/
theorem createFromWithValue_outcome {P : Unit → TreeState E K M → Prop} (hL : Linked s)
    (hcons : ∀ n pn pid v, s.nodes.lookup newKey = none → s.nodes.lookup key = some n →
      nodeWithValue s n = .ok (pn, pid) → s.nodes.lookup (pid.getD key) = some pn →
      pn.isCut = false → pn.kind.canParent = true → pn.value = some v → amount ≤ v →
      ∃ m pn', constructor key amount pn (pid.getD key) = .ok (m, pn') ∧ pn'.value = some v ∧
        P () ((s.insertNode newKey m).insertNode (pid.getD key) (pn'.withValue (v - amount)))) :
    Outcome s P (createFromWithValue s key newKey amount constructor) := by
  cases hnew : s.nodes.lookup newKey with
  | some _ =>
    exact Outcome.of_error (e := .nodeAlreadyExists) (by simp [createFromWithValue, hnew]) rfl
  | none =>
    cases hk : s.nodes.lookup key with
    | none =>
      exact Outcome.of_error (e := .nodeNotFound) (by simp [createFromWithValue, hnew, hk]) rfl
    | some n =>
      obtain ⟨pn, pid, hnwv, hpn, hcan, -⟩ := provider_stored hL hk
      by_cases hcut : pn.isCut = true
      · exact Outcome.of_error (e := .forbidden)
          (by simp [createFromWithValue, hnew, hk, hnwv, hcut]) rfl
      rw [Bool.not_eq_true] at hcut
      -- a provider that may have children holds a value
      have hkind : pn.kind ≠ .unspecifiedLocal := by
        intro h
        have h' := hcan hcut
        rw [h] at h'
        cases h'
      obtain ⟨v, hv⟩ := GasNode.value_isSome_of_kind hkind
      by_cases hlt : v < amount
      · exact Outcome.of_error (e := .insufficientBalance)
          (by simp [createFromWithValue, hnew, hk, hnwv, hcut, hv, hlt]) rfl
      have hle : amount ≤ v := Nat.le_of_not_lt hlt
      obtain ⟨m, pn', hc, hv', hP⟩ := hcons n pn pid v hnew hk hnwv hpn hcut (hcan hcut) hv hle
      exact Outcome.of_ok (createFromWithValue_ok hnew hk hnwv hcut hv hle hc hv') hP

/-- What `create_from_with_value`'s write keeps, once the shape invariants of
the result are known: the new node holds exactly what the provider gave. -/
theorem keeps_take (bmax : ℕ) (hI : TreeInv s) {c P : K} {pn pn' m : GasNode E K M} {v : ℕ}
    (hc : s.nodes.lookup c = none) (hpn : s.nodes.lookup P = some pn)
    (hv : pn'.value = some v) (hle : amount ≤ v) (htv : pn'.totalValue = pn.totalValue)
    (hset : pn'.Settled) (hmc : m.isConsumed = false) (hmv : m.totalValue = amount)
    (hLC : Linked ((s.insertNode c m).insertNode P (pn'.withValue (v - amount))) ∧
      Counted ((s.insertNode c m).insertNode P (pn'.withValue (v - amount)))) :
    Keeps bmax s () ((s.insertNode c m).insertNode P (pn'.withValue (v - amount))) := by
  have hcP : c ≠ P := by
    rintro rfl
    rw [hc] at hpn
    cases hpn
  refine ⟨⟨hLC.1, hLC.2, settled_insert_two hI.settled (GasNode.settled_of_not_consumed hmc)
    (hset.withValue_le hv (Nat.sub_le v amount))⟩, rfl, fun _ => ?_⟩
  have h1 : valueSum ((s.insertNode c m).insertNode P (pn'.withValue (v - amount))) +
      pn.totalValue = valueSum s + m.totalValue + (pn'.withValue (v - amount)).totalValue :=
    valueSum_insert_two hc hpn hcP
  have h2 := pn'.totalValue_withValue hv (v - amount)
  omega

/-- `split_with_value` adds a specified child holding `amount`, which its
provider counts. -/
theorem splitWithValue_spec (bmax : ℕ) (hI : TreeInv s) (key newKey : K) (amount : ℕ) :
    Outcome s (fun a s' => ChildCountsFit s' → Keeps bmax s a s')
      (splitWithValue s key newKey amount) := by
  apply createFromWithValue_outcome hI.linked
  intro n pn pid v hnew hk hnwv hpn hcut hcan hv hle
  generalize hP : pid.getD key = P at hpn
  have hv' : pn.increaseSpecRefs.value = some v := by
    rw [GasNode.increaseSpecRefs, GasNode.value_adjustRefs, hv]
  refine ⟨_, _, rfl, hv', fun hfit => ?_⟩
  -- the new child and the provider's counter
  have hcP : newKey ≠ P := by
    rintro rfl
    rw [hnew] at hpn
    cases hpn
  have hsh : SameShape (pn.increaseSpecRefs.withValue (v - amount)) pn :=
    ⟨by simp [GasNode.increaseSpecRefs], by simp [GasNode.increaseSpecRefs],
      by simp [GasNode.increaseSpecRefs]⟩
  have hw : childWeight .specifiedLocal P
      (GasNode.specifiedLocal P (pn.rootId.getD P) amount .zero 0 {} false : GasNode E K M) = 1 := by
    simp [childWeight, GasNode.kind, GasNode.parent]
  have hroom := counter_fits .specifiedLocal hnew hpn hsh hcP (hfit P).1 hw
  rw [← hI.counted.spec P pn hpn] at hroom
  have hLC := addChild_inv hI.linked hI.counted hnew hpn hcan rfl rfl rfl rfl hsh
    (by
      rw [hw, GasNode.specRefs_withValue, GasNode.specRefs_increaseSpecRefs hcan]
      omega)
    (by
      rw [show childWeight .unspecifiedLocal P (GasNode.specifiedLocal P (pn.rootId.getD P)
        amount .zero 0 {} false : GasNode E K M) = 0 by simp [childWeight, GasNode.kind]]
      simp [GasNode.increaseSpecRefs])
  exact keeps_take bmax hI hnew hpn hv' hle (by simp [GasNode.increaseSpecRefs])
    ((hI.settled P pn hpn).adjustRefs_true hcan true) rfl rfl hLC

/-- The roots `cut`, `create_deposit` and `reserve` build: from the origin of
`key`, a node holding `value`, with no parent, no children and not consumed. -/
theorem originRoot_spec (bmax : ℕ) (hI : TreeInv s) (key newKey : K) (amount : ℕ)
    (mk : E → M → ℕ → GasNode E K M)
    (hmk : ∀ o m v, (mk o m v).parent = none ∧ (mk o m v).specRefs = 0 ∧
      (mk o m v).unspecRefs = 0 ∧ (mk o m v).isConsumed = false ∧ (mk o m v).totalValue = v) :
    Outcome s (Keeps bmax s) (createFromWithValue s key newKey amount
      fun key value parentNode _ =>
        match getOriginNode s key with
        | .error e => .error e
        | .ok (id, multiplier, _) => .ok (mk id multiplier value, parentNode)) := by
  apply createFromWithValue_outcome hI.linked
  intro n pn pid v hnew hk hnwv hpn _ _ hv hle
  obtain ⟨o, mu, rt, ho⟩ := getOriginNode_ok hI.linked hk
  obtain ⟨hmp, hms, hmu, hmc, hmv⟩ := hmk o mu amount
  refine ⟨mk o mu amount, pn, by simp [ho], hv, ?_⟩
  -- a root beside the tree, and a provider write of the same shape
  obtain ⟨hL1, hC1⟩ := addRoot_inv hI.linked hI.counted hnew hmp hms hmu
  have hcP : newKey ≠ pid.getD key := by
    rintro rfl
    rw [hnew] at hpn
    cases hpn
  have hpn1 : (s.insertNode newKey (mk o mu amount)).nodes.lookup (pid.getD key) = some pn := by
    rw [lookup_insertNode_ne _ _ (Ne.symm hcP)]
    exact hpn
  have hsh : SameShape (pn.withValue (v - amount)) pn := ⟨by simp, by simp, by simp⟩
  exact keeps_take bmax hI hnew hpn hv hle rfl (hI.settled _ pn hpn) hmc hmv
    ⟨hL1.payload hpn1 hsh, hC1.payload hpn1 hsh (by simp) (by simp)⟩

theorem cut_spec (bmax : ℕ) (hI : TreeInv s) (key newKey : K) (amount : ℕ) :
    Outcome s (Keeps bmax s) (cut s key newKey amount) :=
  originRoot_spec bmax hI key newKey amount (fun o m v => .cut o m v .zero)
    fun _ _ _ => ⟨rfl, rfl, rfl, rfl, rfl⟩

theorem createDeposit_spec (bmax : ℕ) (hI : TreeInv s) (key newKey : K) (amount : ℕ) :
    Outcome s (Keeps bmax s) (createDeposit s key newKey amount) :=
  originRoot_spec bmax hI key newKey amount (fun o m v => GasNode.new o m v true)
    fun _ _ _ => ⟨rfl, rfl, rfl, rfl, rfl⟩

theorem reserve_spec (bmax : ℕ) (hI : TreeInv s) (key newKey : K) (amount : ℕ) :
    Outcome s (Keeps bmax s) (reserve s key newKey amount) :=
  originRoot_spec bmax hI key newKey amount (fun o m v => .reserved o m v .zero {} false)
    fun _ _ _ => ⟨rfl, rfl, rfl, rfl, rfl⟩

end CreateFrom

/-! ## `create` -/

section Create

variable {s : TreeState E K M}

/-- A fresh root that is not consumed and has no children keeps `TreeInv`. -/
theorem TreeInv.addRoot (hI : TreeInv s) {c : K} {m : GasNode E K M}
    (hc : s.nodes.lookup c = none) (hmp : m.parent = none) (hms : m.specRefs = 0)
    (hmu : m.unspecRefs = 0) (hmc : m.isConsumed = false) : TreeInv (s.insertNode c m) := by
  obtain ⟨hL, hC⟩ := addRoot_inv hI.linked hI.counted hc hmp hms hmu
  refine ⟨hL, hC, fun j n hj => ?_⟩
  by_cases hjc : j = c
  · subst hjc
    rw [lookup_insertNode_self, Option.some.injEq] at hj
    rw [← hj]
    exact GasNode.settled_of_not_consumed hmc
  · rw [lookup_insertNode_ne _ _ hjc] at hj
    exact hI.settled j n hj

/-- `create` inserts its root before it touches the total, so the nodes keep
`TreeInv` even when the total overflows. -/
theorem create_treeInv (bmax : ℕ) (hI : TreeInv s) (origin : E) (multiplier : M) (key : K)
    (amount : ℕ) : TreeInv (create bmax s origin multiplier key amount).2 := by
  cases hk : s.nodes.lookup key with
  | some _ =>
    have h : (create bmax s origin multiplier key amount).2 = s := by simp [create, hk]
    rw [h]
    exact hI
  | none =>
    have hroot : TreeInv (s.insertNode key (GasNode.new origin multiplier amount false)) :=
      hI.addRoot hk rfl rfl rfl rfl
    cases ht : positiveApplyTo bmax amount s.total with
    | none =>
      have h : (create bmax s origin multiplier key amount).2 =
          (s.insertNode key (GasNode.new origin multiplier amount false)).mutateTotal none := by
        simp [create, hk, ht]
      rw [h]
      exact hroot.mutateTotal none
    | some t =>
      have h : (create bmax s origin multiplier key amount).2 =
          (s.insertNode key (GasNode.new origin multiplier amount false)).mutateTotal (some t) := by
        simp [create, hk, ht]
      rw [h]
      exact hroot.mutateTotal (some t)

/-- Below the balance ceiling `create` of a fresh key adds its root and
`amount` to the total. -/
theorem create_ok (bmax : ℕ) (origin : E) (multiplier : M) {key : K} {amount : ℕ}
    (hk : s.nodes.lookup key = none) (hb : s.totalSupply + amount ≤ bmax) :
    create bmax s origin multiplier key amount =
      (.ok amount, (s.insertNode key (GasNode.new origin multiplier amount false)).mutateTotal
        (some (s.totalSupply + amount))) := by
  unfold totalSupply at hb ⊢
  simp [create, hk, positiveApplyTo, hb]

/-- On a storage whose total is its value sum, a `create` that keeps the value
sum below the balance ceiling fails only on a taken key, without a write, or
adds `amount` both to the nodes and to the total. -/
theorem create_outcome (bmax : ℕ) (hS : StateInv s) (origin : E) (multiplier : M) (key : K)
    (amount : ℕ) (hb : valueSum s + amount ≤ bmax) :
    Outcome s (fun a s' => StateInv s' ∧ a = amount ∧ s'.totalSupply = s.totalSupply + amount)
      (create bmax s origin multiplier key amount) := by
  cases hk : s.nodes.lookup key with
  | some _ => exact Outcome.of_error (e := .nodeAlreadyExists) (by simp [create, hk]) rfl
  | none =>
    rw [← hS.supply] at hb
    refine Outcome.of_ok (create_ok bmax origin multiplier hk hb) ⟨⟨?_, ?_⟩, rfl, rfl⟩
    · exact (hS.tree.addRoot hk rfl rfl rfl rfl).mutateTotal _
    · have hv : valueSum (s.insertNode key (GasNode.new origin multiplier amount false)) =
          valueSum s + (GasNode.new origin multiplier amount false : GasNode E K M).totalValue :=
        valueSum_insertNode_fresh hk
      have hnv : (GasNode.new origin multiplier amount false : GasNode E K M).totalValue =
          amount := rfl
      rw [valueSum_mutateTotal, hv, hnv, ← hS.supply]
      rfl

end Create

end Gear.GasTree
