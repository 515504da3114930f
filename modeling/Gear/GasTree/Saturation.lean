import Gear.GasTree.Run

/-!
# Saturated children counters

The children counters of a node are `u32`s that saturate (`adjust_refs`): a
provider with `u32::MAX` unspecified children counts a further one as
nothing. `split` does not check this, so `u32::MAX + 1` splits of one node
leave a counter one below the number of children, and from then on the
counters no longer say which nodes may be removed.

The paths below are computed without any invariant; the runs built from them
show what follows. After `2 ^ 32` splits the counters are wrong
(`run_splits_miscount`). Consuming all but one of the children then brings
the provider's counter to zero while one child is left; the provider, which
was consumed, stops being a patron, and gives its value up. A value that is
unlocked in the remaining child flows back into it, and when its last
specified child is consumed the provider is removed with that value still in
it: the total no longer equals the value the nodes hold
(`run_loses_value_past_u32`), and the child left behind has lost its parent
(`run_reaches_invariant_errors`).
-/

namespace Gear.GasTree

variable {E K M : Type} [DecidableEq K]

open TreeState TreeImpl

/-! ## Paths computed without the invariant -/

section Paths

variable (bmax : ℕ) {s : TreeState E K M}

/-- `split` under a provider that is neither unspecified nor a cut. -/
theorem split_of_provider {key newKey : K} {n : GasNode E K M}
    (hk : s.nodes.lookup key = some n) (hu : n.kind ≠ .unspecifiedLocal) (hcut : n.isCut = false)
    (hnew : s.nodes.lookup newKey = none) :
    split s key newKey = (.ok (), (s.insertNode newKey
      (.unspecifiedLocal key (n.rootId.getD key) .zero 0)).insertNode key n.increaseUnspecRefs) := by
  have hr : n.increaseUnspecRefs.rootId = n.rootId := by simp [GasNode.increaseUnspecRefs]
  simp [split, hk, nodeWithValue_of_kind_ne hu, hcut, hnew, hr]

/-- The walk of `try_remove_consumed_ancestors` stops at once at a patron. -/
theorem tryRemoveConsumedAncestors_patron {key : K} {node : GasNode E K M} {o : E} {m : M}
    (hk : s.nodes.lookup key = some node) (hpat : node.isPatron = true)
    (hx : node.externalData = some (o, m)) (co : CatchValueOutput) :
    tryRemoveConsumedAncestors bmax s key co = (.ok none, s) := by
  obtain ⟨fuel, hfuel⟩ : ∃ fuel, s.nodes.entries.length = fuel + 1 :=
    ⟨_, (Nat.succ_pred_eq_of_pos (size_pos_of_lookup hk)).symm⟩
  simp only [tryRemoveConsumedAncestors, hk, getOriginNode, hx, hfuel]
  exact removeAncestorsLoop_patron bmax o m fuel hpat

/-- A root that is no patron but keeps specified children gives its value up
to the walk and stays. -/
theorem tryRemoveConsumedAncestors_catch_keep {key : K} {node : GasNode E K M} {o : E} {m : M}
    {v : ℕ} (hk : s.nodes.lookup key = some node) (hpat : node.isPatron = false)
    (hkind : node.kind = .external) (hv : node.value = some v)
    (hx : node.externalData = some (o, m)) (hs : node.specRefs ≠ 0) :
    tryRemoveConsumedAncestors bmax s key .blocked =
      (.ok (some (v, m, o)), s.insertNode key (node.withValue 0)) := by
  obtain ⟨fuel, hfuel⟩ : ∃ fuel, s.nodes.entries.length = fuel + 1 :=
    ⟨_, (Nat.succ_pred_eq_of_pos (size_pos_of_lookup hk)).symm⟩
  have hcatch : (if CatchValueOutput.blocked.isBlocked then catchValue bmax s node
      else .ok (.blocked, node, s)) = .ok (.caught v, node.withValue 0, s) := by
    show catchValue bmax s node = _
    exact catchValue_root bmax hpat (Or.inl hkind) hv
  have hco : (if CatchValueOutput.blocked.isCaught = true then CatchValueOutput.caught 0
      else CatchValueOutput.blocked) = .blocked := rfl
  simp only [tryRemoveConsumedAncestors, hk, getOriginNode, hx, hfuel, hco]
  rw [removeAncestorsLoop_keep bmax o m fuel hpat hcatch rfl (by rw [GasNode.specRefs_withValue]; exact hs)]
  rfl

/-- `consume` of an unspecified leaf: it is removed, its parent counts one
unspecified child less, and the walk starts at the parent, blocked. -/
theorem consume_unspecifiedLocal_eq {key p rt rt' : K} {l : NodeLock} {pn : GasNode E K M}
    {o : E} {m : M} {out : ConsumeOutput E M} {s' : TreeState E K M}
    (hk : s.nodes.lookup key = some (.unspecifiedLocal p rt l 0)) (hl : l.isZero = true)
    (ho : getOriginNode s key = .ok (o, m, rt')) (hp : s.nodes.lookup p = some pn)
    (hpref : pn.refs ≠ 0)
    (htry : tryRemoveConsumedAncestors bmax ((s.insertNode p pn.decreaseUnspecRefs).removeNode key)
      p .blocked = (.ok out, s')) :
    consume bmax s key = consumeTail out s' := by
  have hdec : decreaseParentsRef s (.unspecifiedLocal p rt l 0 : GasNode E K M) =
      .ok (s.insertNode p pn.decreaseUnspecRefs) := by
    simp [decreaseParentsRef, GasNode.parent, hp, hpref]
  have hcatch := catchValue_blocked bmax (s := s) (n := (.unspecifiedLocal p rt l 0 : GasNode E K M))
    (Or.inr rfl)
  simp only [consume, hk, hl, GasNode.isConsumed, GasNode.lock, GasNode.systemReserve,
    GasNode.markConsumed, Bool.not_true, Bool.false_eq_true, if_false, hcatch, ho]
  simp only [GasNode.refs, GasNode.specRefs, GasNode.unspecRefs, hdec]
  simp [CatchValueOutput.isBlocked, htry]
  cases out <;> rfl

/-- `consume` of a root that is still a patron once marked: it stays, marked,
and nothing is caught. -/
theorem consume_patron_root {key : K} {node : GasNode E K M} {o : E} {m : M}
    (hk : s.nodes.lookup key = some node) (hc : node.isConsumed = false)
    (hl : node.lock.isZero = true) (hsr : node.systemReserve.getD 0 = 0)
    (hpat : node.markConsumed.isPatron = true) (hx : node.externalData = some (o, m))
    (hkind : node.kind = .external ∨ node.kind = .reserved) :
    consume bmax s key = (.ok none, s.insertNode key node.markConsumed) := by
  have hcan : node.kind.canParent = true := by
    rcases hkind with h | h <;> rw [h] <;> rfl
  have hu : node.unspecRefs ≠ 0 := by
    rw [← GasNode.unspecRefs_markConsumed]
    exact GasNode.unspecRefs_ne_zero_of_isPatron hpat (GasNode.isConsumed_markConsumed hcan)
  have hrefs : node.markConsumed.refs ≠ 0 := by
    rw [Ne, GasNode.refs_eq_zero_iff, GasNode.unspecRefs_markConsumed]
    exact fun h => hu h.2
  have hnc : (node.markConsumed.isCut || node.markConsumed.isUnspecifiedLocal) = false := by
    rcases hkind with h | h <;> cases node <;> simp_all [GasNode.kind, GasNode.isCut,
      GasNode.isUnspecifiedLocal, GasNode.markConsumed]
  have hor : getOriginNode s key = .ok (o, m, key) := by
    simp [getOriginNode, hk, hx]
  simp only [consume, hk, hc, hl, systemReserve_any_eq_false hsr, Bool.not_true,
    Bool.false_eq_true, if_false, catchValue_blocked bmax (Or.inl hpat), hor, hrefs, hnc]
  rfl

omit [DecidableEq K] in
theorem isExternal_of_kind {n : GasNode E K M} (h : n.kind = .external) : n.isExternal = true := by
  cases n <;> simp_all [GasNode.kind, GasNode.isExternal]

/-- The provider of an unspecified node under an `External` parent. -/
theorem nodeWithValue_of_external_parent {p rt : K} {l : NodeLock} {sr : ℕ} {pn : GasNode E K M}
    (hp : s.nodes.lookup p = some pn) (hpk : pn.kind = .external) :
    nodeWithValue s (.unspecifiedLocal p rt l sr) = .ok (pn, some p) := by
  simp [nodeWithValue, hp, isExternal_of_kind hpk]

/-- The origin of a local node whose root is stored. -/
theorem getOriginNode_of_root {key rt : K} {n rn : GasNode E K M} {o : E} {m : M}
    (hk : s.nodes.lookup key = some n) (hx : n.externalData = none) (hr : n.rootId = some rt)
    (hrn : s.nodes.lookup rt = some rn) (hrx : rn.externalData = some (o, m)) :
    getOriginNode s key = .ok (o, m, rt) := by
  simp only [getOriginNode, hk, hx, hr, hrn, hrx]

/-- `lock` of an unspecified node: the parent provides, the node's slot
grows. -/
theorem lock_of_parent {key p rt : K} {l : NodeLock} {pn : GasNode E K M} {v amount : ℕ}
    (id : LockId) (hk : s.nodes.lookup key = some (.unspecifiedLocal p rt l 0))
    (hp : s.nodes.lookup p = some pn) (hpk : pn.kind = .external) (hv : pn.value = some v)
    (hle : amount ≤ v) (h0 : amount ≠ 0) (hkp : key ≠ p) :
    lock bmax s key id amount = (.ok (), (s.insertNode p (pn.withValue (v - amount))).insertNode
      key (.unspecifiedLocal p rt (l.set id (saturatingAdd bmax (l.get id) amount)) 0)) := by
  have hlt : ¬ v < amount := Nat.not_lt.2 hle
  simp [lock, hk, GasNode.isConsumed, h0, nodeWithValue_of_external_parent hp hpk, hv, hlt, hkp,
    GasNode.withLock, GasNode.lock]

/-- `unlock` of an unspecified node: the slot shrinks, the parent gets the
value back. -/
theorem unlock_of_parent {key p rt : K} {l : NodeLock} {pn : GasNode E K M} {v amount : ℕ}
    (id : LockId) (hk : s.nodes.lookup key = some (.unspecifiedLocal p rt l 0))
    (hle : amount ≤ l.get id) (h0 : amount ≠ 0) (hp : s.nodes.lookup p = some pn)
    (hpk : pn.kind = .external) (hv : pn.value = some v) :
    unlock bmax s key id amount = (.ok (), (s.insertNode key
      (.unspecifiedLocal p rt (l.set id (l.get id - amount)) 0)).insertNode p
        (pn.withValue (saturatingAdd bmax v amount))) := by
  have hlt : ¬ l.get id < amount := Nat.not_lt.2 hle
  simp [unlock, hk, GasNode.isConsumed, h0, GasNode.lock, hlt, GasNode.withLock,
    nodeWithValue_of_external_parent hp hpk, hv]

/-- The steps of `consume` before the walk, at the last specified child `c`
of a root that is no patron: the marked child's value is caught, its origin
is the root's, and its removal takes one off the root's specified counter. -/
theorem last_specified_child_steps {c p : K} {v : ℕ} {l : NodeLock} {pn : GasNode E K M}
    {o : E} {m : M} (hk : s.nodes.lookup c = some (.specifiedLocal p p v l 0 {} false))
    (hp : s.nodes.lookup p = some pn) (hpk : pn.kind = .external)
    (hpat : pn.isPatron = false) (hx : pn.externalData = some (o, m)) (hspec : pn.specRefs = 1) :
    catchValue bmax s (.specifiedLocal p p v l 0 {} true : GasNode E K M) =
        .ok (.caught v, .specifiedLocal p p 0 l 0 {} true, s) ∧
      getOriginNode s c = .ok (o, m, p) ∧
      decreaseParentsRef s (.specifiedLocal p p 0 l 0 {} true : GasNode E K M) =
        .ok (s.insertNode p pn.decreaseSpecRefs) := by
  -- the child, marked: no patron, with no patron above it
  have hfind : findAncestorPatron s (.specifiedLocal p p v l 0 {} true : GasNode E K M) =
      .ok none := by
    obtain ⟨fuel, hfuel⟩ : ∃ fuel, s.nodes.entries.length = fuel + 1 :=
      ⟨_, (Nat.succ_pred_eq_of_pos (size_pos_of_lookup hp)).symm⟩
    simp only [findAncestorPatron, hp, hfuel, findPatronLoop, hpat, Bool.false_eq_true, if_false]
    cases pn <;> simp_all [GasNode.kind]
  refine ⟨?_, ?_, ?_⟩
  · simp [catchValue, GasNode.isPatron, GasNode.isUnspecifiedLocal, hfind, GasNode.value,
      GasNode.withValue]
  · have hnx : (GasNode.specifiedLocal p p v l 0 {} false : GasNode E K M).externalData = none :=
      rfl
    have hnr : (GasNode.specifiedLocal p p v l 0 {} false : GasNode E K M).rootId = some p := rfl
    simp only [getOriginNode, hk, hnx, hnr, hp, hx]
  · have hpref : pn.refs ≠ 0 := by
      unfold GasNode.refs u32Max
      omega
    simp [decreaseParentsRef, GasNode.parent, hp, hpref]

/-- `consume` of the last specified child of a consumed root that is no
patron: the child's value is caught and the root is removed. The walk reuses
the child's caught output, so whatever value the root still holds is not
caught with it. -/
theorem consume_last_specified_child {c p : K} {v : ℕ} {l : NodeLock} {pn : GasNode E K M}
    {o : E} {m : M} (hk : s.nodes.lookup c = some (.specifiedLocal p p v l 0 {} false))
    (hl : l.isZero = true) (hp : s.nodes.lookup p = some pn) (hpk : pn.kind = .external)
    (hpat : pn.isPatron = false) (hx : pn.externalData = some (o, m)) (hspec : pn.specRefs = 1)
    (hcp : c ≠ p) :
    consume bmax s c = consumeTail (some (v, m, o))
      (((s.insertNode p pn.decreaseSpecRefs).removeNode c).removeNode p) := by
  obtain ⟨hcatch, hor, hdec⟩ := last_specified_child_steps bmax hk hp hpk hpat hx hspec
  -- the walk at the root: no patron, no specified child left, removed
  have htry : tryRemoveConsumedAncestors bmax ((s.insertNode p pn.decreaseSpecRefs).removeNode c) p
      (.caught v) = (.ok (some (0, m, o)),
        (((s.insertNode p pn.decreaseSpecRefs).removeNode c).removeNode p)) := by
    have hp' : ((s.insertNode p pn.decreaseSpecRefs).removeNode c).nodes.lookup p =
        some pn.decreaseSpecRefs := by
      rw [lookup_removeNode_ne _ (Ne.symm hcp), lookup_insertNode_self]
    obtain ⟨fuel, hfuel⟩ : ∃ fuel,
        ((s.insertNode p pn.decreaseSpecRefs).removeNode c).nodes.entries.length = fuel + 1 :=
      ⟨_, (Nat.succ_pred_eq_of_pos (size_pos_of_lookup hp')).symm⟩
    have hx' : pn.decreaseSpecRefs.externalData = some (o, m) := by
      rw [GasNode.decreaseSpecRefs, GasNode.externalData_adjustRefs, hx]
    have hpat' : pn.decreaseSpecRefs.isPatron = false := by
      rw [GasNode.decreaseSpecRefs, GasNode.isPatron_adjustRefs_spec, hpat]
    have hs0 : pn.decreaseSpecRefs.specRefs = 0 := by
      rw [GasNode.specRefs_decreaseSpecRefs, hspec]
    have hco : (if (CatchValueOutput.caught v).isCaught = true then CatchValueOutput.caught 0
        else CatchValueOutput.caught v) = .caught 0 := rfl
    simp only [tryRemoveConsumedAncestors, hp', getOriginNode, hx', hfuel, hco]
    rw [removeAncestorsLoop_root bmax o m fuel hpat' rfl rfl rfl hs0
      (Or.inl (by rw [GasNode.decreaseSpecRefs, GasNode.kind_adjustRefs, hpk]))]
    rfl
  simp only [consume, hk, hl, GasNode.isConsumed, GasNode.lock, GasNode.systemReserve,
    GasNode.markConsumed, Bool.not_true, Bool.false_eq_true, if_false, hcatch, hor]
  simp [GasNode.refs, GasNode.specRefs, GasNode.unspecRefs, hdec, CatchValueOutput.isBlocked,
    CatchValueOutput.intoConsumeOutput, htry]
  rfl

omit [DecidableEq K] in
/-- The storage a consume leaves when the total takes the value it gives up. -/
theorem consumeTail_some_snd {v t : ℕ} {mo : M × E}
    (h : negativeApplyTo v s.total = some t) :
    (consumeTail (some (v, mo)) s).2 = s.mutateTotal (some t) := by
  simp only [consumeTail, h]

/-- A spend from an unspecified node whose parent is gone. -/
theorem spend_of_parent_lost {key p rt : K} {l : NodeLock} {sr : ℕ} (amount : ℕ)
    (hk : s.nodes.lookup key = some (.unspecifiedLocal p rt l sr)) (hp : s.nodes.lookup p = none) :
    ((Op.spend key amount : Op E K M).apply bmax s).1 = .error .parentIsLost := by
  simp [Op.apply, withResult, spend, hk, nodeWithValue, hp, Except.map]

end Paths

/-- The storage after one `consume` call of a run. -/
theorem consume_apply_snd (bmax : ℕ) (s : TreeState E K M) (key : K) :
    ((Op.consume key : Op E K M).apply bmax s).2 = (consume bmax s key).2 := rfl

/-- The storage after one `unlock` call of a run. -/
theorem unlock_apply_snd (bmax : ℕ) (s : TreeState E K M) (key : K) (id : LockId) (amount : ℕ) :
    ((Op.unlock key id amount : Op E K M).apply bmax s).2 = (unlock bmax s key id amount).2 := rfl

theorem run_snoc (bmax : ℕ) (s : TreeState E K M) (ops : List (Op E K M)) (op : Op E K M) :
    run bmax s (ops ++ [op]) = (op.apply bmax (run bmax s ops)).2 := by
  rw [run_append]
  rfl

/-! ## The saturation run

Keys are numbers: the `External` root `0` holding 10, its specified child `1`
holding nothing, and unspecified children `i + 2`. The balance type is
`u64`. -/

section Run

/-- The two calls before the splits. -/
theorem run_root_and_spec :
    let s := run u64Max (.empty : TreeState Unit ℕ Unit) [.create () () 0 10, .splitWithValue 0 1 0]
    s.nodes.lookup 0 = some (.external () () 10 .zero 0 ⟨1, 0⟩ false false) ∧
      s.nodes.lookup 1 = some (.specifiedLocal 0 0 0 .zero 0 {} false) ∧
      (∀ i, s.nodes.lookup (i + 2) = none) ∧ children .unspecifiedLocal s 0 = 0 ∧
      s.total = some 10 :=
  ⟨rfl, rfl, fun _ => rfl, rfl, rfl⟩

/-- The storage after the two calls and `k` splits of `0` into `i + 2`. -/
structure SplitsDone (k : ℕ) (s : TreeState Unit ℕ Unit) : Prop where
  root : s.nodes.lookup 0 = some (.external () () 10 .zero 0 ⟨1, min k u32Max⟩ false false)
  spec : s.nodes.lookup 1 = some (.specifiedLocal 0 0 0 .zero 0 {} false)
  leaves : ∀ i, s.nodes.lookup (i + 2) = if i < k then some (.unspecifiedLocal 0 0 .zero 0) else none
  count : children .unspecifiedLocal s 0 = k
  total : s.total = some 10

/-- The calls `split 0 (i + 2)` for `i < k`. -/
theorem splitsDone_run (k : ℕ) :
    SplitsDone k (run u64Max .empty ([.create () () 0 10, .splitWithValue 0 1 0] ++
      (List.range k).map fun i => .split 0 (i + 2))) := by
  induction k with
  | zero =>
    obtain ⟨h0, h1, h2, hc, ht⟩ := run_root_and_spec
    exact ⟨h0, h1, fun i => by rw [if_neg (Nat.not_lt_zero i)]; exact h2 i, hc, ht⟩
  | succ k ih =>
    rw [List.range_succ, List.map_append, ← List.append_assoc, List.map_singleton, run_snoc]
    obtain ⟨h0, h1, h2, hc, ht⟩ := ih
    set s := run u64Max .empty ([.create () () 0 10, .splitWithValue 0 1 0] ++
      (List.range k).map fun i => Op.split 0 (i + 2))
    have hnew : s.nodes.lookup (k + 2) = none := by
      rw [h2 k, if_neg (lt_irrefl k)]
    have heq := split_of_provider (s := s) h0 (by simp [GasNode.kind]) rfl hnew
    simp only [Op.apply, withResult, heq]
    -- the provider counts one more, up to `u32::MAX`
    have hroot : (GasNode.external () () 10 .zero 0 ⟨1, min k u32Max⟩ false false :
        GasNode Unit ℕ Unit).increaseUnspecRefs =
        .external () () 10 .zero 0 ⟨1, min (k + 1) u32Max⟩ false false := by
      simp only [GasNode.increaseUnspecRefs, GasNode.adjustRefs, GasNode.adjustRefs.bump]
      congr 2
      omega
    have hr : (GasNode.external () () 10 .zero 0 ⟨1, min k u32Max⟩ false false :
        GasNode Unit ℕ Unit).rootId.getD 0 = 0 := rfl
    rw [hroot, hr]
    have hk0 : (s.insertNode (k + 2) (.unspecifiedLocal 0 0 .zero 0)).nodes.lookup 0 =
        some (.external () () 10 .zero 0 ⟨1, min k u32Max⟩ false false) := by
      rw [lookup_insertNode_ne _ _ (by omega)]
      exact h0
    refine ⟨lookup_insertNode_self _ _ _, ?_, fun i => ?_, ?_, ht⟩
    · rw [lookup_insertNode_ne _ _ (by omega), lookup_insertNode_ne _ _ (by omega)]
      exact h1
    · rw [lookup_insertNode_ne _ _ (by omega)]
      by_cases hik : i = k
      · subst hik
        rw [lookup_insertNode_self, if_pos (Nat.lt_succ_self i)]
      · rw [lookup_insertNode_ne _ _ (by omega), h2 i]
        by_cases hlt : i < k
        · rw [if_pos hlt, if_pos (by omega)]
        · rw [if_neg hlt, if_neg (by omega)]
    · have hsame : children .unspecifiedLocal ((s.insertNode (k + 2) (.unspecifiedLocal 0 0 .zero 0)).insertNode
          0 (.external () () 10 .zero 0 ⟨1, min (k + 1) u32Max⟩ false false)) 0 =
          children .unspecifiedLocal (s.insertNode (k + 2) (.unspecifiedLocal 0 0 .zero 0)) 0 :=
        children_insertNode_same _ _ hk0 rfl rfl
      rw [hsame, children_insertNode_fresh _ _ hnew, hc]
      simp [childWeight, GasNode.kind, GasNode.parent]

/-- After `2 ^ 32` splits the unspecified counter of `0` has stopped at
`u32::MAX`, one below the number of its unspecified children. -/
theorem run_splits_miscount :
    ¬ Counted (run u64Max (.empty : TreeState Unit ℕ Unit)
      ([.create () () 0 10, .splitWithValue 0 1 0] ++
        (List.range (2 ^ 32)).map fun i => .split 0 (i + 2))) := by
  intro hC
  have h := splitsDone_run (2 ^ 32)
  have hcount := hC.unspec 0 _ h.root
  rw [h.count] at hcount
  simp [GasNode.unspecRefs, u32Max] at hcount

/-- The calls before the consumes of the unspecified children: the splits, a
lock of 5 in the child `2`, and the root consumed, which stays as a patron. -/
def lockAndConsumeRoot : List (Op Unit ℕ Unit) :=
  [.create () () 0 10, .splitWithValue 0 1 0] ++
    (List.range (2 ^ 32)).map (fun i => .split 0 (i + 2)) ++ [.lock 2 .mailbox 5, .consume 0]

/-- The storage after `lockAndConsumeRoot` and the consumes of the children
`i + 3` for `i < k`: the root has `u32::MAX - k` unspecified children left on
its counter, the locked child `2` and the children `i + 3` for
`k ≤ i < u32::MAX` are left. -/
structure ConsumesDone (k : ℕ) (s : TreeState Unit ℕ Unit) : Prop where
  root : s.nodes.lookup 0 = some (.external () () 5 .zero 0 ⟨1, u32Max - k⟩ true false)
  spec : s.nodes.lookup 1 = some (.specifiedLocal 0 0 0 .zero 0 {} false)
  locked : s.nodes.lookup 2 = some (.unspecifiedLocal 0 0 (NodeLock.zero.set .mailbox 5) 0)
  leaves : ∀ i, s.nodes.lookup (i + 3) =
    if k ≤ i ∧ i < u32Max then some (.unspecifiedLocal 0 0 .zero 0) else none
  total : s.total = some 10

theorem consumesDone_zero : ConsumesDone 0 (run u64Max .empty lockAndConsumeRoot) := by
  obtain ⟨h0, h1, h2, -, ht⟩ := splitsDone_run (2 ^ 32)
  unfold lockAndConsumeRoot
  rw [run_append, run_cons, run_cons, run_nil]
  generalize run u64Max .empty ([.create () () 0 10, .splitWithValue 0 1 0] ++
    (List.range (2 ^ 32)).map fun i => Op.split 0 (i + 2)) = s at h0 h1 h2 ht ⊢
  have hmin : min (2 ^ 32) u32Max = u32Max := by decide
  rw [hmin] at h0
  have hleaf : s.nodes.lookup 2 = some (.unspecifiedLocal 0 0 .zero 0) := by
    rw [h2 0, if_pos (by decide)]
  -- the lock: 5 of the root's value into the child's mailbox slot
  have hlock : lock u64Max s 2 .mailbox 5 = _ :=
    lock_of_parent u64Max .mailbox hleaf h0 rfl rfl (by decide) (by decide) (by decide)
  have hsat : saturatingAdd u64Max (NodeLock.zero.get .mailbox) 5 = 5 := by decide
  simp only [Op.apply, withResult, hlock, hsat]
  generalize hs1 : (s.insertNode 0 ((GasNode.external () () 10 .zero 0 ⟨1, u32Max⟩ false false :
    GasNode Unit ℕ Unit).withValue (10 - 5))).insertNode 2
      (.unspecifiedLocal 0 0 (NodeLock.zero.set .mailbox 5) 0) = s1
  have h10 : s1.nodes.lookup 0 = some (.external () () 5 .zero 0 ⟨1, u32Max⟩ false false) := by
    rw [← hs1, lookup_insertNode_ne _ _ (by decide), lookup_insertNode_self]
    rfl
  have hpat : (GasNode.external () () 5 .zero 0 ⟨1, u32Max⟩ false false :
      GasNode Unit ℕ Unit).markConsumed.isPatron = true := by
    simp [GasNode.markConsumed, GasNode.isPatron, u32Max]
  have hcons := consume_patron_root u64Max h10 rfl rfl rfl hpat rfl (Or.inl rfl)
  simp only [hcons]
  refine ⟨lookup_insertNode_self _ _ _, ?_, ?_, fun i => ?_, ?_⟩
  · rw [lookup_insertNode_ne _ _ (by decide), ← hs1, lookup_insertNode_ne _ _ (by decide),
      lookup_insertNode_ne _ _ (by decide)]
    exact h1
  · rw [lookup_insertNode_ne _ _ (by decide), ← hs1, lookup_insertNode_self]
  · rw [lookup_insertNode_ne _ _ (by omega), ← hs1, lookup_insertNode_ne _ _ (by omega),
      lookup_insertNode_ne _ _ (by omega), show i + 3 = (i + 1) + 2 by omega, h2 (i + 1)]
    by_cases hi : i < u32Max
    · rw [if_pos (by unfold u32Max at hi; omega), if_pos ⟨Nat.zero_le i, hi⟩]
    · rw [if_neg (by unfold u32Max at hi; omega), if_neg (fun h => hi h.2)]
  · rw [insertNode_total, ← hs1, insertNode_total, insertNode_total]
    exact ht

/-- The consumes of the children `i + 3` for `i < k` while the root keeps an
unspecified child on its counter: each child is removed, the root counts one
less and stays a patron. -/
theorem consumesDone_run (k : ℕ) (hk : k < u32Max) :
    ConsumesDone k (run u64Max .empty
      (lockAndConsumeRoot ++ (List.range k).map fun i => .consume (i + 3))) := by
  induction k with
  | zero =>
    simp only [List.range_zero, List.map_nil, List.append_nil]
    exact consumesDone_zero
  | succ k ih =>
    rw [List.range_succ, List.map_append, ← List.append_assoc, List.map_singleton, run_snoc]
    obtain ⟨h0, h1, h2, h3, ht⟩ := ih (by omega)
    generalize run u64Max .empty
      (lockAndConsumeRoot ++ (List.range k).map fun i => Op.consume (i + 3)) = s
      at h0 h1 h2 h3 ht ⊢
    have hleaf : s.nodes.lookup (k + 3) = some (.unspecifiedLocal 0 0 .zero 0) := by
      rw [h3 k, if_pos ⟨le_rfl, by omega⟩]
    have ho : getOriginNode s (k + 3) = .ok ((), (), 0) :=
      getOriginNode_of_root hleaf rfl rfl h0 rfl
    -- the root counts one unspecified child less and is still a patron
    have hdec : (GasNode.external () () 5 .zero 0 ⟨1, u32Max - k⟩ true false :
        GasNode Unit ℕ Unit).decreaseUnspecRefs =
        .external () () 5 .zero 0 ⟨1, u32Max - (k + 1)⟩ true false := by
      simp only [GasNode.decreaseUnspecRefs, GasNode.adjustRefs, GasNode.adjustRefs.bump]
      congr 2
    have hp1 : ((s.insertNode 0 (.external () () 5 .zero 0 ⟨1, u32Max - (k + 1)⟩ true false)).removeNode
        (k + 3)).nodes.lookup 0 = some (.external () () 5 .zero 0 ⟨1, u32Max - (k + 1)⟩ true false) := by
      rw [lookup_removeNode_ne _ (by omega), lookup_insertNode_self]
    have hpat : (GasNode.external () () 5 .zero 0 ⟨1, u32Max - (k + 1)⟩ true false :
        GasNode Unit ℕ Unit).isPatron = true := by
      simp only [GasNode.isPatron, Bool.not_true, Bool.false_or, bne_iff_ne]
      omega
    have htry := tryRemoveConsumedAncestors_patron u64Max hp1 hpat rfl .blocked
    have hrefs : (GasNode.external () () 5 .zero 0 ⟨1, u32Max - k⟩ true false :
        GasNode Unit ℕ Unit).refs ≠ 0 := by
      simp only [GasNode.refs, GasNode.specRefs, GasNode.unspecRefs]
      unfold u32Max
      omega
    have hcons := consume_unspecifiedLocal_eq u64Max hleaf rfl ho h0 hrefs (by rw [hdec]; exact htry)
    simp only [Op.apply, withResult, hcons, consumeTail]
    refine ⟨hp1, ?_, ?_, fun i => ?_, ?_⟩
    · rw [lookup_removeNode_ne _ (by omega), lookup_insertNode_ne _ _ (by omega)]
      exact h1
    · rw [lookup_removeNode_ne _ (by omega), lookup_insertNode_ne _ _ (by omega)]
      exact h2
    · by_cases hik : i = k
      · subst hik
        rw [lookup_removeNode_self, if_neg (by omega)]
      · rw [lookup_removeNode_ne _ (by omega), lookup_insertNode_ne _ _ (by omega), h3 i]
        by_cases hin : k + 1 ≤ i ∧ i < u32Max
        · rw [if_pos ⟨by omega, hin.2⟩, if_pos hin]
        · rw [if_neg (by omega), if_neg hin]
    · rw [removeNode_total, insertNode_total]
      exact ht

/-- The storage after the consume of the last child on the root's counter:
the root, no patron any more, gave its 5 up to the total and keeps its
specified child and the locked child `2`, which it no longer counts. -/
structure RootDrained (s : TreeState Unit ℕ Unit) : Prop where
  root : s.nodes.lookup 0 = some (.external () () 0 .zero 0 ⟨1, 0⟩ true false)
  spec : s.nodes.lookup 1 = some (.specifiedLocal 0 0 0 .zero 0 {} false)
  locked : s.nodes.lookup 2 = some (.unspecifiedLocal 0 0 (NodeLock.zero.set .mailbox 5) 0)
  leaves : ∀ i, s.nodes.lookup (i + 3) = none
  total : s.total = some 5

/-- The consumes of all `u32::MAX` children `i + 3`: the last one takes the
root's counter to zero although the child `2` is still there. -/
theorem rootDrained_run :
    RootDrained (run u64Max .empty
      (lockAndConsumeRoot ++ (List.range u32Max).map fun i => .consume (i + 3))) := by
  have hr : List.range u32Max = List.range (u32Max - 1) ++ [u32Max - 1] := by
    rw [← List.range_succ]
    exact congrArg List.range (by decide)
  rw [hr, List.map_append, ← List.append_assoc, List.map_singleton, run_snoc]
  obtain ⟨h0, h1, h2, h3, ht⟩ := consumesDone_run (u32Max - 1) (by decide)
  generalize run u64Max .empty
    (lockAndConsumeRoot ++ (List.range (u32Max - 1)).map fun i => Op.consume (i + 3)) = s
    at h0 h1 h2 h3 ht ⊢
  have hone : u32Max - (u32Max - 1) = 1 := by decide
  rw [hone] at h0
  have hleaf : s.nodes.lookup (u32Max - 1 + 3) = some (.unspecifiedLocal 0 0 .zero 0) := by
    rw [h3 (u32Max - 1), if_pos ⟨le_rfl, by decide⟩]
  have ho : getOriginNode s (u32Max - 1 + 3) = .ok ((), (), 0) :=
    getOriginNode_of_root hleaf rfl rfl h0 rfl
  have hdec : (GasNode.external () () 5 .zero 0 ⟨1, 1⟩ true false :
      GasNode Unit ℕ Unit).decreaseUnspecRefs = .external () () 5 .zero 0 ⟨1, 0⟩ true false := rfl
  have hp1 : ((s.insertNode 0 (.external () () 5 .zero 0 ⟨1, 0⟩ true false)).removeNode
      (u32Max - 1 + 3)).nodes.lookup 0 = some (.external () () 5 .zero 0 ⟨1, 0⟩ true false) := by
    rw [lookup_removeNode_ne _ (by decide), lookup_insertNode_self]
  -- no unspecified child left on the counter: the root is no patron and gives its value up
  have htry := tryRemoveConsumedAncestors_catch_keep u64Max hp1 rfl rfl rfl rfl (by decide)
  have hcons := consume_unspecifiedLocal_eq u64Max hleaf rfl ho h0 (by decide)
    (by rw [hdec]; exact htry)
  have happly : negativeApplyTo 5 (((s.insertNode 0 (.external () () 5 .zero 0 ⟨1, 0⟩ true false)).removeNode
      (u32Max - 1 + 3)).insertNode 0 ((GasNode.external () () 5 .zero 0 ⟨1, 0⟩ true false :
        GasNode Unit ℕ Unit).withValue 0)).total = some 5 := by
    rw [insertNode_total, removeNode_total, insertNode_total, ht]
    rfl
  rw [consume_apply_snd, hcons, consumeTail_some_snd happly]
  refine ⟨?_, ?_, ?_, fun i => ?_, rfl⟩
  · rw [mutateTotal_nodes, lookup_insertNode_self]
    rfl
  · rw [mutateTotal_nodes, lookup_insertNode_ne _ _ (by decide),
      lookup_removeNode_ne _ (by decide), lookup_insertNode_ne _ _ (by decide)]
    exact h1
  · rw [mutateTotal_nodes, lookup_insertNode_ne _ _ (by decide),
      lookup_removeNode_ne _ (by decide), lookup_insertNode_ne _ _ (by decide)]
    exact h2
  · rw [mutateTotal_nodes, lookup_insertNode_ne _ _ (by omega)]
    by_cases hi : i = u32Max - 1
    · subst hi
      rw [lookup_removeNode_self]
    · rw [lookup_removeNode_ne _ (by omega), lookup_insertNode_ne _ _ (by omega), h3 i,
        if_neg (by omega)]

/-- The storage at the end: the 5 unlocked from the child `2` went back into
the root, which the consume of its specified child then removed with it. Only
the child `2` is left, empty, while the total still counts the 5. -/
structure ValueLost (s : TreeState Unit ℕ Unit) : Prop where
  gone : ∀ j, j ≠ 2 → s.nodes.lookup j = none
  orphan : s.nodes.lookup 2 =
    some (.unspecifiedLocal 0 0 ((NodeLock.zero.set .mailbox 5).set .mailbox 0) 0)
  total : s.total = some 5

/-- The whole saturation run. -/
def saturationRun : List (Op Unit ℕ Unit) :=
  lockAndConsumeRoot ++ (List.range u32Max).map (fun i => .consume (i + 3)) ++
    [.unlock 2 .mailbox 5, .consume 1]

/-- Only the first call creates. -/
theorem createdSum_saturationRun : createdSum saturationRun = 10 := by
  simp only [saturationRun, lockAndConsumeRoot, createdSum_append]
  rw [createdSum_map_eq_zero (fun i => Op.split 0 (i + 2)) _ (fun _ => rfl),
    createdSum_map_eq_zero (fun i => Op.consume (i + 3)) _ (fun _ => rfl)]
  rfl

/-- The storage after the unlock of the 5 in the child `2`: the root, which
no longer counts the child, took the 5 back. -/
structure Unlocked (s : TreeState Unit ℕ Unit) : Prop where
  root : s.nodes.lookup 0 = some (.external () () 5 .zero 0 ⟨1, 0⟩ true false)
  spec : s.nodes.lookup 1 = some (.specifiedLocal 0 0 0 .zero 0 {} false)
  child : s.nodes.lookup 2 =
    some (.unspecifiedLocal 0 0 ((NodeLock.zero.set .mailbox 5).set .mailbox 0) 0)
  leaves : ∀ i, s.nodes.lookup (i + 3) = none
  total : s.total = some 5

/-- The saturation run up to its last call. -/
theorem unlocked_run : Unlocked (run u64Max .empty (lockAndConsumeRoot ++
    (List.range u32Max).map (fun i => .consume (i + 3)) ++ [.unlock 2 .mailbox 5])) := by
  rw [run_snoc]
  obtain ⟨h0, h1, h2, h3, ht⟩ := rootDrained_run
  generalize run u64Max .empty
    (lockAndConsumeRoot ++ (List.range u32Max).map fun i => Op.consume (i + 3)) = s
    at h0 h1 h2 h3 ht ⊢
  have hunlock : unlock u64Max s 2 .mailbox 5 = _ :=
    unlock_of_parent u64Max .mailbox h2 (by simp) (by decide) h0 rfl rfl
  have hsat : saturatingAdd u64Max 0 5 = 5 := by decide
  rw [unlock_apply_snd, hunlock, hsat]
  refine ⟨?_, ?_, ?_, fun i => ?_, ?_⟩
  · rw [lookup_insertNode_self]
    rfl
  · rw [lookup_insertNode_ne _ _ (by decide), lookup_insertNode_ne _ _ (by decide)]
    exact h1
  · rw [lookup_insertNode_ne _ _ (by decide), lookup_insertNode_self, NodeLock.get_set_self]
  · rw [lookup_insertNode_ne _ _ (by omega), lookup_insertNode_ne _ _ (by omega)]
    exact h3 i
  · rw [insertNode_total, insertNode_total, ht]

/-- The consume of the specified child `1` after the unlock removes the root
with its 5 and gives nothing. -/
theorem consume_after_unlock {s : TreeState Unit ℕ Unit} (h : Unlocked s) :
    consume u64Max s 1 = (.ok (some (0, (), ())),
      (((s.insertNode 0 (GasNode.external () () 5 .zero 0 ⟨1, 0⟩ true false :
        GasNode Unit ℕ Unit).decreaseSpecRefs).removeNode 1).removeNode 0).mutateTotal (some 5)) := by
  have hcons := consume_last_specified_child u64Max h.spec rfl h.root rfl rfl rfl rfl (by decide)
  have happly : negativeApplyTo 0 (((s.insertNode 0 (GasNode.external () () 5 .zero 0 ⟨1, 0⟩
      true false : GasNode Unit ℕ Unit).decreaseSpecRefs).removeNode 1).removeNode 0).total =
      some 5 := by
    rw [removeNode_total, removeNode_total, insertNode_total, h.total]
    rfl
  rw [hcons]
  simp only [consumeTail, happly]

/-- The unlock of the 5 in the child `2`, then the consume of the specified
child `1`. -/
theorem valueLost_run : ValueLost (run u64Max .empty saturationRun) := by
  have hops : saturationRun = (lockAndConsumeRoot ++
      (List.range u32Max).map (fun i => .consume (i + 3)) ++ [.unlock 2 .mailbox 5]) ++
        [.consume 1] := by
    simp [saturationRun]
  rw [hops, run_snoc, consume_apply_snd]
  have hu := unlocked_run
  generalize run u64Max .empty (lockAndConsumeRoot ++
    (List.range u32Max).map (fun i => .consume (i + 3)) ++ [.unlock 2 .mailbox 5]) = s at hu ⊢
  rw [consume_after_unlock hu]
  refine ⟨fun j hj => ?_, ?_, rfl⟩
  · rw [mutateTotal_nodes]
    by_cases hj0 : j = 0
    · subst hj0
      exact lookup_removeNode_self _ _
    rw [lookup_removeNode_ne _ hj0]
    by_cases hj1 : j = 1
    · subst hj1
      exact lookup_removeNode_self _ _
    rw [lookup_removeNode_ne _ hj1, lookup_insertNode_ne _ _ hj0]
    obtain ⟨i, rfl⟩ : ∃ i, j = i + 3 := ⟨j - 3, by omega⟩
    exact hu.leaves i
  · rw [mutateTotal_nodes, lookup_removeNode_ne _ (by decide), lookup_removeNode_ne _ (by decide),
      lookup_insertNode_ne _ _ (by decide)]
    exact hu.child

/-- Conservation fails past `u32::MAX` children: the saturation run creates
10 in all, far below `u64::MAX`, and every call of it succeeds, but at its end
the total is 5 while the nodes hold nothing. -/
theorem run_loses_value_past_u32 :
    createdSum saturationRun < u64Max ∧
      (run u64Max .empty saturationRun).totalSupply ≠ valueSum (run u64Max .empty saturationRun) := by
  obtain ⟨hgone, horphan, htotal⟩ := valueLost_run
  generalize run u64Max .empty saturationRun = s at hgone horphan htotal ⊢
  have hsupply : s.totalSupply = 5 := by
    rw [totalSupply, htotal]
    rfl
  -- only the child `2` is left, and it holds nothing
  have hzero : ∀ j n, s.nodes.lookup j = some n → n.totalValue = 0 := by
    intro j n hj
    by_cases hj2 : j = 2
    · subst hj2
      rw [horphan, Option.some.injEq] at hj
      subst hj
      rfl
    · rw [hgone j hj2] at hj
      cases hj
  have hsum : valueSum s = 0 := AList.sumBy_eq_zero hzero
  refine ⟨?_, ?_⟩
  · rw [createdSum_saturationRun]
    decide
  · rw [hsupply, hsum]
    decide

/-- Invariant errors are reachable past either bound of
`run_no_invariant_error`: a consume underflows the total once a `create` has
overflowed it; and after the saturation run, whose creations fit `u64`, the
child `2` has lost its parent, so a spend from it fails with `ParentIsLost`. -/
theorem run_reaches_invariant_errors :
    ((Op.consume 1 : Op Unit ℕ Unit).apply u64Max
      (run u64Max .empty [.create () () 0 u64Max, .create () () 1 1])).1 =
      .error .totalValueIsUnderflowed ∧
    createdSum saturationRun ≤ u64Max ∧
    ((Op.spend 2 1 : Op Unit ℕ Unit).apply u64Max (run u64Max .empty saturationRun)).1 =
      .error .parentIsLost := by
  obtain ⟨hgone, horphan, -⟩ := valueLost_run
  refine ⟨rfl, ?_, spend_of_parent_lost u64Max 1 horphan (hgone 0 (by decide))⟩
  rw [createdSum_saturationRun]
  decide

end Run

end Gear.GasTree
