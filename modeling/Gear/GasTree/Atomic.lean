import Gear.GasTree.Saturation

/-!
# Failed calls write nothing

The calls of `TreeImpl` are not transactional: a call that writes and then
fails keeps its writes. A call that fails because of its arguments — a key
that is missing or taken, a consumed or forbidden node, too little value,
locks or a system reservation left at consumption — should therefore check
everything before its first write.

On a storage satisfying `TreeInv` it does (`Op.apply_atomic`): the only errors
that follow a write are an overflowing or underflowing total and the
invariant errors. Along every run from empty storage whose children counters
never saturate, each call that fails with an argument error leaves the nodes
and the total as they were (`run_atomic_on_argument_errors`).

Past `u32::MAX` specified children it does not: a root whose counter
saturated is removed while one of its specified children is left, and a
`consume` below that child moves value into it (`catch_value` writes the
patron) before `get_origin_node` finds the root gone and fails with
`NodeNotFound` (`consume_writes_then_node_not_found`).
-/

namespace Gear.GasTree

variable {E K M : Type} [DecidableEq K]

open TreeState TreeImpl

/-- The errors a call reports about its arguments: the user errors but an
overflowing total, which `create` reports after its write. -/
def GasTreeError.isArgumentError : GasTreeError → Bool
  | .nodeAlreadyExists | .nodeNotFound | .nodeWasConsumed | .insufficientBalance | .forbidden
  | .consumedWithLock | .consumedWithSystemReservation => true
  | _ => false

/-! ## The errors after a write -/

section Step

variable (bmax : ℕ) {s : TreeState E K M}

/-- `create` fails after its write only on an overflowing total. -/
theorem create_error_state {origin : E} {multiplier : M} {key : K} {amount : ℕ} {e : GasTreeError}
    (he : (create bmax s origin multiplier key amount).1 = .error e)
    (harg : e.isArgumentError = true) : (create bmax s origin multiplier key amount).2 = s := by
  revert he
  unfold create
  split
  · intro _
    rfl
  · -- past the write only the total can fail, which is no argument error
    dsimp only
    split
    · intro he
      cases he
    · intro he
      cases he
      cases harg

/-- `spend` fails after its write only on an underflowing total. -/
theorem spend_error_state {key : K} {amount : ℕ} {e : GasTreeError}
    (he : (spend s key amount).1 = .error e) (harg : e.isArgumentError = true) :
    (spend s key amount).2 = s := by
  revert he
  unfold spend
  split
  · intro _
    rfl
  · split
    · intro _
      rfl
    · split
      · intro _
        rfl
      · split
        · intro _
          rfl
        · -- the write is done: only the total is left to fail
          dsimp only
          split
          · intro he
            cases he
          · intro he
            cases he
            cases harg

omit [DecidableEq K] in
/-- The last step of `consume` fails only on an underflowing total. -/
theorem consumeTail_error {out : ConsumeOutput E M} {s' : TreeState E K M} {e : GasTreeError}
    (he : (consumeTail out s').1 = .error e) : e = .totalValueIsUnderflowed := by
  unfold consumeTail at he
  split at he
  · cases he
  · split at he
    · cases he
    · cases he
      rfl

/-- On a storage satisfying `TreeInv`, `consume` reports an argument error
only before its first write. -/
theorem consume_error_state (hI : TreeInv s) {key : K} {e : GasTreeError}
    (he : (consume bmax s key).1 = .error e) (harg : e.isArgumentError = true) :
    (consume bmax s key).2 = s := by
  rcases consume_spec bmax hI key with ⟨e', -, heq⟩ | ⟨out, s', -, -, -, heq⟩
  · rw [heq]
  · rw [heq] at he
    rw [consumeTail_error he] at harg
    cases harg

omit [DecidableEq K] in
theorem withResult_error {α : Type} {f : α → OpResult E M} {r : Except GasTreeError α × TreeState E K M}
    {e : GasTreeError} (he : (withResult f r).1 = .error e) : r.1 = .error e := by
  rcases r with ⟨_ | a, s'⟩
  · simpa [withResult, Except.map] using he
  · cases he

omit [DecidableEq K] in
/-- A failed call of an outcome left the storage as it was. -/
theorem Outcome.state_of_error {α : Type} {r : Except GasTreeError α × TreeState E K M}
    {P : α → TreeState E K M → Prop} (h : Outcome s P r) {e : GasTreeError}
    (he : r.1 = .error e) : r.2 = s := by
  rcases r with ⟨_ | a, s'⟩
  · exact h.2
  · cases he

/-- On a storage satisfying `TreeInv`, a call that fails with an argument
error wrote nothing. The calls other than `create`, `spend` and `consume`
check everything first (`Op.apply_keeps`); those three write before a last
check of the total, and `consume` before the invariant errors. -/
theorem Op.apply_atomic (hI : TreeInv s) (op : Op E K M) {e : GasTreeError}
    (he : (op.apply bmax s).1 = .error e) (harg : e.isArgumentError = true) :
    (op.apply bmax s).2 = s := by
  cases op with
  | create origin multiplier key amount =>
    exact create_error_state bmax (withResult_error he) harg
  | spend key amount => exact spend_error_state (withResult_error he) harg
  | consume key => exact consume_error_state bmax hI (withResult_error he) harg
  | _ => exact (Op.apply_keeps bmax hI _ rfl).state_of_error he

end Step

/-! ## Runs -/

/-- Along every run from empty storage whose children counters never
saturate, a call that fails with `NodeNotFound`, `NodeAlreadyExists`,
`NodeWasConsumed`, `InsufficientBalance`, `Forbidden`, `ConsumedWithLock` or
`ConsumedWithSystemReservation` leaves the node map and the total exactly as
they were before it. -/
theorem run_atomic_on_argument_errors (bmax : ℕ) (ops : List (Op E K M))
    (hfit : ∀ n, ChildCountsFit (run bmax .empty (ops.take n))) (n : ℕ) (h : n < ops.length)
    (e : GasTreeError)
    (he : (ops[n].apply bmax (run bmax .empty (ops.take n))).1 = .error e)
    (harg : e ∈ [.nodeNotFound, .nodeAlreadyExists, .nodeWasConsumed, .insufficientBalance,
      .forbidden, .consumedWithLock, .consumedWithSystemReservation]) :
    (ops[n].apply bmax (run bmax .empty (ops.take n))).2.nodes =
        (run bmax .empty (ops.take n)).nodes ∧
      (ops[n].apply bmax (run bmax .empty (ops.take n))).2.total =
        (run bmax .empty (ops.take n)).total := by
  have hI : TreeInv (run bmax .empty (ops.take n)) :=
    run_treeInv bmax (ops.take n) StateInv.empty.tree fun m => by
      rw [List.take_take]
      exact hfit _
  have harg' : e.isArgumentError = true := by
    simp only [List.mem_cons, List.not_mem_nil, or_false] at harg
    rcases harg with rfl | rfl | rfl | rfl | rfl | rfl | rfl <;> rfl
  have hs := Op.apply_atomic bmax hI ops[n] he harg'
  exact ⟨by rw [hs], by rw [hs]⟩

/-- A run whose second call spends more than the root holds: the spend fails
with `InsufficientBalance` and the storage stays as the `create` left it. -/
theorem run_atomic_on_argument_errors_overspend :
    let ops : List (Op Unit ℕ Unit) := [.create () () 0 10, .spend 0 20, .consume 0]
    (ops[1].apply 100 (run 100 .empty (ops.take 1))).1 = .error .insufficientBalance ∧
    (ops[1].apply 100 (run 100 .empty (ops.take 1))).2.nodes = (run 100 .empty (ops.take 1)).nodes ∧
      (ops[1].apply 100 (run 100 .empty (ops.take 1))).2.total =
        (run 100 .empty (ops.take 1)).total :=
  ⟨rfl, run_atomic_on_argument_errors 100 _ (fits_of_take_size 100 _ (by decide)) 1 (by decide)
    .insufficientBalance rfl (by decide)⟩

/-! ## Past `u32::MAX` specified children -/

section Paths

variable (bmax : ℕ) {s : TreeState E K M}

/-- `split_with_value` under a provider that is neither unspecified nor a cut. -/
theorem splitWithValue_of_provider {key newKey : K} {n : GasNode E K M} {v amount : ℕ}
    (hk : s.nodes.lookup key = some n) (hu : n.kind ≠ .unspecifiedLocal) (hcut : n.isCut = false)
    (hv : n.value = some v) (hle : amount ≤ v) (hnew : s.nodes.lookup newKey = none) :
    splitWithValue s key newKey amount = (.ok (), (s.insertNode newKey
      (.specifiedLocal key (n.rootId.getD key) amount .zero 0 {} false)).insertNode key
        (n.increaseSpecRefs.withValue (v - amount))) := by
  have hlt : ¬ v < amount := Nat.not_lt.2 hle
  simp [splitWithValue, createFromWithValue, hk, nodeWithValue_of_kind_ne hu, hcut, hv, hnew, hlt,
    GasNode.increaseSpecRefs]

/-- `consume` of a root that is no patron once marked and keeps children: its
value is caught, and it is written back consumed and empty. -/
theorem consume_root_keep {key : K} {node : GasNode E K M} {o : E} {m : M} {v : ℕ}
    (hk : s.nodes.lookup key = some node) (hc : node.isConsumed = false)
    (hl : node.lock.isZero = true) (hsr : node.systemReserve.getD 0 = 0)
    (hkind : node.kind = .external) (hpat : node.markConsumed.isPatron = false)
    (hv : node.value = some v) (hx : node.externalData = some (o, m)) (hrefs : node.refs ≠ 0) :
    consume bmax s key =
      consumeTail (some (v, m, o)) (s.insertNode key (node.markConsumed.withValue 0)) := by
  have hcatch := catchValue_root bmax (s := s) hpat
    (Or.inl (by rw [GasNode.kind_markConsumed]; exact hkind))
    (by rw [GasNode.value_markConsumed]; exact hv)
  have hor : getOriginNode s key = .ok (o, m, key) := by
    simp [getOriginNode, hk, hx]
  have hrefs' : (node.markConsumed.withValue 0).refs ≠ 0 := by
    rw [GasNode.refs_withValue, GasNode.refs_markConsumed]
    exact hrefs
  have hnc : ((node.markConsumed.withValue 0).isCut ||
      (node.markConsumed.withValue 0).isUnspecifiedLocal) = false := by
    cases node <;> simp_all [GasNode.kind, GasNode.isCut, GasNode.isUnspecifiedLocal,
      GasNode.markConsumed, GasNode.withValue]
  simp only [consume, hk, hc, hl, systemReserve_any_eq_false hsr, Bool.not_true,
    Bool.false_eq_true, if_false, hcatch, hor, hrefs', hnc]
  rfl

/-- The walk at a root that is no patron but keeps specified children, with a
caught output: the root is written back as it is and the output is the
caught zero. -/
theorem tryRemoveConsumedAncestors_caught_keep {key : K} {node : GasNode E K M} {o : E} {m : M}
    (v : ℕ) (hk : s.nodes.lookup key = some node) (hpat : node.isPatron = false)
    (hx : node.externalData = some (o, m)) (hs : node.specRefs ≠ 0) :
    tryRemoveConsumedAncestors bmax s key (.caught v) =
      (.ok (some (0, m, o)), s.insertNode key node) := by
  obtain ⟨fuel, hfuel⟩ : ∃ fuel, s.nodes.entries.length = fuel + 1 :=
    ⟨_, (Nat.succ_pred_eq_of_pos (size_pos_of_lookup hk)).symm⟩
  have hco : (if (CatchValueOutput.caught v).isCaught = true then CatchValueOutput.caught 0
      else CatchValueOutput.caught v) = .caught 0 := rfl
  simp only [tryRemoveConsumedAncestors, hk, getOriginNode, hx, hfuel, hco]
  have hcatch : (if (CatchValueOutput.caught 0).isBlocked then catchValue bmax s node
      else .ok (CatchValueOutput.caught 0, node, s)) = .ok (.caught 0, node, s) := rfl
  rw [removeAncestorsLoop_keep bmax o m fuel hpat hcatch rfl hs]
  rfl

/-- `consume` of a childless specified node under a root that is no patron:
its value is caught and the walk starts at the root, where it must end with
the caught zero. -/
theorem consume_specified_leaf_eq {c p : K} {v : ℕ} {l : NodeLock} {pn : GasNode E K M}
    {o : E} {m : M} {s' : TreeState E K M}
    (hk : s.nodes.lookup c = some (.specifiedLocal p p v l 0 {} false))
    (hl : l.isZero = true) (hp : s.nodes.lookup p = some pn) (hpk : pn.kind = .external)
    (hpat : pn.isPatron = false) (hx : pn.externalData = some (o, m)) (hspec : pn.specRefs ≠ 0)
    (htry : tryRemoveConsumedAncestors bmax ((s.insertNode p pn.decreaseSpecRefs).removeNode c) p
      (.caught v) = (.ok (some (0, m, o)), s')) :
    consume bmax s c = consumeTail (some (v, m, o)) s' := by
  -- the child, marked: no patron, with no patron above it
  have hfind : findAncestorPatron s (.specifiedLocal p p v l 0 {} true : GasNode E K M) =
      .ok none := by
    obtain ⟨fuel, hfuel⟩ : ∃ fuel, s.nodes.entries.length = fuel + 1 :=
      ⟨_, (Nat.succ_pred_eq_of_pos (size_pos_of_lookup hp)).symm⟩
    simp only [findAncestorPatron, hp, hfuel, findPatronLoop, hpat, Bool.false_eq_true, if_false]
    cases pn <;> simp_all [GasNode.kind]
  have hcatch : catchValue bmax s (.specifiedLocal p p v l 0 {} true : GasNode E K M) =
      .ok (.caught v, .specifiedLocal p p 0 l 0 {} true, s) := by
    simp [catchValue, GasNode.isPatron, GasNode.isUnspecifiedLocal, hfind, GasNode.value,
      GasNode.withValue]
  have hor : getOriginNode s c = .ok (o, m, p) := by
    have hnx : (GasNode.specifiedLocal p p v l 0 {} false : GasNode E K M).externalData = none :=
      rfl
    have hnr : (GasNode.specifiedLocal p p v l 0 {} false : GasNode E K M).rootId = some p := rfl
    simp only [getOriginNode, hk, hnx, hnr, hp, hx]
  have hpref : pn.refs ≠ 0 := by
    unfold GasNode.refs u32Max
    omega
  have hdec : decreaseParentsRef s (.specifiedLocal p p 0 l 0 {} true : GasNode E K M) =
      .ok (s.insertNode p pn.decreaseSpecRefs) := by
    simp [decreaseParentsRef, GasNode.parent, hp, hpref]
  simp only [consume, hk, hl, GasNode.isConsumed, GasNode.lock, GasNode.systemReserve,
    GasNode.markConsumed, Bool.not_true, Bool.false_eq_true, if_false, hcatch, hor]
  simp [GasNode.refs, GasNode.specRefs, GasNode.unspecRefs, hdec, CatchValueOutput.isBlocked,
    CatchValueOutput.intoConsumeOutput, htry]
  rfl

end Paths

/-! ## The spec-saturation run

Keys are numbers: the `External` root `0` holding 10, its specified child `1`
holding 1, and `u32::MAX` more specified children `i + 2` holding nothing,
one more than the root's counter holds. The balance type is `u64`. -/

section Run

/-- The storage after the root, its child `1` and `k` specified children
`i + 2` of the root. -/
structure SpecSplitsDone (k : ℕ) (s : TreeState Unit ℕ Unit) : Prop where
  root : s.nodes.lookup 0 = some (.external () () 9 .zero 0 ⟨min (k + 1) u32Max, 0⟩ false false)
  held : s.nodes.lookup 1 = some (.specifiedLocal 0 0 1 .zero 0 {} false)
  leaves : ∀ i, s.nodes.lookup (i + 2) =
    if i < k then some (.specifiedLocal 0 0 0 .zero 0 {} false) else none
  total : s.total = some 10

/-- The calls `split_with_value 0 (i + 2) 0` for `i < k`. -/
theorem specSplitsDone_run (k : ℕ) :
    SpecSplitsDone k (run u64Max .empty ([.create () () 0 10, .splitWithValue 0 1 1] ++
      (List.range k).map fun i => .splitWithValue 0 (i + 2) 0)) := by
  induction k with
  | zero => exact ⟨rfl, rfl, fun _ => rfl, rfl⟩
  | succ k ih =>
    rw [List.range_succ, List.map_append, ← List.append_assoc, List.map_singleton, run_snoc]
    obtain ⟨h0, h1, h2, ht⟩ := ih
    generalize run u64Max .empty ([.create () () 0 10, .splitWithValue 0 1 1] ++
      (List.range k).map fun i => Op.splitWithValue 0 (i + 2) 0) = s at h0 h1 h2 ht ⊢
    have hnew : s.nodes.lookup (k + 2) = none := by
      rw [h2 k, if_neg (lt_irrefl k)]
    have heq := splitWithValue_of_provider h0 (by simp [GasNode.kind]) rfl rfl (Nat.zero_le 9) hnew
    simp only [Op.apply, withResult, heq]
    -- the root counts one more specified child, up to `u32::MAX`
    have hroot : ((GasNode.external () () 9 .zero 0 ⟨min (k + 1) u32Max, 0⟩ false false :
        GasNode Unit ℕ Unit).increaseSpecRefs.withValue (9 - 0)) =
        .external () () 9 .zero 0 ⟨min (k + 1 + 1) u32Max, 0⟩ false false := by
      simp only [GasNode.increaseSpecRefs, GasNode.adjustRefs, GasNode.adjustRefs.bump,
        GasNode.withValue]
      congr 2
      omega
    rw [hroot]
    refine ⟨lookup_insertNode_self _ _ _, ?_, fun i => ?_, ht⟩
    · rw [lookup_insertNode_ne _ _ (by omega), lookup_insertNode_ne _ _ (by omega)]
      exact h1
    · rw [lookup_insertNode_ne _ _ (by omega)]
      by_cases hik : i = k
      · subst hik
        rw [lookup_insertNode_self, if_pos (Nat.lt_succ_self i)]
        rfl
      · rw [lookup_insertNode_ne _ _ (by omega), h2 i]
        by_cases hlt : i < k
        · rw [if_pos hlt, if_pos (by omega)]
        · rw [if_neg hlt, if_neg (by omega)]

/-- The calls up to the consumes of the children `i + 2`: the splits and the
root consumed, which keeps its children. -/
def specSplitsAndConsumeRoot : List (Op Unit ℕ Unit) :=
  [.create () () 0 10, .splitWithValue 0 1 1] ++
    (List.range u32Max).map (fun i => .splitWithValue 0 (i + 2) 0) ++ [.consume 0]

/-- The storage after `specSplitsAndConsumeRoot` and the consumes of the
children `i + 2` for `i < k`: the root, consumed and empty, counts
`u32::MAX - k` specified children. -/
structure SpecConsumesDone (k : ℕ) (s : TreeState Unit ℕ Unit) : Prop where
  root : s.nodes.lookup 0 = some (.external () () 0 .zero 0 ⟨u32Max - k, 0⟩ true false)
  held : s.nodes.lookup 1 = some (.specifiedLocal 0 0 1 .zero 0 {} false)
  leaves : ∀ i, s.nodes.lookup (i + 2) =
    if k ≤ i ∧ i < u32Max then some (.specifiedLocal 0 0 0 .zero 0 {} false) else none
  total : s.total = some 1

theorem specConsumesDone_zero : SpecConsumesDone 0 (run u64Max .empty specSplitsAndConsumeRoot) := by
  obtain ⟨h0, h1, h2, ht⟩ := specSplitsDone_run u32Max
  unfold specSplitsAndConsumeRoot
  rw [run_snoc]
  generalize run u64Max .empty ([.create () () 0 10, .splitWithValue 0 1 1] ++
    (List.range u32Max).map fun i => Op.splitWithValue 0 (i + 2) 0) = s at h0 h1 h2 ht ⊢
  have hmin : min (u32Max + 1) u32Max = u32Max := by decide
  rw [hmin] at h0
  -- the root is no patron once consumed: its 9 are caught and it keeps its children
  have hcons := consume_root_keep u64Max h0 rfl rfl rfl rfl rfl rfl rfl (by decide)
  have happly : negativeApplyTo 9 (s.insertNode 0 ((GasNode.external () () 9 .zero 0
      ⟨u32Max, 0⟩ false false : GasNode Unit ℕ Unit).markConsumed.withValue 0)).total = some 1 := by
    rw [insertNode_total, ht]
    rfl
  rw [consume_apply_snd, hcons, consumeTail_some_snd happly]
  refine ⟨?_, ?_, fun i => ?_, rfl⟩
  · rw [mutateTotal_nodes, lookup_insertNode_self]
    rfl
  · rw [mutateTotal_nodes, lookup_insertNode_ne _ _ (by decide)]
    exact h1
  · rw [mutateTotal_nodes, lookup_insertNode_ne _ _ (by omega), h2 i]
    by_cases hi : i < u32Max
    · rw [if_pos hi, if_pos ⟨Nat.zero_le i, hi⟩]
    · rw [if_neg hi, if_neg (fun h => hi h.2)]

/-- The consumes of the children `i + 2` for `i < k` while the root keeps a
child on its counter: each child is removed and the root counts one less. -/
theorem specConsumesDone_run (k : ℕ) (hk : k < u32Max) :
    SpecConsumesDone k (run u64Max .empty
      (specSplitsAndConsumeRoot ++ (List.range k).map fun i => .consume (i + 2))) := by
  induction k with
  | zero =>
    simp only [List.range_zero, List.map_nil, List.append_nil]
    exact specConsumesDone_zero
  | succ k ih =>
    rw [List.range_succ, List.map_append, ← List.append_assoc, List.map_singleton, run_snoc]
    obtain ⟨h0, h1, h2, ht⟩ := ih (by omega)
    generalize run u64Max .empty
      (specSplitsAndConsumeRoot ++ (List.range k).map fun i => Op.consume (i + 2)) = s
      at h0 h1 h2 ht ⊢
    have hleaf : s.nodes.lookup (k + 2) = some (.specifiedLocal 0 0 0 .zero 0 {} false) := by
      rw [h2 k, if_pos ⟨le_rfl, by omega⟩]
    -- the root counts one specified child less and keeps the others
    have hdec : (GasNode.external () () 0 .zero 0 ⟨u32Max - k, 0⟩ true false :
        GasNode Unit ℕ Unit).decreaseSpecRefs =
        .external () () 0 .zero 0 ⟨u32Max - (k + 1), 0⟩ true false := by
      simp only [GasNode.decreaseSpecRefs, GasNode.adjustRefs, GasNode.adjustRefs.bump]
      congr 2
    have hp1 : ((s.insertNode 0 (.external () () 0 .zero 0 ⟨u32Max - (k + 1), 0⟩ true false)).removeNode
        (k + 2)).nodes.lookup 0 =
        some (.external () () 0 .zero 0 ⟨u32Max - (k + 1), 0⟩ true false) := by
      rw [lookup_removeNode_ne _ (by omega), lookup_insertNode_self]
    have htry := tryRemoveConsumedAncestors_caught_keep u64Max 0 hp1 rfl rfl
      (by simp only [GasNode.specRefs]; omega)
    have hcons := consume_specified_leaf_eq u64Max hleaf rfl h0 rfl rfl rfl
      (by simp only [GasNode.specRefs]; omega) (by rw [hdec]; exact htry)
    have happly : negativeApplyTo 0 ((((s.insertNode 0 (.external () () 0 .zero 0
        ⟨u32Max - (k + 1), 0⟩ true false)).removeNode (k + 2)).insertNode 0
          (.external () () 0 .zero 0 ⟨u32Max - (k + 1), 0⟩ true false) :
            TreeState Unit ℕ Unit)).total = some 1 := by
      rw [insertNode_total, removeNode_total, insertNode_total, ht]
      rfl
    rw [consume_apply_snd, hcons, consumeTail_some_snd happly]
    refine ⟨?_, ?_, fun i => ?_, rfl⟩
    · rw [mutateTotal_nodes, lookup_insertNode_self]
    · rw [mutateTotal_nodes, lookup_insertNode_ne _ _ (by omega), lookup_removeNode_ne _ (by omega),
        lookup_insertNode_ne _ _ (by omega)]
      exact h1
    · rw [mutateTotal_nodes, lookup_insertNode_ne _ _ (by omega)]
      by_cases hik : i = k
      · subst hik
        rw [lookup_removeNode_self, if_neg (by omega)]
      · rw [lookup_removeNode_ne _ (by omega), lookup_insertNode_ne _ _ (by omega), h2 i]
        by_cases hin : k + 1 ≤ i ∧ i < u32Max
        · rw [if_pos ⟨by omega, hin.2⟩, if_pos hin]
        · rw [if_neg (by omega), if_neg hin]

/-- The storage after the consume of the last child on the root's counter:
the root is gone, while its child `1` is left with the 1 it holds. -/
structure SpecRootGone (s : TreeState Unit ℕ Unit) : Prop where
  root : s.nodes.lookup 0 = none
  held : s.nodes.lookup 1 = some (.specifiedLocal 0 0 1 .zero 0 {} false)
  leaves : ∀ i, s.nodes.lookup (i + 2) = none

/-- The consumes of all `u32::MAX` children `i + 2`: the last one takes the
root's counter to zero and removes the root, although `1` is still below it. -/
theorem specRootGone_run :
    SpecRootGone (run u64Max .empty
      (specSplitsAndConsumeRoot ++ (List.range u32Max).map fun i => .consume (i + 2))) := by
  have hr : List.range u32Max = List.range (u32Max - 1) ++ [u32Max - 1] := by
    rw [← List.range_succ]
    exact congrArg List.range (by decide)
  rw [hr, List.map_append, ← List.append_assoc, List.map_singleton, run_snoc]
  obtain ⟨h0, h1, h2, -⟩ := specConsumesDone_run (u32Max - 1) (by decide)
  generalize run u64Max .empty
    (specSplitsAndConsumeRoot ++ (List.range (u32Max - 1)).map fun i => Op.consume (i + 2)) = s
    at h0 h1 h2 ⊢
  have hone : u32Max - (u32Max - 1) = 1 := by decide
  rw [hone] at h0
  have hleaf : s.nodes.lookup (u32Max - 1 + 2) = some (.specifiedLocal 0 0 0 .zero 0 {} false) := by
    rw [h2 (u32Max - 1), if_pos ⟨le_rfl, by decide⟩]
  have hcons := consume_last_specified_child u64Max hleaf rfl h0 rfl rfl rfl rfl (by decide)
  rw [consume_apply_snd, hcons]
  -- whatever the total does, the nodes are those the walk left
  have hnodes : ∀ (out : ConsumeOutput Unit Unit) (s' : TreeState Unit ℕ Unit),
      (consumeTail out s').2.nodes = s'.nodes := by
    intro out s'
    unfold consumeTail
    split
    · rfl
    · split <;> rfl
  refine ⟨?_, ?_, fun i => ?_⟩
  · rw [hnodes, lookup_removeNode_self]
  · rw [hnodes, lookup_removeNode_ne _ (by decide), lookup_removeNode_ne _ (by decide),
      lookup_insertNode_ne _ _ (by decide)]
    exact h1
  · rw [hnodes, lookup_removeNode_ne _ (by omega)]
    by_cases hi : i = u32Max - 1
    · subst hi
      rw [lookup_removeNode_self]
    · rw [lookup_removeNode_ne _ (by omega), lookup_insertNode_ne _ _ (by omega), h2 i,
        if_neg (by omega)]

/-- The whole spec-saturation run: after the root is gone, the child `1`
passes its 1 to a new specified child `2`. -/
def specSaturationRun : List (Op Unit ℕ Unit) :=
  specSplitsAndConsumeRoot ++ (List.range u32Max).map (fun i => .consume (i + 2)) ++
    [.splitWithValue 1 2 1]

/-- After the root is gone, `1` passes its 1 to a new child `2`; a `consume`
of `2` then moves the 1 back into the patron `1` before it fails. -/
theorem consume_below_lost_root {s : TreeState Unit ℕ Unit} (h : SpecRootGone s) :
    ((Op.consume 2 : Op Unit ℕ Unit).apply u64Max
        ((Op.splitWithValue 1 2 1 : Op Unit ℕ Unit).apply u64Max s).2).1 = .error .nodeNotFound ∧
      ((Op.consume 2 : Op Unit ℕ Unit).apply u64Max
        ((Op.splitWithValue 1 2 1 : Op Unit ℕ Unit).apply u64Max s).2).2.nodes ≠
      ((Op.splitWithValue 1 2 1 : Op Unit ℕ Unit).apply u64Max s).2.nodes := by
  obtain ⟨h0, h1, h2⟩ := h
  -- the child `1` passes its 1 to the new child `2` and counts it
  have hsplit : splitWithValue s 1 2 1 = (.ok (), (s.insertNode 2
      (.specifiedLocal 1 0 1 .zero 0 {} false)).insertNode 1 (.specifiedLocal 0 0 0 .zero 0 ⟨1, 0⟩ false)) :=
    splitWithValue_of_provider (s := s) h1 (by simp [GasNode.kind]) rfl rfl le_rfl (h2 0)
  have happ : ((Op.splitWithValue 1 2 1 : Op Unit ℕ Unit).apply u64Max s).2 =
      (splitWithValue s 1 2 1).2 := rfl
  rw [happ, hsplit]
  dsimp only
  generalize hs1 : (s.insertNode 2 (.specifiedLocal 1 0 1 .zero 0 {} false)).insertNode 1
    (GasNode.specifiedLocal 0 0 0 .zero 0 ⟨1, 0⟩ false : GasNode Unit ℕ Unit) = s1
  have hk1 : s1.nodes.lookup 1 = some (.specifiedLocal 0 0 0 .zero 0 ⟨1, 0⟩ false) := by
    rw [← hs1, lookup_insertNode_self]
  have hk2 : s1.nodes.lookup 2 = some (.specifiedLocal 1 0 1 .zero 0 {} false) := by
    rw [← hs1, lookup_insertNode_ne _ _ (by decide), lookup_insertNode_self]
  have hk0 : s1.nodes.lookup 0 = none := by
    rw [← hs1, lookup_insertNode_ne _ _ (by decide), lookup_insertNode_ne _ _ (by decide)]
    exact h0
  -- `catch_value` of the marked `2` finds the patron `1` and gives it the 1
  obtain ⟨fuel, hfuel⟩ : ∃ fuel, s1.nodes.entries.length = fuel + 1 :=
    ⟨_, (Nat.succ_pred_eq_of_pos (size_pos_of_lookup hk1)).symm⟩
  have hcatch : catchValue u64Max s1 (.specifiedLocal 1 0 1 .zero 0 {} true) =
      .ok (.missed, .specifiedLocal 1 0 0 .zero 0 {} true,
        s1.insertNode 1 (.specifiedLocal 0 0 1 .zero 0 ⟨1, 0⟩ false)) := by
    simp [catchValue, findAncestorPatron, findPatronLoop, hk1, hfuel, GasNode.isPatron,
      GasNode.isUnspecifiedLocal, GasNode.value, GasNode.withValue, saturatingAdd, u64Max]
  -- then `get_origin_node` looks for the root `0`, which is gone
  have hor : getOriginNode (s1.insertNode 1 (.specifiedLocal 0 0 1 .zero 0 ⟨1, 0⟩ false)) 2 =
      .error .nodeNotFound := by
    simp [getOriginNode, hk2, hk0, GasNode.externalData, GasNode.rootId]
  have hcons : consume u64Max s1 2 = (.error .nodeNotFound,
      s1.insertNode 1 (.specifiedLocal 0 0 1 .zero 0 ⟨1, 0⟩ false)) := by
    simp only [consume, hk2, GasNode.isConsumed, GasNode.lock, GasNode.systemReserve,
      GasNode.markConsumed, hcatch, hor]
    rfl
  have happ' : (Op.consume 2 : Op Unit ℕ Unit).apply u64Max s1 =
      withResult .consumed (consume u64Max s1 2) := rfl
  rw [happ', hcons]
  refine ⟨rfl, fun heq => ?_⟩
  -- the write shows in the value of `1`
  have hlook := congrArg (fun (l : AList fun _ : ℕ => GasNode Unit ℕ Unit) => l.lookup 1) heq
  simp only [withResult, insertNode_nodes, AList.lookup_insert, hk1, Option.some.injEq] at hlook
  cases hlook


/-- Atomicity fails past `u32::MAX` specified children: at the end of the
spec-saturation run, a `consume` of `2` moves its 1 into the patron `1` and
only then finds `2`'s root gone, failing with `NodeNotFound` after the
write. -/
theorem consume_writes_then_node_not_found :
    ((Op.consume 2 : Op Unit ℕ Unit).apply u64Max (run u64Max .empty specSaturationRun)).1 =
        .error .nodeNotFound ∧
      ((Op.consume 2 : Op Unit ℕ Unit).apply u64Max (run u64Max .empty specSaturationRun)).2.nodes ≠
        (run u64Max .empty specSaturationRun).nodes := by
  unfold specSaturationRun
  rw [run_snoc]
  exact consume_below_lost_root specRootGone_run

end Run

end Gear.GasTree
