import Gear.GasTree.Shape

/-!
# The cascade of `try_remove_consumed_ancestors`

When `consume` removes a childless node, `try_remove_consumed_ancestors`
walks up from its parent and removes every consumed non-patron ancestor
left without specified children, taking its value into the consume output
on the way. The walk re-runs `catch_value` only while the carried output is
`Blocked` (the consumed node was unspecified); afterwards it reuses the
output it has, relying on the ancestors it removes holding no value.

`CascadeInv` is what holds at each test of the loop condition. From it,
`removeAncestorsLoop_spec` proves by induction on the fuel, with the rank
potential `rankBelow` below the fuel, that the loop

* ends without an error (so never with `ValueIsBlocked`, `ValueIsNotCaught`,
  `ParentIsLost` or `UnexpectedNodeType`),
* leaves a storage satisfying `TreeInv`,
* conserves value: what leaves the storage is what the output gained, and
* once the carried output is not blocked, adds to the consume output only
  what that carried output gives.

The invariant turns on its `missed` and `caught` fields: a `Missed` output
means a patron is reachable above the current node through specified nodes,
so the walk stops at it before it reaches a root; a `Caught` one means none
is, so the walk does not stop early and the output is taken.
`tryRemoveConsumedAncestors_spec` is the form `consume` uses.
-/

namespace Gear.GasTree

variable {E K M : Type} [DecidableEq K]

open TreeState TreeImpl

/-! ## What `catch_value` writes -/

/-- `s'` is `s`, or `s` with the value of one stored patron overwritten. -/
def PatronWrite (s s' : TreeState E K M) : Prop :=
  s' = s ∨ ∃ q qn v, s.nodes.lookup q = some qn ∧ qn.isPatron = true ∧
    s' = s.insertNode q (qn.withValue v)

omit [DecidableEq K] in
/-- A patron keeps `Settled` under any value: if it is consumed, an
unspecified child still relies on it. -/
theorem GasNode.Settled.withValue_of_isPatron {n : GasNode E K M} (h : n.Settled)
    (hp : n.isPatron = true) (v : ℕ) : (n.withValue v).Settled :=
  h.withValue_of_unspec (GasNode.unspecRefs_ne_zero_of_isPatron hp) v

namespace PatronWrite

variable {s s' : TreeState E K M}

theorem linked (h : PatronWrite s s') (hL : Linked s) : Linked s' := by
  rcases h with rfl | ⟨q, qn, v, hq, -, rfl⟩
  · exact hL
  · exact hL.payload hq ⟨by simp, by simp, by simp⟩

theorem counted (h : PatronWrite s s') (hC : Counted s) : Counted s' := by
  rcases h with rfl | ⟨q, qn, v, hq, -, rfl⟩
  · exact hC
  · exact hC.payload hq ⟨by simp, by simp, by simp⟩ (by simp) (by simp)

theorem ranked {r : K → ℕ} (h : PatronWrite s s') (hr : Ranked r s) : Ranked r s' := by
  rcases h with rfl | ⟨q, qn, v, hq, -, rfl⟩
  · exact hr
  · refine hr.of_parents fun k n' hk => ?_
    by_cases hkq : k = q
    · subst hkq
      rw [lookup_insertNode_self, Option.some.injEq] at hk
      exact ⟨qn, hq, by rw [← hk, GasNode.parent_withValue]⟩
    · rw [lookup_insertNode_ne _ _ hkq] at hk
      exact ⟨n', hk, rfl⟩

theorem agree (r : K → ℕ) (R : ℕ) (h : PatronWrite s s') : AgreeBelow r R s s' := by
  rcases h with rfl | ⟨q, qn, v, hq, -, rfl⟩
  · intro k _
    rfl
  · exact agreeBelow_insertNode r R hq (by simp [GasNode.chainView])

theorem total_eq (h : PatronWrite s s') : s'.total = s.total := by
  rcases h with rfl | ⟨q, qn, v, hq, -, rfl⟩
  · rfl
  · rfl

theorem rankBelow_eq (r : K → ℕ) (h : PatronWrite s s') (j : K) :
    rankBelow r s' j = rankBelow r s j := by
  rcases h with rfl | ⟨q, qn, v, hq, -, rfl⟩
  · rfl
  · exact rankBelow_insertNode r hq j

/-- Non-patrons are left where they are. -/
theorem lookup_of_not_patron (h : PatronWrite s s') {k : K} {n : GasNode E K M}
    (hk : s.nodes.lookup k = some n) (hp : n.isPatron = false) : s'.nodes.lookup k = some n := by
  rcases h with rfl | ⟨q, qn, v, hq, hqp, rfl⟩
  · exact hk
  · have hkq : k ≠ q := by
      rintro rfl
      rw [hk, Option.some.injEq] at hq
      rw [hq, hqp] at hp
      exact Bool.noConfusion hp
    rw [lookup_insertNode_ne _ _ hkq]
    exact hk

theorem settled (h : PatronWrite s s') {c : K}
    (hS : ∀ k n, k ≠ c → s.nodes.lookup k = some n → n.Settled) :
    ∀ k n, k ≠ c → s'.nodes.lookup k = some n → n.Settled := by
  rcases h with rfl | ⟨q, qn, v, hq, hqp, rfl⟩
  · exact hS
  · intro k n hkc hk
    by_cases hkq : k = q
    · subst hkq
      rw [lookup_insertNode_self, Option.some.injEq] at hk
      subst hk
      exact (hS _ qn hkc hq).withValue_of_isPatron hqp v
    · rw [lookup_insertNode_ne _ _ hkq] at hk
      exact hS k n hkc hk

end PatronWrite

/-- Moving value `v` from a stored node onto a distinct stored patron: while
the value sum fits the balance type, the patron's `saturating_add` is exact
and the sum grows by `v` (the node's own write comes separately). -/
theorem valueSum_feedPatron {bmax : ℕ} {s : TreeState E K M} (hb : valueSum s ≤ bmax) {q k : K}
    {qn n : GasNode E K M} {qv v : ℕ} (hq : s.nodes.lookup q = some qn) (hqv : qn.value = some qv)
    (hk : s.nodes.lookup k = some n) (hv : v ≤ n.totalValue) (hne : q ≠ k) :
    valueSum (s.insertNode q (qn.withValue (saturatingAdd bmax (qn.value.getD 0) v))) =
      valueSum s + v := by
  have hroom := totalValue_add_le_valueSum hq hk hne
  have hqt : qv ≤ qn.totalValue := by
    unfold GasNode.totalValue
    rw [hqv, Option.getD_some]
    omega
  rw [hqv, Option.getD_some, saturatingAdd_of_le (by omega)]
  have hins : valueSum (s.insertNode q (qn.withValue (qv + v))) + qn.totalValue =
      valueSum s + (qn.withValue (qv + v)).totalValue := valueSum_insertNode hq
  have hqw := GasNode.totalValue_withValue hqv (qv + v)
  omega

/-! ## The loop invariant -/

/-- What holds at each test of the loop condition of
`try_remove_consumed_ancestors`: at `cur`, whose stored node is `node`, with
the carried catch output `co` and consume output `out`. The node below `cur`
has just been removed, so `cur` alone may break `Settled`. -/
structure CascadeInv (r : K → ℕ) (s : TreeState E K M) (cur : K) (node : GasNode E K M)
    (co : CatchValueOutput) (out : ConsumeOutput E M) : Prop where
  linked : Linked s
  counted : Counted s
  ranked : Ranked r s
  stored : s.nodes.lookup cur = some node
  can_parent : node.kind.canParent = true
  settled : ∀ k n, k ≠ cur → s.nodes.lookup k = some n → n.Settled
  /-- a consumed `cur` holds no locks and no system reservation -/
  clean : node.isConsumed = true → node.lock.total = 0 ∧ node.systemReserve.getD 0 = 0
  /-- a non-patron `cur` has given its value away, unless the output is still blocked -/
  drained : node.isPatron = false → co.isBlocked = false → node.value.getD 0 = 0
  blocked : co.isBlocked = true → out = none
  missed : co = .missed → PatronAbove s cur
  caught : ∀ c, co = .caught c → ¬ PatronAbove s cur ∧ (out = none → c = 0)

section Loop

variable {s : TreeState E K M} {r : K → ℕ} {cur : K} {node : GasNode E K M}
  {co : CatchValueOutput} {out : ConsumeOutput E M}

/-- A patron ends the walk, and it is `Settled` already: if it is consumed,
an unspecified child keeps it. -/
theorem CascadeInv.treeInv_of_patron (h : CascadeInv r s cur node co out)
    (hpat : node.isPatron = true) : TreeInv s := by
  refine ⟨h.linked, h.counted, fun k n hk => ?_⟩
  by_cases hkc : k = cur
  · subst hkc
    rw [h.stored, Option.some.injEq] at hk
    subst hk
    intro hc
    have hu := GasNode.unspecRefs_ne_zero_of_isPatron hpat hc
    obtain ⟨hl, hs⟩ := h.clean hc
    refine ⟨?_, hl, hs, fun h0 => absurd h0 hu⟩
    unfold GasNode.refs u32Max
    omega
  · exact h.settled k n hkc hk

omit [DecidableEq K] in
/-- Adding a caught output to a consume output that already has one changes
nothing; adding one to an empty output gives its value. -/
theorem consumedValue_or_caught (o : E) (m : M) (c : ℕ) (out : ConsumeOutput E M) :
    consumedValue (out.or ((CatchValueOutput.caught c).intoConsumeOutput o m)) =
      if out = none then c else consumedValue out := by
  cases out <;> rfl

omit [DecidableEq K] in
theorem consumedValue_or_missed (o : E) (m : M) (out : ConsumeOutput E M) :
    consumedValue (out.or (CatchValueOutput.missed.intoConsumeOutput o m)) = consumedValue out := by
  cases out <;> rfl

/-- A non-patron whose parent has no patron above has none above either. -/
theorem not_patronAbove_of_parent (hk : s.nodes.lookup cur = some node)
    (hpat : node.isPatron = false) {p : K} (hp : node.parent = some p) (h : ¬ PatronAbove s p) :
    ¬ PatronAbove s cur := by
  intro habove
  rcases habove.cases_lookup hk with h' | ⟨-, p', hp', habove'⟩
  · rw [hpat] at h'
    exact Bool.noConfusion h'
  · rw [hp, Option.some.injEq] at hp'
    subst hp'
    exact h habove'

/-- A specified node without a patron above: neither has its parent. -/
theorem not_patronAbove_parent (hk : s.nodes.lookup cur = some node) {p : K}
    (hp : node.parent = some p) (h : ¬ PatronAbove s cur) (hsp : node.kind = .specifiedLocal) :
    ¬ PatronAbove s p :=
  fun habove => h (.up hk hsp hp habove)

/-- One `catch_value` of the loop, or its reuse: the node keeps no value in
memory, and the output is no longer blocked. Value is conserved — what the
storage and the node lose, the consume output gains — while the value sum
fits the balance type, so that the patron's `saturating_add` is exact. -/
theorem cascade_catch (bmax : ℕ) (o : E) (m : M)
    (h : CascadeInv r s cur node co out) (hpat : node.isPatron = false) :
    ∃ co' s', (if co.isBlocked then catchValue bmax s node else .ok (co, node, s)) =
        .ok (co', node.withValue 0, s') ∧
      co'.isBlocked = false ∧ (co.isBlocked = false → co' = co) ∧ PatronWrite s s' ∧
      (co' = .missed → PatronAbove s' cur) ∧ (∀ c, co' = .caught c → ¬ PatronAbove s' cur) ∧
      (valueSum s ≤ bmax → valueSum s' + (node.withValue 0).totalValue +
          consumedValue (out.or (co'.intoConsumeOutput o m)) =
        valueSum s + node.totalValue + consumedValue out) := by
  have hcan := h.can_parent
  obtain ⟨v, hv⟩ := GasNode.value_isSome_of_kind (n := node) (by
    intro hu
    rw [hu] at hcan
    exact Bool.noConfusion hcan)
  have hwv := GasNode.totalValue_withValue hv 0
  cases hblk : co.isBlocked with
  | false =>
    -- the output is reused and the node holds nothing
    have hv0 : v = 0 := by
      have := h.drained hpat hblk
      rw [hv, Option.getD_some] at this
      exact this
    subst hv0
    rw [GasNode.withValue_of_value node hv]
    refine ⟨co, s, by simp, hblk, fun _ => rfl, Or.inl rfl, h.missed,
      fun c hc => (h.caught c hc).1, fun _ => ?_⟩
    cases co with
    | blocked => exact absurd hblk (by decide)
    | missed => rw [consumedValue_or_missed]
    | caught c =>
      rw [consumedValue_or_caught]
      by_cases hout : out = none
      · rw [if_pos hout, (h.caught c rfl).2 hout, hout]
        rfl
      · rw [if_neg hout]
  | true =>
    have hout : out = none := h.blocked hblk
    subst hout
    simp only [if_true]
    by_cases hsp : node.kind = .specifiedLocal
    · obtain ⟨p, pn, hp, -, hcv⟩ :=
        catchValue_specified bmax h.linked h.ranked h.stored rfl hsp hpat hv
      rcases hcv with ⟨hnone, heq⟩ | ⟨qn, qid, hq, hqp, habove, -, heq⟩
      · -- no patron above: the value is caught
        refine ⟨.caught v, s, heq, rfl, (fun h => by cases h), Or.inl rfl,
          (fun h => by cases h), fun c _ => not_patronAbove_of_parent h.stored hpat hp hnone,
          fun _ => ?_⟩
        show valueSum s + _ + v = valueSum s + _ + 0
        omega
      · -- the value moves to the first patron above
        have hqc : qid ≠ cur := by
          rintro rfl
          rw [h.stored, Option.some.injEq] at hq
          rw [← hq, hpat] at hqp
          exact Bool.noConfusion hqp
        have hwrite : PatronWrite s (if v = 0 then s
            else s.insertNode qid (qn.withValue (saturatingAdd bmax (qn.value.getD 0) v))) := by
          by_cases hv0 : v = 0
          · rw [if_pos hv0]
            exact Or.inl rfl
          · rw [if_neg hv0]
            exact Or.inr ⟨qid, qn, _, hq, hqp, rfl⟩
        refine ⟨.missed, _, heq, rfl, (fun h => by cases h), hwrite, ?_, ?_, ?_⟩
        · intro _
          exact (PatronAbove.up h.stored hsp hp habove).transfer h.ranked
            (hwrite.agree r (r cur)) le_rfl
        · intro c h'
          cases h'
        intro hb
        rw [consumedValue_or_missed]
        by_cases hv0 : v = 0
        · rw [if_pos hv0]
          subst hv0
          show valueSum s + _ + 0 = valueSum s + _ + 0
          omega
        · rw [if_neg hv0]
          -- the patron and the node are distinct, so the sum has room
          obtain ⟨qv, hqv⟩ := GasNode.value_isSome_of_kind (n := qn) (by
            intro hu
            rw [GasNode.isPatron_false_of_kind (Or.inr hu)] at hqp
            exact Bool.noConfusion hqp)
          have hnt : v ≤ node.totalValue := by
            unfold GasNode.totalValue
            rw [hv, Option.getD_some]
            omega
          rw [valueSum_feedPatron hb hq hqv h.stored hnt hqc]
          show valueSum s + v + _ + 0 = valueSum s + _ + 0
          omega
    · -- a root: nothing above, the value is caught
      have hroot : node.kind = .external ∨ node.kind = .cut ∨ node.kind = .reserved := by
        cases node <;> simp_all [GasNode.kind, GasNode.Kind.canParent]
      have heq := catchValue_root bmax (s := s) hpat hroot hv
      refine ⟨.caught v, s, heq, rfl, (fun h => by cases h), Or.inl rfl,
        (fun h => by cases h), fun c _ habove => ?_, fun _ => ?_⟩
      · rcases habove.cases_lookup h.stored with h' | ⟨h', -⟩
        · rw [hpat] at h'
          exact Bool.noConfusion h'
        · exact hsp h'
      · show valueSum s + _ + v = valueSum s + _ + 0
        omega

/-! ## One iteration of the loop -/

section Iteration

variable (bmax : ℕ) (o : E) (m : M) (fuel : ℕ) {s2 s3 : TreeState E K M} {n' : GasNode E K M}
  {co' : CatchValueOutput}

theorem removeAncestorsLoop_patron (hpat : node.isPatron = true) :
    removeAncestorsLoop bmax o m (fuel + 1) s cur node co out = (.ok out, s) := by
  simp [removeAncestorsLoop, hpat]

/-- A node that keeps specified children is written back and ends the walk. -/
theorem removeAncestorsLoop_keep (hpat : node.isPatron = false)
    (hcatch : (if co.isBlocked then catchValue bmax s node else .ok (co, node, s)) =
      .ok (co', n', s2))
    (hco : co'.isBlocked = false) (hs : n'.specRefs ≠ 0) :
    removeAncestorsLoop bmax o m (fuel + 1) s cur node co out =
      (.ok (out.or (co'.intoConsumeOutput o m)), s2.insertNode cur n') := by
  simp only [removeAncestorsLoop, hpat, Bool.false_eq_true, if_false]
  rw [hcatch]
  simp only [hco, Bool.false_eq_true, if_false, hs]

/-- A childless root is removed and ends the walk. -/
theorem removeAncestorsLoop_root (hpat : node.isPatron = false)
    (hcatch : (if co.isBlocked then catchValue bmax s node else .ok (co, node, s)) =
      .ok (co', n', s2))
    (hco : co'.isBlocked = false) (hcaught : co'.isCaught = true) (hs : n'.specRefs = 0)
    (hroot : n'.kind = .external ∨ n'.kind = .reserved) :
    removeAncestorsLoop bmax o m (fuel + 1) s cur node co out =
      (.ok (out.or (co'.intoConsumeOutput o m)), s2.removeNode cur) := by
  simp only [removeAncestorsLoop, hpat, Bool.false_eq_true, if_false]
  rw [hcatch]
  simp only [hco, Bool.false_eq_true, if_false, hs, if_true]
  rcases hroot with h | h <;> cases n' <;>
    simp_all [GasNode.kind, decreaseParentsRef, GasNode.parent]

/-- A childless specified node is removed and the walk goes on at its parent. -/
theorem removeAncestorsLoop_up (hpat : node.isPatron = false)
    (hcatch : (if co.isBlocked then catchValue bmax s node else .ok (co, node, s)) =
      .ok (co', n', s2))
    (hco : co'.isBlocked = false) (hs : n'.specRefs = 0) (hsp : n'.kind = .specifiedLocal)
    {p : K} (hp : n'.parent = some p) (hdec : decreaseParentsRef s2 n' = .ok s3)
    {pn : GasNode E K M} (hpn : (s3.removeNode cur).nodes.lookup p = some pn) :
    removeAncestorsLoop bmax o m (fuel + 1) s cur node co out =
      removeAncestorsLoop bmax o m fuel (s3.removeNode cur) p pn co'
        (out.or (co'.intoConsumeOutput o m)) := by
  simp only [removeAncestorsLoop, hpat, Bool.false_eq_true, if_false]
  rw [hcatch]
  simp only [hco, Bool.false_eq_true, if_false, hs, if_true, hdec]
  cases n' with
  | specifiedLocal parent root v l sr refs c =>
    simp only [GasNode.parent, Option.some.injEq] at hp
    subst hp
    simp only [hpn]
  | _ => simp [GasNode.kind] at hsp

end Iteration

/-! ## The loop -/

omit [DecidableEq K] in
theorem or_or_intoConsumeOutput (o : E) (m : M) (co : CatchValueOutput) (out : ConsumeOutput E M) :
    (out.or (co.intoConsumeOutput o m)).or (co.intoConsumeOutput o m) =
      out.or (co.intoConsumeOutput o m) := by
  cases out <;> cases co <;> rfl

/-- The parent of a stored local node counts it, so lowering the counter of
its kind leaves exactly the other children. -/
theorem decreaseParent_counts {s2 : TreeState E K M} (hC : Counted s2) {c p : K}
    {cn pn : GasNode E K M} (hc : s2.nodes.lookup c = some cn) (hcp : cn.parent = some p)
    (hpn : s2.nodes.lookup p = some pn) :
    (if cn.kind = .specifiedLocal then pn.decreaseSpecRefs else pn.decreaseUnspecRefs).specRefs +
        childWeight .specifiedLocal p cn = pn.specRefs ∧
      (if cn.kind = .specifiedLocal then pn.decreaseSpecRefs else pn.decreaseUnspecRefs).unspecRefs +
        childWeight .unspecifiedLocal p cn = pn.unspecRefs := by
  have hmis : ∀ kd, cn.kind ≠ kd → childWeight kd p cn = 0 := by
    intro kd hkd
    unfold childWeight
    rw [if_neg (fun h => hkd h.1)]
  rcases GasNode.kind_local_of_parent hcp with hk | hk
  · -- a specified child: only the specified counter moves
    have hw : childWeight .specifiedLocal p cn = 1 := by
      unfold childWeight
      rw [if_pos ⟨hk, hcp⟩]
    have hle := childWeight_le_children .specifiedLocal p hc
    have hcount := hC.spec p pn hpn
    rw [if_pos hk, GasNode.specRefs_decreaseSpecRefs, hw,
      hmis .unspecifiedLocal (by rw [hk]; decide), Nat.add_zero]
    refine ⟨by omega, ?_⟩
    simp [GasNode.decreaseSpecRefs]
  · -- an unspecified child: only the unspecified counter moves
    have hw : childWeight .unspecifiedLocal p cn = 1 := by
      unfold childWeight
      rw [if_pos ⟨hk, hcp⟩]
    have hle := childWeight_le_children .unspecifiedLocal p hc
    have hcount := hC.unspec p pn hpn
    rw [if_neg (by rw [hk]; decide), GasNode.unspecRefs_decreaseUnspecRefs, hw,
      hmis .specifiedLocal (by rw [hk]; decide), Nat.add_zero]
    refine ⟨?_, by omega⟩
    simp [GasNode.decreaseUnspecRefs]

/-- Removing a childless local node `c` from under `p`, after the parent's
counter of `c`'s kind went down, starts the walk at `p`. The carried output
may be blocked only with an empty consume output; otherwise `c` was a
specified node, which leaves the parent's patron status alone, and the
output says at `p` whether a patron is above. -/
theorem cascadeInv_removeChild {s2 : TreeState E K M} {c p : K} {cn pn : GasNode E K M}
    (hL : Linked s2) (hC : Counted s2) (hr : Ranked r s2)
    (hS : ∀ k n, k ≠ c → s2.nodes.lookup k = some n → n.Settled)
    (hc : s2.nodes.lookup c = some cn) (hcp : cn.parent = some p) (hs : cn.specRefs = 0)
    (hu : cn.unspecRefs = 0) (hpn : s2.nodes.lookup p = some pn)
    (hblk : co.isBlocked = true → out = none)
    (hspec : co.isBlocked = false → cn.kind = .specifiedLocal)
    (hmiss : co = .missed → PatronAbove s2 p)
    (hcgt : ∀ v, co = .caught v → ¬ PatronAbove s2 p ∧ (out = none → v = 0)) :
    CascadeInv r ((s2.insertNode p (if cn.kind = .specifiedLocal then pn.decreaseSpecRefs
        else pn.decreaseUnspecRefs)).removeNode c) p
      (if cn.kind = .specifiedLocal then pn.decreaseSpecRefs else pn.decreaseUnspecRefs) co out := by
  have hcounts := decreaseParent_counts hC hc hcp hpn
  -- the parent's new node, and what it keeps of the old one
  generalize hpn' : (if cn.kind = .specifiedLocal then pn.decreaseSpecRefs
    else pn.decreaseUnspecRefs) = pn' at hcounts
  have hlt : r p < r c := hr c cn p hc hcp
  have hpc : p ≠ c := by
    intro he
    rw [he] at hlt
    exact lt_irrefl _ hlt
  obtain ⟨pn0, hpn0, hcan, -⟩ := hL.parent_ok c cn p hc hcp
  rw [hpn, Option.some.injEq] at hpn0
  subst hpn0
  -- the payload of the parent: same shape, same value, lock and reservation
  have hsh : SameShape pn' pn := by
    subst hpn'
    split <;> exact ⟨by simp [GasNode.decreaseSpecRefs, GasNode.decreaseUnspecRefs],
      by simp [GasNode.decreaseSpecRefs, GasNode.decreaseUnspecRefs],
      by simp [GasNode.decreaseSpecRefs, GasNode.decreaseUnspecRefs]⟩
  have hpay : pn'.isConsumed = pn.isConsumed ∧ pn'.lock = pn.lock ∧
      pn'.systemReserve = pn.systemReserve ∧ pn'.value = pn.value := by
    subst hpn'
    split <;> simp [GasNode.decreaseSpecRefs, GasNode.decreaseUnspecRefs]
  have hLC : Linked ((s2.insertNode p pn').removeNode c) ∧
      Counted ((s2.insertNode p pn').removeNode c) :=
    removeChild_inv hL hC hc hcp hpn (by rw [← hC.spec c cn hc]; exact hs)
      (by rw [← hC.unspec c cn hc]; exact hu) hsh hcounts.1 hcounts.2
  obtain ⟨hL', hC'⟩ := hLC
  have hr' : Ranked r ((s2.insertNode p pn').removeNode c) := by
    refine hr.of_parents fun k n' hk => ?_
    by_cases hkc : k = c
    · subst hkc
      rw [lookup_removeNode_self] at hk
      cases hk
    · rw [lookup_removeNode_ne _ hkc] at hk
      by_cases hkp : k = p
      · subst hkp
        rw [lookup_insertNode_self, Option.some.injEq] at hk
        exact ⟨pn, hpn, by rw [← hk]; exact hsh.2.1⟩
      · rw [lookup_insertNode_ne _ _ hkp] at hk
        exact ⟨n', hk, rfl⟩
  -- a specified removal keeps the parent's patron status, so the walk sees
  -- the same chain above `p`
  have hview : co.isBlocked = false → pn'.chainView = pn.chainView := by
    intro hnb
    subst hpn'
    rw [if_pos (hspec hnb)]
    simp [GasNode.chainView, GasNode.decreaseSpecRefs]
  have hpset := hS p pn hpc hpn
  refine ⟨hL', hC', hr', ?_, ?_, ?_, ?_, ?_, hblk, ?_, ?_⟩
  · rw [lookup_removeNode_ne _ hpc, lookup_insertNode_self]
  · rw [hsh.1]
    exact hcan
  · intro k n hkp hk
    by_cases hkc : k = c
    · subst hkc
      rw [lookup_removeNode_self] at hk
      cases hk
    · rw [lookup_removeNode_ne _ hkc, lookup_insertNode_ne _ _ hkp] at hk
      exact hS k n hkc hk
  · intro hcons
    rw [hpay.1] at hcons
    obtain ⟨-, hl, hsr, -⟩ := hpset hcons
    rw [hpay.2.1, hpay.2.2.1]
    exact ⟨hl, hsr⟩
  · intro hp' hnb
    rw [GasNode.isPatron_of_chainView (hview hnb)] at hp'
    obtain ⟨hcons, hunsp⟩ := (GasNode.isPatron_eq_false_iff hcan).1 hp'
    rw [hpay.2.2.2]
    exact (hpset hcons).2.2.2 hunsp
  -- the walk above `p` reads keys of rank at most that of `p`, in both states
  · intro hm
    have hnb : co.isBlocked = false := by rw [hm]; rfl
    exact (hmiss hm).transfer hr
      ((agreeBelow_insertNode r (r p) hpn (hview hnb)).trans (agreeBelow_removeNode hlt)) le_rfl
  · intro v hv
    have hnb : co.isBlocked = false := by rw [hv]; rfl
    refine ⟨fun habove => (hcgt v hv).1 (habove.transfer hr' ?_ le_rfl), (hcgt v hv).2⟩
    exact ((agreeBelow_insertNode r (r p) hpn (hview hnb)).trans (agreeBelow_removeNode hlt)).symm

/-- The removal step of the walk: `cur`, a childless specified non-patron,
is removed, and the walk goes on at its parent. -/
theorem CascadeInv.up (o : E) (m : M) (h : CascadeInv r s cur node co out)
    (hpat : node.isPatron = false) {co' : CatchValueOutput} {s2 : TreeState E K M}
    (hw : PatronWrite s s2) (hco : co'.isBlocked = false)
    (hmiss : co' = .missed → PatronAbove s2 cur) (hcgt : ∀ c, co' = .caught c → ¬ PatronAbove s2 cur)
    (hs : node.specRefs = 0) (hsp : node.kind = .specifiedLocal) {p : K}
    (hp : node.parent = some p) {pn : GasNode E K M} (hpn : s2.nodes.lookup p = some pn) :
    CascadeInv r ((s2.insertNode p pn.decreaseSpecRefs).removeNode cur) p pn.decreaseSpecRefs co'
      (out.or (co'.intoConsumeOutput o m)) := by
  have hstored2 := hw.lookup_of_not_patron h.stored hpat
  have hunsp := ((GasNode.isPatron_eq_false_iff h.can_parent).1 hpat).2
  have hinv : CascadeInv r ((s2.insertNode p (if node.kind = .specifiedLocal
      then pn.decreaseSpecRefs else pn.decreaseUnspecRefs)).removeNode cur) p
      (if node.kind = .specifiedLocal then pn.decreaseSpecRefs else pn.decreaseUnspecRefs) co'
      (out.or (co'.intoConsumeOutput o m)) := cascadeInv_removeChild
    (hw.linked h.linked) (hw.counted h.counted) (hw.ranked h.ranked) (hw.settled h.settled)
    hstored2 hp hs hunsp hpn (fun hb => by rw [hco] at hb; cases hb) (fun _ => hsp) ?_ ?_
  · rw [if_pos hsp] at hinv
    exact hinv
  · -- a patron above a non-patron specified node is above its parent
    intro hm
    rcases (hmiss hm).cases_lookup hstored2 with h' | ⟨-, p', hp', habove⟩
    · rw [hpat] at h'
      cases h'
    · rw [hp, Option.some.injEq] at hp'
      subst hp'
      exact habove
  · intro c hc
    refine ⟨not_patronAbove_parent hstored2 hp (hcgt c hc) hsp, fun hnone => ?_⟩
    subst hc
    cases out <;> cases hnone

omit [DecidableEq K] in
theorem consumedValue_le_or (out x : ConsumeOutput E M) :
    consumedValue out ≤ consumedValue (out.or x) := by
  cases out with
  | none => exact Nat.zero_le _
  | some _ => exact le_rfl

/-- The loop of `try_remove_consumed_ancestors` ends without an error within
the rank potential, leaves a storage satisfying `TreeInv`, and conserves
value; once the carried output is not blocked, the consume output gains only
what it gives. Induction on the fuel, one removal per step. -/
theorem removeAncestorsLoop_spec (bmax : ℕ) (o : E) (m : M) {r : K → ℕ} :
    ∀ fuel (s : TreeState E K M) cur node co out,
      CascadeInv r s cur node co out → rankBelow r s cur ≤ fuel →
      ∃ out' s', removeAncestorsLoop bmax o m fuel s cur node co out = (.ok out', s') ∧
        TreeInv s' ∧ s'.total = s.total ∧
        (valueSum s ≤ bmax → valueSum s' + consumedValue out' = valueSum s + consumedValue out) ∧
        (co.isBlocked = false →
          out' = if node.isPatron then out else out.or (co.intoConsumeOutput o m))
  | 0, s, cur, node, co, out, h, hf => absurd hf (by have := rankBelow_pos r h.stored; omega)
  | fuel + 1, s, cur, node, co, out, h, hf => by
    by_cases hpat : node.isPatron = true
    · -- a patron ends the walk
      refine ⟨out, s, removeAncestorsLoop_patron bmax o m fuel hpat, h.treeInv_of_patron hpat,
        rfl, fun _ => rfl, fun _ => ?_⟩
      rw [if_pos hpat]
    rw [Bool.not_eq_true] at hpat
    obtain ⟨co', s2, hcatch, hco', hsame, hw, hmiss, hcgt, hval⟩ := cascade_catch bmax o m h hpat
    obtain ⟨hcons, hunsp⟩ := (GasNode.isPatron_eq_false_iff h.can_parent).1 hpat
    obtain ⟨hl0, hsr0⟩ := h.clean hcons
    have hL2 := hw.linked h.linked
    have hC2 := hw.counted h.counted
    have hS2 := hw.settled h.settled
    have hstored2 := hw.lookup_of_not_patron h.stored hpat
    -- the node leaves memory holding nothing
    have hzero : (node.withValue 0).totalValue = 0 := by
      obtain ⟨v, hv⟩ := GasNode.value_isSome_of_kind (n := node) (by
        intro hu
        have hcan := h.can_parent
        rw [hu] at hcan
        exact Bool.noConfusion hcan)
      have hwv := GasNode.totalValue_withValue hv 0
      unfold GasNode.totalValue at hwv ⊢
      rw [hv, Option.getD_some, hl0, hsr0] at hwv
      omega
    have hgrow := consumedValue_le_or out (co'.intoConsumeOutput o m)
    have hrel : co.isBlocked = false → out.or (co'.intoConsumeOutput o m) =
        if node.isPatron then out else out.or (co.intoConsumeOutput o m) := by
      intro hnb
      rw [hsame hnb, hpat]
      rfl
    by_cases hs : node.specRefs = 0
    · have hrem := valueSum_removeNode (s := s2) hstored2
      by_cases hsp : node.kind = .specifiedLocal
      · -- a specified node is removed and the walk goes on at its parent
        obtain ⟨p, hp⟩ := GasNode.exists_parent_of_kind (Or.inl hsp)
        obtain ⟨pn, hpn, -, hdec⟩ := decreaseParentsRef_local (n := node.withValue 0) hL2 hC2
          hstored2 (GasNode.kind_withValue node 0) (GasNode.parent_withValue node 0)
          (by rw [GasNode.parent_withValue]; exact hp)
        rw [GasNode.kind_withValue, if_pos hsp] at hdec
        have hlt : r p < r cur := h.ranked cur node p h.stored hp
        have hpc : p ≠ cur := by
          intro he
          rw [he] at hlt
          exact lt_irrefl _ hlt
        have hpn' : ((s2.insertNode p pn.decreaseSpecRefs).removeNode cur).nodes.lookup p =
            some pn.decreaseSpecRefs := by
          rw [lookup_removeNode_ne _ hpc, lookup_insertNode_self]
        have hstep : removeAncestorsLoop bmax o m (fuel + 1) s cur node co out = _ :=
          removeAncestorsLoop_up bmax o m fuel hpat hcatch hco'
          (by rw [GasNode.specRefs_withValue]; exact hs) (by rw [GasNode.kind_withValue]; exact hsp)
          (by rw [GasNode.parent_withValue]; exact hp) hdec hpn'
        -- the parent's counter changes, its value does not
        have hins : valueSum (s2.insertNode p pn.decreaseSpecRefs) + pn.totalValue =
            valueSum s2 + pn.decreaseSpecRefs.totalValue := valueSum_insertNode hpn
        have hrem3 := valueSum_removeNode (s := s2.insertNode p pn.decreaseSpecRefs)
          (by rw [lookup_insertNode_ne _ _ (Ne.symm hpc)]; exact hstored2)
        rw [show pn.decreaseSpecRefs.totalValue = pn.totalValue by
          simp [GasNode.decreaseSpecRefs]] at hins
        have hinv' := h.up o m hpat hw hco' hmiss hcgt hs hsp hp hpn
        have hf' : rankBelow r ((s2.insertNode p pn.decreaseSpecRefs).removeNode cur) p ≤ fuel := by
          have h1 := rankBelow_removeNode_le r (s := s2.insertNode p pn.decreaseSpecRefs)
            (by rw [lookup_insertNode_ne _ _ (Ne.symm hpc)]; exact hstored2) p
          have h2 : rankBelow r (s2.insertNode p pn.decreaseSpecRefs) p = rankBelow r s2 p :=
            rankBelow_insertNode r hpn p
          have h3 := hw.rankBelow_eq r p
          have h4 := rankBelow_parent_lt r h.stored hlt
          omega
        obtain ⟨out', s', heq', hinv'', htot, hval', hrel'⟩ :=
          removeAncestorsLoop_spec bmax o m fuel _ p _ co' _ hinv' hf'
        refine ⟨out', s', hstep.trans heq', hinv'', htot.trans hw.total_eq, fun hb => ?_,
          fun hnb => ?_⟩
        · have hval2 := hval hb
          have hval3 := hval' (by omega)
          omega
        rw [hrel' hco', or_or_intoConsumeOutput, ite_self]
        exact hrel hnb
      · -- a root is removed and ends the walk with the value caught
        have hroot : node.kind = .external ∨ node.kind = .reserved := by
          have hcan := h.can_parent
          cases node <;> simp_all [GasNode.kind, GasNode.Kind.canParent]
        have hcaught : co'.isCaught = true := by
          cases co' with
          | blocked => exact absurd hco' (by decide)
          | caught c => rfl
          | missed =>
            rcases (hmiss rfl).cases_lookup hstored2 with h' | ⟨h', -⟩
            · rw [hpat] at h'
              exact Bool.noConfusion h'
            · exact absurd h' hsp
        have hstep : removeAncestorsLoop bmax o m (fuel + 1) s cur node co out = _ :=
          removeAncestorsLoop_root bmax o m fuel hpat hcatch hco' hcaught
          (by rw [GasNode.specRefs_withValue]; exact hs) (by rw [GasNode.kind_withValue]; exact hroot)
        obtain ⟨hL', hC'⟩ := removeRoot_inv hL2 hC2 hstored2
          (GasNode.parent_eq_none_of_kind (by rcases hroot with h' | h' <;> rw [h'] <;> decide))
          (by rw [← hC2.spec cur node hstored2]; exact hs)
          (by rw [← hC2.unspec cur node hstored2]; exact hunsp)
        refine ⟨_, _, hstep, ⟨hL', hC', fun k n hk => ?_⟩, hw.total_eq, fun hb => ?_, hrel⟩
        · have hkc : k ≠ cur := by
            rintro rfl
            rw [lookup_removeNode_self] at hk
            cases hk
          rw [lookup_removeNode_ne _ hkc] at hk
          exact hS2 k n hkc hk
        · have hval2 := hval hb
          omega
    · -- a node with specified children stays, written back without value
      have hstep : removeAncestorsLoop bmax o m (fuel + 1) s cur node co out = _ :=
        removeAncestorsLoop_keep bmax o m fuel hpat hcatch hco'
        (by rw [GasNode.specRefs_withValue]; exact hs)
      have hins : valueSum (s2.insertNode cur (node.withValue 0)) + node.totalValue =
          valueSum s2 + (node.withValue 0).totalValue := valueSum_insertNode hstored2
      have hsh : SameShape (node.withValue 0) node := ⟨by simp, by simp, by simp⟩
      refine ⟨_, _, hstep, ⟨hL2.payload hstored2 hsh,
        hC2.payload hstored2 hsh (by simp) (by simp), fun k n hk => ?_⟩, hw.total_eq, fun hb => ?_,
        hrel⟩
      · by_cases hkc : k = cur
        · subst hkc
          rw [lookup_insertNode_self, Option.some.injEq] at hk
          subst hk
          intro _
          refine ⟨?_, by simp [hl0], by simp [hsr0], fun _ => ?_⟩
          · unfold GasNode.refs u32Max
            rw [GasNode.specRefs_withValue, GasNode.unspecRefs_withValue]
            omega
          rw [GasNode.value_withValue]
          cases node.value <;> rfl
        · rw [lookup_insertNode_ne _ _ hkc] at hk
          exact hS2 k n hkc hk
      · have hval2 := hval hb
        omega

/-- `try_remove_consumed_ancestors` from the parent `p` of a node `consume`
removed: the walk starts with an output that is `Caught(0)` for a caught
one (the value was taken already) and otherwise the descendant's own. A
`Missed` walk adds nothing; a `Caught` one ends with the zero output. -/
theorem tryRemoveConsumedAncestors_spec (bmax : ℕ) {r : K → ℕ} {s : TreeState E K M} {p : K}
    {pn : GasNode E K M} {co : CatchValueOutput}
    (h : CascadeInv r s p pn (if co.isCaught then .caught 0 else co) none) :
    ∃ out' s', tryRemoveConsumedAncestors bmax s p co = (.ok out', s') ∧ TreeInv s' ∧
      s'.total = s.total ∧ (valueSum s ≤ bmax → valueSum s' + consumedValue out' = valueSum s) ∧
      (co = .missed → out' = none) ∧ (∀ c, co = .caught c → ∃ mo, out' = some (0, mo)) := by
  obtain ⟨o, m, rt, hor⟩ := getOriginNode_ok h.linked h.stored
  have hfuel : rankBelow r s p ≤ s.nodes.entries.length := rankBelow_le_size r s p
  obtain ⟨out', s', heq, hinv, htot, hval, hrel⟩ :=
    removeAncestorsLoop_spec bmax o m _ s p pn _ none h hfuel
  have htry : tryRemoveConsumedAncestors bmax s p co =
      removeAncestorsLoop bmax o m s.nodes.entries.length s p pn
        (if co.isCaught then .caught 0 else co) none := by
    simp [tryRemoveConsumedAncestors, h.stored, hor]
  refine ⟨out', s', htry.trans heq, hinv, htot, fun hb => ?_, fun hm => ?_, fun c hc => ?_⟩
  · have := hval hb
    rw [show consumedValue (none : ConsumeOutput E M) = 0 from rfl] at this
    omega
  · subst hm
    rw [hrel rfl]
    split <;> rfl
  · subst hc
    -- no patron above `p`, so `p` is not one and the walk takes the output
    have hnot := (h.caught 0 rfl).1
    have hpat : pn.isPatron = false := by
      cases hp : pn.isPatron with
      | false => rfl
      | true => exact absurd (.here h.stored hp) hnot
    rw [hrel rfl, hpat]
    exact ⟨(m, o), rfl⟩

end Loop

end Gear.GasTree
