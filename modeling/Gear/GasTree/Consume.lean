import Gear.GasTree.Cascade

/-!
# `consume`

`consume` marks a node consumed, lets `catch_value` move or catch its value,
and then either writes the node back (it still has children) or removes it
and, for a local node, walks up with `try_remove_consumed_ancestors`. Its
last step subtracts a caught value from the total.

On a storage satisfying `TreeInv` every path is taken without an invariant
error. `consume_spec` says so, together with what the node work leaves
behind: either a user error before any write, or an output `out` and a
storage satisfying `TreeInv`, with the total untouched and, while the value
sum fits the balance type, exactly `out`'s value taken out of the nodes. The
last step is then `consumeTail out`.

The paths, one lemma each:

* `consume_patron` — the marked node is still a patron (it has unspecified
  children): it is written back, blocked, nothing is caught;
* `consume_unspecified` — an unspecified leaf: removed, its parent's
  counter lowered, and the walk starts at the parent with a blocked output;
* `consume_root` — a root that is no patron: its value is caught, and it is
  removed if childless;
* `consume_specified` — a specified node that is no patron: its value is
  caught or moved to the first patron above; removed if childless, the walk
  then starts at the parent, and the two outputs are compatible — the checks
  `ValueIsBlocked` and `UnexpectedConsumeOutput` pass.
-/

namespace Gear.GasTree

variable {E K M : Type} [DecidableEq K]

open TreeState TreeImpl

/-- The end of `consume` ("Update Total in storage"): once the node work
ended with the output `out` in `s`, a caught value leaves the total, which
is reset to `None` on underflow. -/
def consumeTail (out : ConsumeOutput E M) (s : TreeState E K M) :
    Except GasTreeError (ConsumeOutput E M) × TreeState E K M :=
  match out with
  | none => (.ok none, s)
  | some (v, mo) =>
    match negativeApplyTo v s.total with
    | some t => (.ok (some (v, mo)), s.mutateTotal (some t))
    | none => (.error .totalValueIsUnderflowed, s.mutateTotal none)

/-- What the node work of `consume` achieves: an output `out` in a storage
satisfying `TreeInv`, with the total untouched and, while the value sum fits
the balance type, exactly `out`'s value taken out of the nodes. -/
def ConsumeDone (bmax : ℕ) (s : TreeState E K M) (key : K) : Prop :=
  ∃ out s', TreeInv s' ∧ s'.total = s.total ∧
    (valueSum s ≤ bmax → valueSum s' + consumedValue out = valueSum s) ∧
    consume bmax s key = consumeTail out s'

/-! ## Node facts -/

namespace GasNode

variable {n : GasNode E K M}

omit [DecidableEq K] in
theorem refs_eq_zero_iff : n.refs = 0 ↔ n.specRefs = 0 ∧ n.unspecRefs = 0 := by
  unfold refs u32Max
  omega

omit [DecidableEq K] in
/-- Cut and unspecified nodes carry no counters. -/
theorem refs_of_kind (h : n.kind = .cut ∨ n.kind = .unspecifiedLocal) :
    n.specRefs = 0 ∧ n.unspecRefs = 0 := by
  cases n <;> simp_all [kind, specRefs, unspecRefs]

omit [DecidableEq K] in
theorem isConsumed_markConsumed (h : n.kind.canParent = true) : n.markConsumed.isConsumed = true := by
  cases n <;> simp_all [kind, Kind.canParent, markConsumed, isConsumed]

omit [DecidableEq K] in
/-- A marked node that may be a parent is a patron exactly while it has
unspecified children. -/
theorem isPatron_markConsumed (h : n.kind.canParent = true) :
    n.markConsumed.isPatron = false ↔ n.unspecRefs = 0 := by
  have hc' : n.markConsumed.kind.canParent = true := by rw [kind_markConsumed]; exact h
  rw [isPatron_eq_false_iff hc', isConsumed_markConsumed h, unspecRefs_markConsumed]
  simp

end GasNode

omit [DecidableEq K] in
/-- The storage checks of `consume` passed. -/
theorem systemReserve_any_eq_false {n : GasNode E K M} (h : n.systemReserve.getD 0 = 0) :
    n.systemReserve.any (· ≠ 0) = false := by
  cases hs : n.systemReserve with
  | none => rfl
  | some sr =>
    rw [hs, Option.getD_some] at h
    simp [h]

/-! ## The paths -/

section Paths

variable {s : TreeState E K M} {key : K} {node : GasNode E K M}

/-- A node that keeps unspecified children stays, consumed and blocked. -/
theorem consume_patron (bmax : ℕ) (hI : TreeInv s) (hk : s.nodes.lookup key = some node)
    (hc : node.isConsumed = false) (hl : node.lock.total = 0)
    (hsr : node.systemReserve.getD 0 = 0) (hpat : node.markConsumed.isPatron = true) :
    ConsumeDone bmax s key := by
  obtain ⟨o, m, rt, hor⟩ := getOriginNode_ok hI.linked hk
  have hcan : node.kind.canParent = true := by
    cases h : node.kind <;> simp_all [GasNode.isPatron_false_of_kind, GasNode.Kind.canParent]
  have hcons := GasNode.isConsumed_markConsumed hcan
  have hu : node.unspecRefs ≠ 0 := by
    rw [← GasNode.unspecRefs_markConsumed]
    exact GasNode.unspecRefs_ne_zero_of_isPatron hpat hcons
  have hrefs : node.markConsumed.refs ≠ 0 := by
    rw [Ne, GasNode.refs_eq_zero_iff, GasNode.unspecRefs_markConsumed]
    exact fun h => hu h.2
  have hnc : (node.markConsumed.isCut || node.markConsumed.isUnspecifiedLocal) = false := by
    cases node <;> simp_all [GasNode.kind, GasNode.Kind.canParent, GasNode.isCut,
      GasNode.isUnspecifiedLocal, GasNode.markConsumed]
  have heq : consume bmax s key = consumeTail none (s.insertNode key node.markConsumed) := by
    simp only [consume, hk, hc, (NodeLock.isZero_iff _).2 hl, systemReserve_any_eq_false hsr,
      Bool.not_true, Bool.false_eq_true, if_false, catchValue_blocked bmax (Or.inl hpat), hor,
      hrefs, hnc]
    rfl
  have hsh : SameShape node.markConsumed node := ⟨by simp, by simp, by simp⟩
  have hins : valueSum (s.insertNode key node.markConsumed) + node.totalValue =
      valueSum s + node.markConsumed.totalValue := valueSum_insertNode hk
  rw [GasNode.totalValue_markConsumed] at hins
  refine ⟨none, _, ⟨hI.linked.payload hk hsh, hI.counted.payload hk hsh (by simp) (by simp),
    fun j n hj => ?_⟩, rfl, fun _ => by simp only [consumedValue]; omega, heq⟩
  by_cases hjk : j = key
  · -- the marked node is kept by its unspecified children
    subst hjk
    rw [lookup_insertNode_self, Option.some.injEq] at hj
    subst hj
    intro _
    refine ⟨Nat.pos_of_ne_zero hrefs, by simp [hl], by simp [hsr], fun h0 => ?_⟩
    rw [GasNode.unspecRefs_markConsumed] at h0
    exact absurd h0 hu
  · rw [lookup_insertNode_ne _ _ hjk] at hj
    exact hI.settled j n hj

/-- An unspecified leaf is removed and the walk starts at its parent with a
blocked output: the parent may now give up its value. -/
theorem consume_unspecified (bmax : ℕ) (hI : TreeInv s) (hk : s.nodes.lookup key = some node)
    (hc : node.isConsumed = false) (hl : node.lock.total = 0)
    (hsr : node.systemReserve.getD 0 = 0) (hu : node.kind = .unspecifiedLocal) :
    ConsumeDone bmax s key := by
  obtain ⟨o, m, rt, hor⟩ := getOriginNode_ok hI.linked hk
  obtain ⟨r, hr⟩ := hI.linked.ranked
  have hmk : node.markConsumed = node := by
    cases node <;> simp_all [GasNode.kind, GasNode.markConsumed]
  obtain ⟨hs0, hu0⟩ := GasNode.refs_of_kind (Or.inr hu)
  obtain ⟨p, hp⟩ := GasNode.exists_parent_of_kind (Or.inr hu)
  obtain ⟨pn, hpn, -, hdec⟩ := decreaseParentsRef_local hI.linked hI.counted hk rfl rfl hp
  -- the leaf is gone and its parent counts one unspecified child less
  have hinv : CascadeInv r ((s.insertNode p (if node.kind = .specifiedLocal
      then pn.decreaseSpecRefs else pn.decreaseUnspecRefs)).removeNode key) p
      (if node.kind = .specifiedLocal then pn.decreaseSpecRefs else pn.decreaseUnspecRefs)
      (if CatchValueOutput.blocked.isCaught then .caught 0 else .blocked) none :=
    cascadeInv_removeChild hI.linked hI.counted hr (fun j n _ hj => hI.settled j n hj) hk hp
      hs0 hu0 hpn (fun _ => rfl) (fun h => by cases h) (fun h => by cases h)
      (fun _ h => by cases h)
  obtain ⟨out', s', htry, hinv', htot, hval, -, -⟩ := tryRemoveConsumedAncestors_spec bmax hinv
  have heq : consume bmax s key = consumeTail out' s' := by
    have hrefs : node.refs = 0 := GasNode.refs_eq_zero_iff.2 ⟨hs0, hu0⟩
    cases node with
    | unspecifiedLocal parent root l sr' =>
      simp only [GasNode.parent, Option.some.injEq] at hp
      subst hp
      simp only [consume, hk, hc, (NodeLock.isZero_iff _).2 hl, systemReserve_any_eq_false hsr,
        Bool.not_true, Bool.false_eq_true, if_false, hmk,
        catchValue_blocked bmax (Or.inr hu), hor, hrefs, if_true, hdec]
      rw [htry]
      cases out' <;> rfl
    | _ => simp [GasNode.kind] at hu
  -- an unspecified node holds no value of its own
  have hzero : node.totalValue = 0 := by
    unfold GasNode.totalValue
    have hv : node.value = none := by cases node <;> simp_all [GasNode.kind, GasNode.value]
    rw [hv, hl, hsr]
    rfl
  have hpc : p ≠ key := fun he => by
    have := hr key node p hk hp
    rw [he] at this
    exact lt_irrefl _ this
  have hins : valueSum (s.insertNode p (if node.kind = .specifiedLocal then pn.decreaseSpecRefs
      else pn.decreaseUnspecRefs)) + pn.totalValue =
      valueSum s + (if node.kind = .specifiedLocal then pn.decreaseSpecRefs
        else pn.decreaseUnspecRefs).totalValue := valueSum_insertNode hpn
  have hrem := valueSum_removeNode (k := key) (n := node)
    (s := s.insertNode p (if node.kind = .specifiedLocal then pn.decreaseSpecRefs
      else pn.decreaseUnspecRefs))
    (by rw [lookup_insertNode_ne _ _ (Ne.symm hpc)]; exact hk)
  have hpv : (if node.kind = .specifiedLocal then pn.decreaseSpecRefs
      else pn.decreaseUnspecRefs).totalValue = pn.totalValue := by
    split <;> simp [GasNode.decreaseSpecRefs, GasNode.decreaseUnspecRefs]
  refine ⟨out', s', hinv', htot, fun hb => ?_, heq⟩
  have := hval (by omega)
  omega

/-- A root that is no patron once marked gives its whole value to the
output, and is removed if it has no children. -/
theorem consume_root (bmax : ℕ) (hI : TreeInv s) (hk : s.nodes.lookup key = some node)
    (hc : node.isConsumed = false) (hl : node.lock.total = 0)
    (hsr : node.systemReserve.getD 0 = 0)
    (hroot : node.kind = .external ∨ node.kind = .cut ∨ node.kind = .reserved)
    (hpat : node.markConsumed.isPatron = false) :
    ConsumeDone bmax s key := by
  obtain ⟨o, m, rt, hor⟩ := getOriginNode_ok hI.linked hk
  obtain ⟨v, hv⟩ := GasNode.value_isSome_of_kind (n := node) (by
    rcases hroot with h | h | h <;> rw [h] <;> decide)
  have hcatch := catchValue_root bmax (s := s) hpat (by simpa using hroot)
    (by rw [GasNode.value_markConsumed]; exact hv)
  have hparent : node.parent = none :=
    GasNode.parent_eq_none_of_kind (by rcases hroot with h | h | h <;> rw [h] <;> decide)
  -- the whole value of the node is its own value
  have htv : node.totalValue = v := by
    unfold GasNode.totalValue
    rw [hv, hl, hsr]
    rfl
  have hzero : (node.markConsumed.withValue 0).totalValue = 0 := by
    have := GasNode.totalValue_withValue (n := node.markConsumed)
      (by rw [GasNode.value_markConsumed]; exact hv) 0
    rw [GasNode.totalValue_markConsumed] at this
    omega
  by_cases hrefs : node.refs = 0
  · -- childless: removed, its value caught
    obtain ⟨hs0, hu0⟩ := GasNode.refs_eq_zero_iff.1 hrefs
    have heq : consume bmax s key = consumeTail (some (v, m, o)) (s.removeNode key) := by
      have hrefs' : (node.markConsumed.withValue 0).refs = 0 := by
        rw [GasNode.refs_withValue, GasNode.refs_markConsumed]
        exact hrefs
      have hdec := decreaseParentsRef_root (s := s) (n := node.markConsumed.withValue 0)
        (by rw [GasNode.parent_withValue, GasNode.parent_markConsumed]; exact hparent)
      simp only [consume, hk, hc, (NodeLock.isZero_iff _).2 hl, systemReserve_any_eq_false hsr,
        Bool.not_true, Bool.false_eq_true, if_false, hcatch, hor, hrefs', if_true, hdec]
      -- the removed node's variant decides the last check
      rcases hroot with h | h | h <;> cases node <;> simp [GasNode.kind] at h <;> rfl
    obtain ⟨hL', hC'⟩ := removeRoot_inv hI.linked hI.counted hk hparent
      (by rw [← hI.counted.spec key node hk]; exact hs0)
      (by rw [← hI.counted.unspec key node hk]; exact hu0)
    have hrem := valueSum_removeNode (s := s) hk
    refine ⟨_, _, ⟨hL', hC', fun j n hj => ?_⟩, rfl, fun _ => ?_, heq⟩
    · have hjk : j ≠ key := by
        rintro rfl
        rw [lookup_removeNode_self] at hj
        cases hj
      rw [lookup_removeNode_ne _ hjk] at hj
      exact hI.settled j n hj
    · show valueSum (s.removeNode key) + v = valueSum s
      omega
  · -- it keeps specified children: written back, consumed and empty
    have hcan : node.kind.canParent = true := by
      rcases hroot with h | h | h
      · rw [h]
        rfl
      · exact absurd (GasNode.refs_eq_zero_iff.2 (GasNode.refs_of_kind (Or.inl h))) hrefs
      · rw [h]
        rfl
    have hnc : ((node.markConsumed.withValue 0).isCut ||
        (node.markConsumed.withValue 0).isUnspecifiedLocal) = false := by
      cases node <;> simp_all [GasNode.kind, GasNode.Kind.canParent, GasNode.isCut,
        GasNode.isUnspecifiedLocal, GasNode.markConsumed, GasNode.withValue]
    have hrefs' : (node.markConsumed.withValue 0).refs ≠ 0 := by
      rw [GasNode.refs_withValue, GasNode.refs_markConsumed]
      exact hrefs
    have heq : consume bmax s key =
        consumeTail (some (v, m, o)) (s.insertNode key (node.markConsumed.withValue 0)) := by
      simp only [consume, hk, hc, (NodeLock.isZero_iff _).2 hl, systemReserve_any_eq_false hsr,
        Bool.not_true, Bool.false_eq_true, if_false, hcatch, hor, hrefs', hnc]
      rfl
    have hsh : SameShape (node.markConsumed.withValue 0) node := ⟨by simp, by simp, by simp⟩
    have hins : valueSum (s.insertNode key (node.markConsumed.withValue 0)) + node.totalValue =
        valueSum s + (node.markConsumed.withValue 0).totalValue := valueSum_insertNode hk
    refine ⟨_, _, ⟨hI.linked.payload hk hsh,
      hI.counted.payload hk hsh (by simp) (by simp), fun j n hj => ?_⟩, rfl, fun _ => ?_, heq⟩
    · by_cases hjk : j = key
      · subst hjk
        rw [lookup_insertNode_self, Option.some.injEq] at hj
        subst hj
        intro _
        refine ⟨Nat.pos_of_ne_zero hrefs', by simp [hl], by simp [hsr], fun _ => ?_⟩
        rw [GasNode.value_withValue, GasNode.value_markConsumed, hv]
        rfl
      · rw [lookup_insertNode_ne _ _ hjk] at hj
        exact hI.settled j n hj
    · show valueSum _ + v = valueSum s
      omega

/-- The catch of a specified node that is no patron once marked: its value
is caught (no patron above) or moved to the first patron above, which lies
strictly above the node, so the node is left where it is. -/
theorem consume_catch_specified (bmax : ℕ) {r : K → ℕ} (hI : TreeInv s) (hr : Ranked r s)
    (hk : s.nodes.lookup key = some node) (hsp : node.kind = .specifiedLocal)
    (hpat : node.markConsumed.isPatron = false) {v : ℕ} (hv : node.value = some v) {p : K}
    (hp : node.parent = some p) :
    ∃ co s1, catchValue bmax s node.markConsumed = .ok (co, node.markConsumed.withValue 0, s1) ∧
      PatronWrite s s1 ∧ s1.nodes.lookup key = some node ∧ co.isBlocked = false ∧
      (co = .missed → PatronAbove s1 p) ∧ (∀ c, co = .caught c → c = v ∧ ¬ PatronAbove s1 p) ∧
      (∀ (o : E) (m : M), valueSum s ≤ bmax →
        valueSum s1 + consumedValue (co.intoConsumeOutput o m) = valueSum s + v) := by
  obtain ⟨p', pn, hp', -, hcv⟩ := catchValue_specified bmax hI.linked hr hk
    (GasNode.parent_markConsumed node) (by rw [GasNode.kind_markConsumed]; exact hsp) hpat
    (by rw [GasNode.value_markConsumed]; exact hv)
  rw [GasNode.parent_markConsumed, hp, Option.some.injEq] at hp'
  subst hp'
  rcases hcv with ⟨hnone, heq⟩ | ⟨qn, qid, hq, hqp, habove, hqr, heq⟩
  · -- no patron above: the value is caught
    refine ⟨.caught v, s, heq, Or.inl rfl, hk, rfl, (fun h => by cases h), fun c hc => ?_,
      fun _ _ _ => rfl⟩
    cases hc
    exact ⟨rfl, hnone⟩
  · -- the first patron above takes the value; it is strictly above the node
    have hqk : qid ≠ key := by
      intro he
      have hlt := hr key node p hk hp
      rw [he] at hqr
      omega
    have hwrite : PatronWrite s (if v = 0 then s
        else s.insertNode qid (qn.withValue (saturatingAdd bmax (qn.value.getD 0) v))) := by
      by_cases hv0 : v = 0
      · rw [if_pos hv0]
        exact Or.inl rfl
      · rw [if_neg hv0]
        exact Or.inr ⟨qid, qn, _, hq, hqp, rfl⟩
    have hk1 : (if v = 0 then s
        else s.insertNode qid (qn.withValue (saturatingAdd bmax (qn.value.getD 0) v))).nodes.lookup
          key = some node := by
      split
      · exact hk
      · rw [lookup_insertNode_ne _ _ (Ne.symm hqk)]
        exact hk
    refine ⟨.missed, _, heq, hwrite, hk1, rfl,
      fun _ => habove.transfer hr (hwrite.agree r (r p)) le_rfl, ?_, fun o m hb => ?_⟩
    · intro c hc
      cases hc
    rw [show consumedValue (CatchValueOutput.missed.intoConsumeOutput o m) = 0 from rfl,
      Nat.add_zero]
    by_cases hv0 : v = 0
    · rw [if_pos hv0, hv0, Nat.add_zero]
    · rw [if_neg hv0]
      obtain ⟨qv, hqv⟩ := GasNode.value_isSome_of_kind (n := qn) (by
        intro hu
        rw [GasNode.isPatron_false_of_kind (Or.inr hu)] at hqp
        exact Bool.noConfusion hqp)
      have hnt : v ≤ node.totalValue := by
        unfold GasNode.totalValue
        rw [hv, Option.getD_some]
        omega
      exact valueSum_feedPatron hb hq hqv hk hnt hqk

/-- A specified node that is no patron once marked: its value is caught or
moved up; if it is childless it is removed and the walk starts at its
parent, and the outputs of the node and of the walk are compatible. -/
theorem consume_specified (bmax : ℕ) (hI : TreeInv s) (hk : s.nodes.lookup key = some node)
    (hc : node.isConsumed = false) (hl : node.lock.total = 0)
    (hsr : node.systemReserve.getD 0 = 0) (hsp : node.kind = .specifiedLocal)
    (hpat : node.markConsumed.isPatron = false) :
    ConsumeDone bmax s key := by
  obtain ⟨r, hr⟩ := hI.linked.ranked
  obtain ⟨v, hv⟩ := GasNode.value_isSome_of_kind (n := node) (by rw [hsp]; decide)
  obtain ⟨p, hp⟩ := GasNode.exists_parent_of_kind (Or.inl hsp)
  obtain ⟨co, s1, hcatch, hw, hk1, hco, hmiss, hcgt, hval⟩ :=
    consume_catch_specified bmax hI hr hk hsp hpat hv hp
  have hL1 := hw.linked hI.linked
  have hC1 := hw.counted hI.counted
  have hS1 := hw.settled (c := key) (fun j n _ hj => hI.settled j n hj)
  obtain ⟨o, m, rt, hor⟩ := getOriginNode_ok hL1 hk1
  have hval' := hval o m
  have hsu : node.unspecRefs = 0 :=
    (GasNode.isPatron_markConsumed (by rw [hsp]; rfl)).1 hpat
  have htv : node.totalValue = v := by
    unfold GasNode.totalValue
    rw [hv, hl, hsr]
    rfl
  have hzero : (node.markConsumed.withValue 0).totalValue = 0 := by
    have := GasNode.totalValue_withValue (n := node.markConsumed)
      (by rw [GasNode.value_markConsumed]; exact hv) 0
    rw [GasNode.totalValue_markConsumed] at this
    omega
  by_cases hrefs : node.refs = 0
  · -- childless: removed, and the walk starts at the parent
    have hs0 := (GasNode.refs_eq_zero_iff.1 hrefs).1
    have hrefs' : (node.markConsumed.withValue 0).refs = 0 := by
      rw [GasNode.refs_withValue, GasNode.refs_markConsumed]
      exact hrefs
    have hp0 : (node.markConsumed.withValue 0).parent = some p := by
      rw [GasNode.parent_withValue, GasNode.parent_markConsumed]
      exact hp
    obtain ⟨pn, hpn, -, hdec⟩ := decreaseParentsRef_local hL1 hC1 hk1 (by simp) (by simp) hp0
    rw [GasNode.kind_withValue, GasNode.kind_markConsumed] at hdec
    have hinv : CascadeInv r ((s1.insertNode p (if node.kind = .specifiedLocal
        then pn.decreaseSpecRefs else pn.decreaseUnspecRefs)).removeNode key) p
        (if node.kind = .specifiedLocal then pn.decreaseSpecRefs else pn.decreaseUnspecRefs)
        (if co.isCaught then .caught 0 else co) none := by
      refine cascadeInv_removeChild hL1 hC1 (hw.ranked hr) hS1 hk1 hp hs0 hsu hpn
        (fun _ => rfl) (fun _ => hsp) (fun hm => ?_) (fun c hc' => ?_)
      · cases co with
        | blocked => exact absurd hco (by decide)
        | missed => exact hmiss rfl
        | caught c => cases hm
      · cases co with
        | blocked => exact absurd hco (by decide)
        | missed => cases hc'
        | caught c0 =>
          cases hc'
          exact ⟨(hcgt c0 rfl).2, fun _ => rfl⟩
    obtain ⟨out', s', htry, hinv', htot, hvalw, hmissout, hcaughtout⟩ :=
      tryRemoveConsumedAncestors_spec bmax hinv
    -- the walk adds nothing: a missed value stays missed, a caught one is taken once
    have hout : out' = none ∨ ∃ mo, out' = some (0, mo) := by
      cases co with
      | blocked => exact absurd hco (by decide)
      | missed => exact Or.inl (hmissout rfl)
      | caught c => exact Or.inr (hcaughtout c rfl)
    have heq : consume bmax s key = consumeTail (co.intoConsumeOutput o m) s' := by
      cases node with
      | specifiedLocal parent root nv l sr' refs' c' =>
        simp only [GasNode.parent, Option.some.injEq] at hp
        subst hp
        simp only [consume, hk, hc, (NodeLock.isZero_iff _).2 hl, systemReserve_any_eq_false hsr,
          Bool.not_true, Bool.false_eq_true, if_false, hcatch, hor, hrefs', if_true, hdec]
        simp only [GasNode.markConsumed, GasNode.withValue, hco, Bool.false_eq_true, if_false]
        rw [htry]
        cases co with
        | blocked => exact absurd hco (by decide)
        | missed =>
          rw [hmissout rfl]
          rfl
        | caught c =>
          obtain ⟨mo, hmo⟩ := hcaughtout c rfl
          rw [hmo]
          rfl
      | _ => simp [GasNode.kind] at hsp
    have hpk : p ≠ key := fun he => by
      have := hr key node p hk hp
      rw [he] at this
      exact lt_irrefl _ this
    have hins : valueSum (s1.insertNode p (if node.kind = .specifiedLocal then pn.decreaseSpecRefs
        else pn.decreaseUnspecRefs)) + pn.totalValue =
        valueSum s1 + (if node.kind = .specifiedLocal then pn.decreaseSpecRefs
          else pn.decreaseUnspecRefs).totalValue := valueSum_insertNode hpn
    have hpv : (if node.kind = .specifiedLocal then pn.decreaseSpecRefs
        else pn.decreaseUnspecRefs).totalValue = pn.totalValue := by
      split <;> simp [GasNode.decreaseSpecRefs]
    have hrem := valueSum_removeNode (k := key) (n := node)
      (s := s1.insertNode p (if node.kind = .specifiedLocal then pn.decreaseSpecRefs
        else pn.decreaseUnspecRefs))
      (by rw [lookup_insertNode_ne _ _ (Ne.symm hpk)]; exact hk1)
    have hwalk : consumedValue out' = 0 := by
      rcases hout with h0 | ⟨mo, h0⟩ <;> rw [h0] <;> rfl
    refine ⟨_, s', hinv', htot.trans hw.total_eq, fun hb => ?_, heq⟩
    have h1 := hval' hb
    have h2 := hvalw (by omega)
    omega
  · -- it keeps specified children: written back, consumed and empty
    have hrefs' : (node.markConsumed.withValue 0).refs ≠ 0 := by
      rw [GasNode.refs_withValue, GasNode.refs_markConsumed]
      exact hrefs
    have hnc : ((node.markConsumed.withValue 0).isCut ||
        (node.markConsumed.withValue 0).isUnspecifiedLocal) = false := by
      cases node <;> simp_all [GasNode.kind, GasNode.isCut, GasNode.isUnspecifiedLocal,
        GasNode.markConsumed, GasNode.withValue]
    have heq : consume bmax s key =
        consumeTail (co.intoConsumeOutput o m) (s1.insertNode key (node.markConsumed.withValue 0)) := by
      simp only [consume, hk, hc, (NodeLock.isZero_iff _).2 hl, systemReserve_any_eq_false hsr,
        Bool.not_true, Bool.false_eq_true, if_false, hcatch, hor, hrefs', hnc]
      cases co.intoConsumeOutput o m <;> rfl
    have hsh : SameShape (node.markConsumed.withValue 0) node := ⟨by simp, by simp, by simp⟩
    have hins : valueSum (s1.insertNode key (node.markConsumed.withValue 0)) + node.totalValue =
        valueSum s1 + (node.markConsumed.withValue 0).totalValue := valueSum_insertNode hk1
    have hcons := GasNode.isConsumed_markConsumed (n := node) (by rw [hsp]; rfl)
    refine ⟨_, _, ⟨hL1.payload hk1 hsh, hC1.payload hk1 hsh (by simp) (by simp),
      fun j n hj => ?_⟩, hw.total_eq, fun hb => ?_, heq⟩
    · by_cases hjk : j = key
      · subst hjk
        rw [lookup_insertNode_self, Option.some.injEq] at hj
        subst hj
        intro _
        refine ⟨Nat.pos_of_ne_zero hrefs', by simp [hl], by simp [hsr], fun _ => ?_⟩
        rw [GasNode.value_withValue, GasNode.value_markConsumed, hv]
        rfl
      · rw [lookup_insertNode_ne _ _ hjk] at hj
        exact hS1 j n hjk hj
    · have h1 := hval' hb
      omega

end Paths

/-! ## The last step -/

/-- A storage with the nodes of `s` is `s` with another total. -/
theorem TreeInv.of_nodes_eq {s s' : TreeState E K M} (h : TreeInv s) (hn : s'.nodes = s.nodes) :
    TreeInv s' := by
  have hs : s' = s.mutateTotal s'.total := by
    cases s
    cases s'
    simp_all [TreeState.mutateTotal]
  rw [hs]
  exact h.mutateTotal _

omit [DecidableEq K] in
theorem valueSum_of_nodes_eq {s s' : TreeState E K M} (hn : s'.nodes = s.nodes) :
    valueSum s' = valueSum s := by
  unfold valueSum
  rw [hn]

theorem consumeTail_treeInv {out : ConsumeOutput E M} {s' : TreeState E K M} (h : TreeInv s') :
    TreeInv (consumeTail out s').2 := by
  unfold consumeTail
  cases out with
  | none => exact h
  | some x =>
    obtain ⟨v, mo⟩ := x
    dsimp only
    cases negativeApplyTo v s'.total with
    | none => exact h.mutateTotal none
    | some t => exact h.mutateTotal (some t)

omit [DecidableEq K] in
/-- With enough total the last step succeeds and takes the output's value
out of the total. -/
theorem consumeTail_of_le {out : ConsumeOutput E M} {s' : TreeState E K M}
    (h : consumedValue out ≤ s'.totalSupply) :
    ∃ s'', consumeTail out s' = (.ok out, s'') ∧ s''.nodes = s'.nodes ∧
      s''.totalSupply + consumedValue out = s'.totalSupply := by
  cases out with
  | none => exact ⟨s', rfl, rfl, rfl⟩
  | some x =>
    obtain ⟨v, mo⟩ := x
    have hv : v ≤ s'.total.getD 0 := h
    refine ⟨s'.mutateTotal (some (s'.total.getD 0 - v)), ?_, rfl, ?_⟩
    · simp [consumeTail, negativeApplyTo, hv]
    · show s'.total.getD 0 - v + v = s'.total.getD 0
      omega

/-! ## `consume` -/

/-- `consume` on a storage satisfying `TreeInv` fails only with a user error
before any write, or does its node work (`ConsumeDone`): no invariant error
is reachable. Case split on the node's checks, then on its kind and on
whether it stays a patron once marked. -/
theorem consume_spec (bmax : ℕ) {s : TreeState E K M} (hI : TreeInv s) (key : K) :
    (∃ e, e.isUserError = true ∧ consume bmax s key = (.error e, s)) ∨ ConsumeDone bmax s key := by
  cases hk : s.nodes.lookup key with
  | none => exact Or.inl ⟨.nodeNotFound, rfl, by simp [consume, hk]⟩
  | some node =>
    by_cases hc : node.isConsumed = true
    · exact Or.inl ⟨.nodeWasConsumed, rfl, by simp [consume, hk, hc]⟩
    rw [Bool.not_eq_true] at hc
    by_cases hl : node.lock.total = 0
    swap
    · have hlz : node.lock.isZero = false := by
        cases h : node.lock.isZero with
        | false => rfl
        | true => exact absurd ((NodeLock.isZero_iff _).1 h) hl
      exact Or.inl ⟨.consumedWithLock, rfl, by simp [consume, hk, hc, hlz]⟩
    by_cases hsr : node.systemReserve.getD 0 = 0
    swap
    · have hany : node.systemReserve.any (· ≠ 0) = true := by
        cases h : node.systemReserve with
        | none => rw [h] at hsr; exact absurd rfl hsr
        | some sr =>
          rw [h, Option.getD_some] at hsr
          simp [hsr]
      refine Or.inl ⟨.consumedWithSystemReservation, rfl, ?_⟩
      simp only [consume, hk, hc, Bool.false_eq_true, if_false, (NodeLock.isZero_iff _).2 hl,
        Bool.not_true, hany, if_true]
    right
    by_cases hpat : node.markConsumed.isPatron = true
    · exact consume_patron bmax hI hk hc hl hsr hpat
    rw [Bool.not_eq_true] at hpat
    cases hkind : node.kind with
    | external => exact consume_root bmax hI hk hc hl hsr (Or.inl hkind) hpat
    | cut => exact consume_root bmax hI hk hc hl hsr (Or.inr (Or.inl hkind)) hpat
    | reserved => exact consume_root bmax hI hk hc hl hsr (Or.inr (Or.inr hkind)) hpat
    | specifiedLocal => exact consume_specified bmax hI hk hc hl hsr hkind hpat
    | unspecifiedLocal => exact consume_unspecified bmax hI hk hc hl hsr hkind

/-- `consume` keeps the tree invariant, whatever it returns. -/
theorem consume_treeInv (bmax : ℕ) {s : TreeState E K M} (hI : TreeInv s) (key : K) :
    TreeInv (consume bmax s key).2 := by
  rcases consume_spec bmax hI key with ⟨e, -, heq⟩ | ⟨out, s', hinv, -, -, heq⟩
  · rw [heq]
    exact hI
  · rw [heq]
    exact consumeTail_treeInv hinv

/-- On a storage whose total matches its nodes and fits the balance type,
`consume` fails only with a user error and no write, or returns an output
whose value leaves the total, which still matches the nodes. -/
theorem consume_outcome (bmax : ℕ) {s : TreeState E K M} (hS : StateInv s)
    (hb : valueSum s ≤ bmax) (key : K) :
    Outcome s (fun out s'' => StateInv s'' ∧ s''.totalSupply + consumedValue out = s.totalSupply)
      (consume bmax s key) := by
  rcases consume_spec bmax hS.tree key with ⟨e, he, heq⟩ | ⟨out, s', hinv, htot, hval, heq⟩
  · rw [heq]
    exact ⟨he, rfl⟩
  · have hcv := hval hb
    have hsup : s'.totalSupply = s.totalSupply := by
      unfold TreeState.totalSupply
      rw [htot]
    have hle : consumedValue out ≤ s'.totalSupply := by
      rw [hsup, hS.supply]
      omega
    obtain ⟨s'', htail, hn, hts⟩ := consumeTail_of_le hle
    rw [heq, htail]
    refine ⟨⟨hinv.of_nodes_eq hn, ?_⟩, by omega⟩
    rw [valueSum_of_nodes_eq hn]
    have := hS.supply
    omega

end Gear.GasTree
