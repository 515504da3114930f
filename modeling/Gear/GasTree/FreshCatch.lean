import Gear.GasTree.Atomic

/-!
# The cascade's shortcut is sound

`try_remove_consumed_ancestors` runs `catch_value` only while its carried
output is `Blocked`; once it has a `Missed` or a `Caught` output it reuses it
for every ancestor it visits (a `Caught` one reused as `Caught(0)`). Its
documentation justifies the shortcut by two facts about the tree: the
ancestors below a patron all see that patron, and a consumed non-patron
ancestor holds no value.

The version without the shortcut runs `catch_value` afresh at every
non-patron node (`removeAncestorsLoopFresh`), and `consumeFresh` is `consume`
calling it. Both are written over `consumeWith`, the body of `consume` with
the walk as a parameter (`consume_eq_consumeWith`).

`CascadeInv` (`Gear.GasTree.Cascade`) carries exactly the two facts: a
non-patron node holds nothing once the output is not blocked, a `Missed`
output has a patron above, a `Caught` one has none. Under it a fresh
`catch_value` returns what the walk reuses (`catchValue_of_reused`), so the
two loops agree step by step (`removeAncestorsLoop_eq_fresh`), and on every
storage satisfying `TreeInv` the two `consume`s agree
(`consume_eq_consumeFresh`), along every run whose children counters never
saturate (`run_consume_eq_fresh`).

Past `u32::MAX` children the shortcut is wrong: in the saturation run a root
that gave its value up takes 5 back from an unlock, and the walk that removes
it reuses the `Caught(0)` of its last child, so the 5 leave with it;
recomputing catches them (`consume_fresh_differs_past_u32`).
-/

namespace Gear.GasTree

variable {E K M : Type} [DecidableEq K]

open TreeState TreeImpl

/-! ## The walk without the shortcut -/

namespace TreeImpl

/-- The loop of `try_remove_consumed_ancestors` as it would be without the
shortcut: `catch_value` runs afresh at every non-patron node. -/
def removeAncestorsLoopFresh (bmax : ℕ) (origin : E) (multiplier : M) :
    ℕ → TreeState E K M → K → GasNode E K M → ConsumeOutput E M →
      Except GasTreeError (ConsumeOutput E M) × TreeState E K M
  | 0, s, _, _, _ => (.error .loopExhausted, s)
  | fuel + 1, s, nodeId, node, consumeOutput =>
    if node.isPatron then (.ok consumeOutput, s)
    else
      match catchValue bmax s node with
      | .error e => (.error e, s)
      | .ok (catchOutput, node, s) =>
        if catchOutput.isBlocked then (.error .valueIsBlocked, s)
        else
          let consumeOutput := consumeOutput.or (catchOutput.intoConsumeOutput origin multiplier)
          if node.specRefs = 0 then
            match decreaseParentsRef s node with
            | .error e => (.error e, s)
            | .ok s =>
              let s := s.removeNode nodeId
              match node with
              | .external .. | .reserved .. =>
                if !catchOutput.isCaught then (.error .valueIsNotCaught, s)
                else (.ok consumeOutput, s)
              | .specifiedLocal parent .. =>
                match s.nodes.lookup parent with
                | none => (.error .parentIsLost, s)
                | some n => removeAncestorsLoopFresh bmax origin multiplier fuel s parent n consumeOutput
              | _ => (.error .unexpectedNodeType, s)
          else (.ok consumeOutput, s.insertNode nodeId node)

/-- `try_remove_consumed_ancestors` without the shortcut: the descendant's
output is not used. -/
def tryRemoveConsumedAncestorsFresh (bmax : ℕ) (s : TreeState E K M) (key : K) :
    Except GasTreeError (ConsumeOutput E M) × TreeState E K M :=
  match s.nodes.lookup key with
  | none => (.error .nodeNotFound, s)
  | some node =>
    match getOriginNode s key with
    | .error e => (.error e, s)
    | .ok (origin, multiplier, _) =>
      removeAncestorsLoopFresh bmax origin multiplier s.nodes.entries.length s key node none

/-- `consume` with the walk up from a removed local node as a parameter,
`cascade s parent descendantCatchOutput`. -/
def consumeWith (bmax : ℕ)
    (cascade : TreeState E K M → K → CatchValueOutput →
      Except GasTreeError (ConsumeOutput E M) × TreeState E K M)
    (s : TreeState E K M) (key : K) :
    Except GasTreeError (ConsumeOutput E M) × TreeState E K M :=
  match s.nodes.lookup key with
  | none => (.error .nodeNotFound, s)
  | some node =>
    if node.isConsumed then (.error .nodeWasConsumed, s)
    else if !node.lock.isZero then (.error .consumedWithLock, s)
    else if node.systemReserve.any (· ≠ 0) then (.error .consumedWithSystemReservation, s)
    else
      match catchValue bmax s node.markConsumed with
      | .error e => (.error e, s)
      | .ok (catchOutput, node, s) =>
        match getOriginNode s key with
        | .error e => (.error e, s)
        | .ok (origin, multiplier, _) =>
          let res : Except GasTreeError (ConsumeOutput E M) × TreeState E K M :=
            if node.refs = 0 then
              match decreaseParentsRef s node with
              | .error e => (.error e, s)
              | .ok s =>
                let s := s.removeNode key
                match node with
                | .external .. | .cut .. | .reserved .. =>
                  if !catchOutput.isCaught then (.error .valueIsNotCaught, s)
                  else (.ok (catchOutput.intoConsumeOutput origin multiplier), s)
                | .unspecifiedLocal parent .. =>
                  if !catchOutput.isBlocked then (.error .valueIsNotBlocked, s)
                  else cascade s parent catchOutput
                | .specifiedLocal parent .. =>
                  if catchOutput.isBlocked then (.error .valueIsBlocked, s)
                  else
                    let consumeOutput := catchOutput.intoConsumeOutput origin multiplier
                    match cascade s parent catchOutput with
                    | (.error e, s) => (.error e, s)
                    | (.ok ancestorsOutput, s) =>
                      match consumeOutput, ancestorsOutput with
                      | some _, some (v, _) =>
                        if v = 0 then (.ok consumeOutput, s)
                        else (.error .unexpectedConsumeOutput, s)
                      | none, none => (.ok consumeOutput, s)
                      | _, _ => (.error .unexpectedConsumeOutput, s)
            else if node.isCut || node.isUnspecifiedLocal then (.error .unexpectedNodeType, s)
            else (.ok (catchOutput.intoConsumeOutput origin multiplier), s.insertNode key node)
          match res with
          | (.error e, s) => (.error e, s)
          | (.ok none, s) => (.ok none, s)
          | (.ok (some (v, mo)), s) =>
            match negativeApplyTo v s.total with
            | some t => (.ok (some (v, mo)), s.mutateTotal (some t))
            | none => (.error .totalValueIsUnderflowed, s.mutateTotal none)

/-- `consume` whose walk runs `catch_value` afresh at every non-patron
ancestor. -/
def consumeFresh (bmax : ℕ) (s : TreeState E K M) (key : K) :
    Except GasTreeError (ConsumeOutput E M) × TreeState E K M :=
  consumeWith bmax (fun s parent _ => tryRemoveConsumedAncestorsFresh bmax s parent) s key

end TreeImpl

/-- `consume` is its body with the walk `try_remove_consumed_ancestors`. -/
theorem consume_eq_consumeWith (bmax : ℕ) (s : TreeState E K M) (key : K) :
    consume bmax s key = consumeWith bmax (tryRemoveConsumedAncestors bmax) s key := rfl

/-! ## One step of each loop -/

section Iteration

variable (bmax : ℕ) (o : E) (m : M) (fuel : ℕ) {s s2 s3 : TreeState E K M} {cur : K}
  {node n' : GasNode E K M} {co' : CatchValueOutput} {out : ConsumeOutput E M}

theorem removeAncestorsLoopFresh_patron (hpat : node.isPatron = true) :
    removeAncestorsLoopFresh bmax o m (fuel + 1) s cur node out = (.ok out, s) := by
  simp [removeAncestorsLoopFresh, hpat]

/-- A node that keeps specified children is written back and ends the walk. -/
theorem removeAncestorsLoopFresh_keep (hpat : node.isPatron = false)
    (hcatch : catchValue bmax s node = .ok (co', n', s2)) (hco : co'.isBlocked = false)
    (hs : n'.specRefs ≠ 0) :
    removeAncestorsLoopFresh bmax o m (fuel + 1) s cur node out =
      (.ok (out.or (co'.intoConsumeOutput o m)), s2.insertNode cur n') := by
  simp only [removeAncestorsLoopFresh, hpat, Bool.false_eq_true, if_false]
  rw [hcatch]
  simp only [hco, Bool.false_eq_true, if_false, hs]

/-- A childless root is removed and ends the walk. -/
theorem removeAncestorsLoopFresh_root (hpat : node.isPatron = false)
    (hcatch : catchValue bmax s node = .ok (co', n', s2)) (hco : co'.isBlocked = false)
    (hcaught : co'.isCaught = true) (hs : n'.specRefs = 0)
    (hroot : n'.kind = .external ∨ n'.kind = .reserved) :
    removeAncestorsLoopFresh bmax o m (fuel + 1) s cur node out =
      (.ok (out.or (co'.intoConsumeOutput o m)), s2.removeNode cur) := by
  simp only [removeAncestorsLoopFresh, hpat, Bool.false_eq_true, if_false]
  rw [hcatch]
  simp only [hco, Bool.false_eq_true, if_false, hs, if_true]
  rcases hroot with h | h <;> cases n' <;>
    simp_all [GasNode.kind, decreaseParentsRef, GasNode.parent]

/-- A childless specified node is removed and the walk goes on at its parent. -/
theorem removeAncestorsLoopFresh_up (hpat : node.isPatron = false)
    (hcatch : catchValue bmax s node = .ok (co', n', s2)) (hco : co'.isBlocked = false)
    (hs : n'.specRefs = 0) (hsp : n'.kind = .specifiedLocal) {p : K} (hp : n'.parent = some p)
    (hdec : decreaseParentsRef s2 n' = .ok s3) {pn : GasNode E K M}
    (hpn : (s3.removeNode cur).nodes.lookup p = some pn) :
    removeAncestorsLoopFresh bmax o m (fuel + 1) s cur node out =
      removeAncestorsLoopFresh bmax o m fuel (s3.removeNode cur) p pn
        (out.or (co'.intoConsumeOutput o m)) := by
  simp only [removeAncestorsLoopFresh, hpat, Bool.false_eq_true, if_false]
  rw [hcatch]
  simp only [hco, Bool.false_eq_true, if_false, hs, if_true, hdec]
  cases n' with
  | specifiedLocal parent root v l sr refs c =>
    simp only [GasNode.parent, Option.some.injEq] at hp
    subst hp
    simp only [hpn]
  | _ => simp [GasNode.kind] at hsp

end Iteration

/-! ## The reused output is the fresh one -/

section Loop

variable {s : TreeState E K M} {r : K → ℕ} {cur : K} {node : GasNode E K M}
  {co : CatchValueOutput} {out : ConsumeOutput E M}

/-- The output the walk reuses, as a fresh `catch_value` would give it: a
caught value is taken once, so again it is zero. -/
def CatchValueOutput.reused : CatchValueOutput → CatchValueOutput
  | .caught _ => .caught 0
  | co => co

omit [DecidableEq K] in
/-- A reused output adds to the consume output what its fresh form adds: a
second caught value is dropped, and a first one is zero. -/
theorem or_intoConsumeOutput_reused (o : E) (m : M) {c : ℕ} (hc : out = none → c = 0) :
    out.or ((CatchValueOutput.caught c).intoConsumeOutput o m) =
      out.or ((CatchValueOutput.caught c).reused.intoConsumeOutput o m) := by
  cases out with
  | none => rw [hc rfl]; rfl
  | some _ => rfl

/-- Where the walk reuses its output, `catch_value` afresh returns the same
output (a caught one as zero), leaves the node holding nothing and writes
nothing: a `Missed` output has a patron above, which a non-patron node with
no value reaches without a write; a `Caught` one has none, and the node's
value is zero. -/
theorem catchValue_of_reused (bmax : ℕ) (h : CascadeInv r s cur node co out)
    (hpat : node.isPatron = false) (hblk : co.isBlocked = false) :
    catchValue bmax s node = .ok (co.reused, node.withValue 0, s) := by
  have hcan := h.can_parent
  obtain ⟨v, hv⟩ := GasNode.value_isSome_of_kind (n := node) (by
    intro hu
    rw [hu] at hcan
    exact Bool.noConfusion hcan)
  have hv0 : v = 0 := by
    have := h.drained hpat hblk
    rw [hv, Option.getD_some] at this
    exact this
  subst hv0
  cases co with
  | blocked => exact absurd hblk (by decide)
  | missed =>
    -- the patron above is strictly above: `cur` is specified, with it above its parent
    rcases (h.missed rfl).cases_lookup h.stored with h' | ⟨hsp, p, hp, habove⟩
    · rw [hpat] at h'
      exact absurd h' (by decide)
    obtain ⟨p', pn, hp', -, hcv⟩ :=
      catchValue_specified bmax h.linked h.ranked h.stored rfl hsp hpat hv
    rw [hp, Option.some.injEq] at hp'
    subst hp'
    rcases hcv with ⟨hnone, -⟩ | ⟨qn, qid, -, -, -, -, heq⟩
    · exact absurd habove hnone
    · rw [heq, if_pos rfl]
      rfl
  | caught c =>
    have hnot := (h.caught c rfl).1
    by_cases hsp : node.kind = .specifiedLocal
    · obtain ⟨p, pn, hp, -, hcv⟩ :=
        catchValue_specified bmax h.linked h.ranked h.stored rfl hsp hpat hv
      rcases hcv with ⟨-, heq⟩ | ⟨qn, qid, -, -, habove, -, -⟩
      · exact heq
      · exact absurd (.up h.stored hsp hp habove) hnot
    · have hroot : node.kind = .external ∨ node.kind = .cut ∨ node.kind = .reserved := by
        cases node <;> simp_all [GasNode.kind, GasNode.Kind.canParent]
      exact catchValue_root bmax hpat hroot hv

/-- One `catch_value` of the shortcut loop and the fresh one at the same
node: the fresh output is the reused one (a caught value as zero) or, while
blocked, the same; the two add the same to the consume output. -/
theorem cascade_catch_fresh (bmax : ℕ) (o : E) (m : M) (h : CascadeInv r s cur node co out)
    (hpat : node.isPatron = false) {co' : CatchValueOutput} {s' : TreeState E K M}
    (hcatch : (if co.isBlocked then catchValue bmax s node else .ok (co, node, s)) =
      .ok (co', node.withValue 0, s')) (hco' : co'.isBlocked = false) :
    ∃ co'', catchValue bmax s node = .ok (co'', node.withValue 0, s') ∧
      co''.isBlocked = false ∧ co''.isCaught = co'.isCaught ∧
      out.or (co''.intoConsumeOutput o m) = out.or (co'.intoConsumeOutput o m) := by
  cases hblk : co.isBlocked with
  | true =>
    rw [hblk, if_pos rfl] at hcatch
    exact ⟨co', hcatch, hco', rfl, rfl⟩
  | false =>
    -- the walk reuses `co`, with the node and the storage as they are
    rw [hblk, if_neg (by decide)] at hcatch
    have hre := catchValue_of_reused bmax h hpat hblk
    rw [Except.ok.injEq, Prod.mk.injEq, Prod.mk.injEq] at hcatch
    obtain ⟨rfl, -, rfl⟩ := hcatch
    refine ⟨co.reused, hre, ?_, ?_, ?_⟩
    · cases co <;> simp_all [CatchValueOutput.reused, CatchValueOutput.isBlocked]
    · cases co <;> rfl
    · cases co with
      | blocked => exact absurd hblk (by decide)
      | missed => rfl
      | caught c => exact (or_intoConsumeOutput_reused o m (h.caught c rfl).2).symm

/-- Under `CascadeInv` the walk with the shortcut and the walk without it
return the same output and storage, whatever the fuel. Induction on the fuel:
at each non-patron node the two `catch_value`s agree (`cascade_catch_fresh`),
and `CascadeInv.up` carries the invariant to the parent. -/
theorem removeAncestorsLoop_eq_fresh (bmax : ℕ) (o : E) (m : M) :
    ∀ fuel (s : TreeState E K M) cur node co out, CascadeInv r s cur node co out →
      removeAncestorsLoop bmax o m fuel s cur node co out =
        removeAncestorsLoopFresh bmax o m fuel s cur node out
  | 0, _, _, _, _, _, _ => rfl
  | fuel + 1, s, cur, node, co, out, h => by
    by_cases hpat : node.isPatron = true
    · rw [removeAncestorsLoop_patron bmax o m fuel hpat,
        removeAncestorsLoopFresh_patron bmax o m fuel hpat]
    rw [Bool.not_eq_true] at hpat
    obtain ⟨co', s2, hcatch, hco', -, hw, hmiss, hcgt, -⟩ := cascade_catch bmax o m h hpat
    obtain ⟨co'', hfresh, hco'', hcaught, hout⟩ :=
      cascade_catch_fresh bmax o m h hpat hcatch hco'
    have hstored2 := hw.lookup_of_not_patron h.stored hpat
    by_cases hs : node.specRefs = 0
    · by_cases hsp : node.kind = .specifiedLocal
      · -- a specified node is removed; both walks go on at its parent
        obtain ⟨p, hp⟩ := GasNode.exists_parent_of_kind (Or.inl hsp)
        obtain ⟨pn, hpn, -, hdec⟩ := decreaseParentsRef_local (n := node.withValue 0)
          (hw.linked h.linked) (hw.counted h.counted) hstored2 (GasNode.kind_withValue node 0)
          (GasNode.parent_withValue node 0) (by rw [GasNode.parent_withValue]; exact hp)
        rw [GasNode.kind_withValue, if_pos hsp] at hdec
        have hpc : p ≠ cur := by
          intro he
          have hlt := h.ranked cur node p h.stored hp
          rw [he] at hlt
          exact lt_irrefl _ hlt
        have hpn' : ((s2.insertNode p pn.decreaseSpecRefs).removeNode cur).nodes.lookup p =
            some pn.decreaseSpecRefs := by
          rw [lookup_removeNode_ne _ hpc, lookup_insertNode_self]
        have hs' : (node.withValue 0).specRefs = 0 := by
          rw [GasNode.specRefs_withValue]
          exact hs
        have hsp' : (node.withValue 0).kind = .specifiedLocal := by
          rw [GasNode.kind_withValue]
          exact hsp
        have hp' : (node.withValue 0).parent = some p := by
          rw [GasNode.parent_withValue]
          exact hp
        rw [removeAncestorsLoop_up bmax o m fuel hpat hcatch hco' hs' hsp' hp' hdec hpn',
          removeAncestorsLoopFresh_up bmax o m fuel hpat hfresh hco'' hs' hsp' hp' hdec hpn', hout]
        exact removeAncestorsLoop_eq_fresh bmax o m fuel _ p _ co' _
          (h.up o m hpat hw hco' hmiss hcgt hs hsp hp hpn)
      · -- a root is removed and both walks end with the caught output
        have hroot : (node.withValue 0).kind = .external ∨ (node.withValue 0).kind = .reserved := by
          rw [GasNode.kind_withValue]
          have hcan := h.can_parent
          cases node <;> simp_all [GasNode.kind, GasNode.Kind.canParent]
        have hcaught' : co'.isCaught = true := by
          cases co' with
          | blocked => exact absurd hco' (by decide)
          | caught c => rfl
          | missed =>
            rcases (hmiss rfl).cases_lookup hstored2 with h' | ⟨h', -⟩
            · rw [hpat] at h'
              exact Bool.noConfusion h'
            · exact absurd h' hsp
        have hs' : (node.withValue 0).specRefs = 0 := by
          rw [GasNode.specRefs_withValue]
          exact hs
        rw [removeAncestorsLoop_root bmax o m fuel hpat hcatch hco' hcaught' hs' hroot,
          removeAncestorsLoopFresh_root bmax o m fuel hpat hfresh hco'' (hcaught.trans hcaught') hs'
            hroot, hout]
    · -- a node with specified children is written back and both walks end
      have hs' : (node.withValue 0).specRefs ≠ 0 := by
        rw [GasNode.specRefs_withValue]
        exact hs
      rw [removeAncestorsLoop_keep bmax o m fuel hpat hcatch hco' hs',
        removeAncestorsLoopFresh_keep bmax o m fuel hpat hfresh hco'' hs', hout]

/-- `try_remove_consumed_ancestors` from a node where `CascadeInv` holds for
the output it starts with is the walk without the shortcut. -/
theorem tryRemoveConsumedAncestors_eq_fresh (bmax : ℕ) {p : K} {pn : GasNode E K M}
    (h : CascadeInv r s p pn (if co.isCaught then .caught 0 else co) none) :
    tryRemoveConsumedAncestors bmax s p co = tryRemoveConsumedAncestorsFresh bmax s p := by
  obtain ⟨o, m, rt, hor⟩ := getOriginNode_ok h.linked h.stored
  simp only [tryRemoveConsumedAncestors, tryRemoveConsumedAncestorsFresh, h.stored, hor]
  exact removeAncestorsLoop_eq_fresh bmax o m _ s p pn _ none h

end Loop

/-! ## `consume` calls its walk only where `CascadeInv` holds -/

/-- Two walks agree wherever `CascadeInv` holds for the output they start
with. -/
def CascadesAgree (c c' : TreeState E K M → K → CatchValueOutput →
    Except GasTreeError (ConsumeOutput E M) × TreeState E K M) : Prop :=
  ∀ (r : K → ℕ) s p pn co, CascadeInv r s p pn (if co.isCaught then .caught 0 else co) none →
    c s p co = c' s p co

section Paths

variable (bmax : ℕ) {s : TreeState E K M} {key : K} {node : GasNode E K M}
  {c c' : TreeState E K M → K → CatchValueOutput →
    Except GasTreeError (ConsumeOutput E M) × TreeState E K M}

/-- A node that keeps unspecified children: no walk. -/
theorem consumeWith_congr_patron (hI : TreeInv s) (hk : s.nodes.lookup key = some node)
    (hc : node.isConsumed = false) (hl : node.lock.total = 0)
    (hsr : node.systemReserve.getD 0 = 0) (hpat : node.markConsumed.isPatron = true) :
    consumeWith bmax c s key = consumeWith bmax c' s key := by
  obtain ⟨o, m, rt, hor⟩ := getOriginNode_ok hI.linked hk
  have hcan : node.kind.canParent = true := by
    cases h : node.kind <;> simp_all [GasNode.isPatron_false_of_kind, GasNode.Kind.canParent]
  have hu : node.unspecRefs ≠ 0 := by
    rw [← GasNode.unspecRefs_markConsumed]
    exact GasNode.unspecRefs_ne_zero_of_isPatron hpat (GasNode.isConsumed_markConsumed hcan)
  have hrefs : node.markConsumed.refs ≠ 0 := by
    rw [Ne, GasNode.refs_eq_zero_iff, GasNode.unspecRefs_markConsumed]
    exact fun h => hu h.2
  simp only [consumeWith, hk, hc, (NodeLock.isZero_iff _).2 hl, systemReserve_any_eq_false hsr,
    Bool.not_true, Bool.false_eq_true, if_false, catchValue_blocked bmax (Or.inl hpat), hor, hrefs]

/-- A root that is no patron once marked: no walk. -/
theorem consumeWith_congr_root (hI : TreeInv s) (hk : s.nodes.lookup key = some node)
    (hc : node.isConsumed = false) (hl : node.lock.total = 0)
    (hsr : node.systemReserve.getD 0 = 0)
    (hroot : node.kind = .external ∨ node.kind = .cut ∨ node.kind = .reserved)
    (hpat : node.markConsumed.isPatron = false) :
    consumeWith bmax c s key = consumeWith bmax c' s key := by
  obtain ⟨o, m, rt, hor⟩ := getOriginNode_ok hI.linked hk
  obtain ⟨v, hv⟩ := GasNode.value_isSome_of_kind (n := node) (by
    rcases hroot with h | h | h <;> rw [h] <;> decide)
  have hcatch := catchValue_root bmax (s := s) hpat (by simpa using hroot)
    (by rw [GasNode.value_markConsumed]; exact hv)
  have hparent : node.parent = none :=
    GasNode.parent_eq_none_of_kind (by rcases hroot with h | h | h <;> rw [h] <;> decide)
  have hdec := decreaseParentsRef_root (s := s) (n := node.markConsumed.withValue 0)
    (by rw [GasNode.parent_withValue, GasNode.parent_markConsumed]; exact hparent)
  simp only [consumeWith, hk, hc, (NodeLock.isZero_iff _).2 hl, systemReserve_any_eq_false hsr,
    Bool.not_true, Bool.false_eq_true, if_false, hcatch, hor, hdec]
  -- the node's variant leaves the walk out of every branch
  rcases hroot with h | h | h <;> cases node <;> simp [GasNode.kind] at h <;> rfl

/-- An unspecified leaf: the walk starts at its parent with a blocked output,
where `CascadeInv` holds. -/
theorem consumeWith_congr_unspecified (hI : TreeInv s) (hk : s.nodes.lookup key = some node)
    (hc : node.isConsumed = false) (hl : node.lock.total = 0)
    (hsr : node.systemReserve.getD 0 = 0) (hu : node.kind = .unspecifiedLocal)
    (hagree : CascadesAgree c c') :
    consumeWith bmax c s key = consumeWith bmax c' s key := by
  obtain ⟨o, m, rt, hor⟩ := getOriginNode_ok hI.linked hk
  obtain ⟨r, hr⟩ := hI.linked.ranked
  have hmk : node.markConsumed = node := by
    cases node <;> simp_all [GasNode.kind, GasNode.markConsumed]
  obtain ⟨hs0, hu0⟩ := GasNode.refs_of_kind (Or.inr hu)
  obtain ⟨p, hp⟩ := GasNode.exists_parent_of_kind (Or.inr hu)
  obtain ⟨pn, hpn, -, hdec⟩ := decreaseParentsRef_local hI.linked hI.counted hk rfl rfl hp
  have hinv : CascadeInv r ((s.insertNode p (if node.kind = .specifiedLocal
      then pn.decreaseSpecRefs else pn.decreaseUnspecRefs)).removeNode key) p
      (if node.kind = .specifiedLocal then pn.decreaseSpecRefs else pn.decreaseUnspecRefs)
      (if CatchValueOutput.blocked.isCaught then .caught 0 else .blocked) none :=
    cascadeInv_removeChild hI.linked hI.counted hr (fun j n _ hj => hI.settled j n hj) hk hp
      hs0 hu0 hpn (fun _ => rfl) (fun h => by cases h) (fun h => by cases h)
      (fun _ h => by cases h)
  have hrefs : node.refs = 0 := GasNode.refs_eq_zero_iff.2 ⟨hs0, hu0⟩
  cases node with
  | unspecifiedLocal parent root l sr' =>
    simp only [GasNode.parent, Option.some.injEq] at hp
    subst hp
    simp only [consumeWith, hk, hc, (NodeLock.isZero_iff _).2 hl, systemReserve_any_eq_false hsr,
      Bool.not_true, Bool.false_eq_true, if_false, hmk,
      catchValue_blocked bmax (Or.inr hu), hor, hrefs, if_true, hdec]
    rw [hagree _ _ _ _ _ hinv]
  | _ => simp [GasNode.kind] at hu

/-- A specified node that is no patron once marked: if it is childless, the
walk starts at its parent with the node's own output, where `CascadeInv`
holds; otherwise there is no walk. -/
theorem consumeWith_congr_specified (hI : TreeInv s) (hk : s.nodes.lookup key = some node)
    (hc : node.isConsumed = false) (hl : node.lock.total = 0)
    (hsr : node.systemReserve.getD 0 = 0) (hsp : node.kind = .specifiedLocal)
    (hpat : node.markConsumed.isPatron = false) (hagree : CascadesAgree c c') :
    consumeWith bmax c s key = consumeWith bmax c' s key := by
  obtain ⟨r, hr⟩ := hI.linked.ranked
  obtain ⟨v, hv⟩ := GasNode.value_isSome_of_kind (n := node) (by rw [hsp]; decide)
  obtain ⟨p, hp⟩ := GasNode.exists_parent_of_kind (Or.inl hsp)
  obtain ⟨co, s1, hcatch, hw, hk1, hco, hmiss, hcgt, -⟩ :=
    consume_catch_specified bmax hI hr hk hsp hpat hv hp
  obtain ⟨o, m, rt, hor⟩ := getOriginNode_ok (hw.linked hI.linked) hk1
  by_cases hrefs : node.refs = 0
  · -- childless: removed, and the walk starts at the parent
    have hs0 := (GasNode.refs_eq_zero_iff.1 hrefs).1
    have hsu : node.unspecRefs = 0 :=
      (GasNode.isPatron_markConsumed (by rw [hsp]; rfl)).1 hpat
    have hrefs' : (node.markConsumed.withValue 0).refs = 0 := by
      rw [GasNode.refs_withValue, GasNode.refs_markConsumed]
      exact hrefs
    have hp0 : (node.markConsumed.withValue 0).parent = some p := by
      rw [GasNode.parent_withValue, GasNode.parent_markConsumed]
      exact hp
    obtain ⟨pn, hpn, -, hdec⟩ := decreaseParentsRef_local (hw.linked hI.linked)
      (hw.counted hI.counted) hk1 (by simp) (by simp) hp0
    rw [GasNode.kind_withValue, GasNode.kind_markConsumed] at hdec
    have hinv : CascadeInv r ((s1.insertNode p (if node.kind = .specifiedLocal
        then pn.decreaseSpecRefs else pn.decreaseUnspecRefs)).removeNode key) p
        (if node.kind = .specifiedLocal then pn.decreaseSpecRefs else pn.decreaseUnspecRefs)
        (if co.isCaught then .caught 0 else co) none := by
      refine cascadeInv_removeChild (hw.linked hI.linked) (hw.counted hI.counted) (hw.ranked hr)
        (hw.settled (c := key) (fun j n _ hj => hI.settled j n hj)) hk1 hp hs0 hsu hpn
        (fun _ => rfl) (fun _ => hsp) (fun hm => ?_) (fun c0 hc' => ?_)
      · cases co with
        | blocked => exact absurd hco (by decide)
        | missed => exact hmiss rfl
        | caught c0 => cases hm
      · cases co with
        | blocked => exact absurd hco (by decide)
        | missed => cases hc'
        | caught c1 =>
          cases hc'
          exact ⟨(hcgt c1 rfl).2, fun _ => rfl⟩
    cases node with
    | specifiedLocal parent root nv l sr' refs' c0 =>
      simp only [GasNode.parent, Option.some.injEq] at hp
      subst hp
      simp only [consumeWith, hk, hc, (NodeLock.isZero_iff _).2 hl, systemReserve_any_eq_false hsr,
        Bool.not_true, Bool.false_eq_true, if_false, hcatch, hor, hrefs', if_true, hdec]
      simp only [GasNode.markConsumed, GasNode.withValue, hco, Bool.false_eq_true, if_false]
      rw [hagree _ _ _ _ _ hinv]
    | _ => simp [GasNode.kind] at hsp
  · -- it keeps specified children: written back, no walk
    have hrefs' : (node.markConsumed.withValue 0).refs ≠ 0 := by
      rw [GasNode.refs_withValue, GasNode.refs_markConsumed]
      exact hrefs
    simp only [consumeWith, hk, hc, (NodeLock.isZero_iff _).2 hl, systemReserve_any_eq_false hsr,
      Bool.not_true, Bool.false_eq_true, if_false, hcatch, hor, hrefs']

/-- On a storage satisfying `TreeInv`, `consume` gives the same result with any
two walks that agree where `CascadeInv` holds. -/
theorem consumeWith_congr (hI : TreeInv s) (key : K) (hagree : CascadesAgree c c') :
    consumeWith bmax c s key = consumeWith bmax c' s key := by
  cases hk : s.nodes.lookup key with
  | none => simp only [consumeWith, hk]
  | some node =>
    by_cases hc : node.isConsumed = true
    · simp only [consumeWith, hk, hc, if_true]
    rw [Bool.not_eq_true] at hc
    by_cases hl : node.lock.total = 0
    swap
    · have hlz : node.lock.isZero = false := by
        cases h : node.lock.isZero with
        | false => rfl
        | true => exact absurd ((NodeLock.isZero_iff _).1 h) hl
      simp only [consumeWith, hk, hc, hlz, Bool.false_eq_true, if_false, Bool.not_false, if_true]
    by_cases hsr : node.systemReserve.getD 0 = 0
    swap
    · have hany : node.systemReserve.any (· ≠ 0) = true := by
        cases h : node.systemReserve with
        | none => rw [h] at hsr; exact absurd rfl hsr
        | some sr =>
          rw [h, Option.getD_some] at hsr
          simp [hsr]
      simp only [consumeWith, hk, hc, Bool.false_eq_true, if_false, (NodeLock.isZero_iff _).2 hl,
        Bool.not_true, hany, if_true]
    -- past the checks, the same paths as `consume_spec`
    by_cases hpat : node.markConsumed.isPatron = true
    · exact consumeWith_congr_patron bmax hI hk hc hl hsr hpat
    rw [Bool.not_eq_true] at hpat
    cases hkind : node.kind with
    | external => exact consumeWith_congr_root bmax hI hk hc hl hsr (Or.inl hkind) hpat
    | cut => exact consumeWith_congr_root bmax hI hk hc hl hsr (Or.inr (Or.inl hkind)) hpat
    | reserved => exact consumeWith_congr_root bmax hI hk hc hl hsr (Or.inr (Or.inr hkind)) hpat
    | specifiedLocal => exact consumeWith_congr_specified bmax hI hk hc hl hsr hkind hpat hagree
    | unspecifiedLocal => exact consumeWith_congr_unspecified bmax hI hk hc hl hsr hkind hagree

end Paths

/-! ## The shortcut is sound along runs -/

/-- The optimised walk and the recomputing one agree wherever `CascadeInv`
holds. -/
theorem cascadesAgree_fresh (bmax : ℕ) :
    CascadesAgree (tryRemoveConsumedAncestors (E := E) (K := K) (M := M) bmax)
      (fun s p _ => tryRemoveConsumedAncestorsFresh bmax s p) :=
  fun _ _ _ _ _ h => tryRemoveConsumedAncestors_eq_fresh bmax h

/-- On every storage satisfying `TreeInv`, `consume` with the reused catch
output is `consume` with every ancestor's value computed afresh. -/
theorem consume_eq_consumeFresh (bmax : ℕ) {s : TreeState E K M} (hI : TreeInv s) (key : K) :
    consume bmax s key = consumeFresh bmax s key := by
  rw [consume_eq_consumeWith]
  exact consumeWith_congr bmax hI key (cascadesAgree_fresh bmax)

/-- Along every run from the empty storage whose children counters never
saturate, `consume` with the shortcut returns what the walk that recomputes
every catch returns, output, storage and total alike. -/
theorem run_consume_eq_fresh (bmax : ℕ) (ops : List (Op E K M))
    (hfit : ∀ n, ChildCountsFit (run bmax .empty (ops.take n))) (key : K) :
    consume bmax (run bmax .empty ops) key = consumeFresh bmax (run bmax .empty ops) key :=
  consume_eq_consumeFresh bmax (run_treeInv bmax ops StateInv.empty.tree hfit) key

/-- A root with a specified child holding 4, consumed first: the consume of
the child removes the root with a reused `Caught(0)`. -/
theorem run_consume_eq_fresh_split_root :
    let ops : List (Op Unit ℕ Unit) := [.create () () 0 10, .splitWithValue 0 1 4, .consume 0]
    consume 100 (run 100 .empty ops) 1 = consumeFresh 100 (run 100 .empty ops) 1 :=
  run_consume_eq_fresh 100 _ (fits_of_take_size 100 _ (by decide)) 1

/-! ## Past `u32::MAX` children -/

section Saturated

variable (bmax : ℕ) {s : TreeState E K M}

/-- `consume` of the last specified child of a root that is no patron, with
any walk that ends with an output: the child's caught value is kept only if
the walk's output is zero. -/
theorem consumeWith_last_specified_child {ch p : K} {v w : ℕ} {l : NodeLock}
    {pn : GasNode E K M} {o : E} {m : M} {mo : M × E} {s' : TreeState E K M}
    (hk : s.nodes.lookup ch = some (.specifiedLocal p p v l 0 {} false))
    (hl : l.isZero = true) (hp : s.nodes.lookup p = some pn) (hpk : pn.kind = .external)
    (hpat : pn.isPatron = false) (hx : pn.externalData = some (o, m)) (hspec : pn.specRefs = 1)
    (hc : c ((s.insertNode p pn.decreaseSpecRefs).removeNode ch) p (.caught v) =
      (.ok (some (w, mo)), s')) :
    consumeWith bmax c s ch =
      if w = 0 then consumeTail (some (v, m, o)) s' else (.error .unexpectedConsumeOutput, s') := by
  obtain ⟨hcatch, hor, hdec⟩ := last_specified_child_steps bmax hk hp hpk hpat hx hspec
  simp only [consumeWith, hk, hl, GasNode.isConsumed, GasNode.lock, GasNode.systemReserve,
    GasNode.markConsumed, Bool.not_true, Bool.false_eq_true, if_false, hcatch, hor]
  simp [GasNode.refs, GasNode.specRefs, GasNode.unspecRefs, hdec, CatchValueOutput.isBlocked,
    CatchValueOutput.intoConsumeOutput, hc]
  -- the walk's output decides between the child's output and the error
  by_cases hw : w = 0
  · simp only [hw, if_true]
    rfl
  · simp only [hw, if_false]

/-- The walk without the shortcut at a childless root that is no patron:
the root's value is caught and the root removed. -/
theorem tryRemoveConsumedAncestorsFresh_root {p : K} {pn : GasNode E K M} {o : E} {m : M}
    {w : ℕ} (hp : s.nodes.lookup p = some pn) (hpk : pn.kind = .external)
    (hpat : pn.isPatron = false) (hx : pn.externalData = some (o, m)) (hv : pn.value = some w)
    (hs : pn.specRefs = 0) :
    tryRemoveConsumedAncestorsFresh bmax s p = (.ok (some (w, m, o)), s.removeNode p) := by
  obtain ⟨fuel, hfuel⟩ : ∃ fuel, s.nodes.entries.length = fuel + 1 :=
    ⟨_, (Nat.succ_pred_eq_of_pos (size_pos_of_lookup hp)).symm⟩
  have hcatch := catchValue_root bmax (s := s) hpat (Or.inl hpk) hv
  simp only [tryRemoveConsumedAncestorsFresh, hp, getOriginNode, hx, hfuel]
  rw [removeAncestorsLoopFresh_root bmax o m fuel hpat hcatch rfl rfl
    (by rw [GasNode.specRefs_withValue]; exact hs)
    (Or.inl (by rw [GasNode.kind_withValue]; exact hpk))]
  rfl

/-- After the unlock of the saturation run, recomputing catches the 5 the
root took back, and `consume` of its last specified child then finds the
walk's output non-zero. -/
theorem consumeFresh_after_unlock {s : TreeState Unit ℕ Unit} (h : Unlocked s) :
    (consumeFresh u64Max s 1).1 = .error .unexpectedConsumeOutput := by
  have hp' : ((s.insertNode 0 (GasNode.external () () 5 .zero 0 ⟨1, 0⟩ true false :
      GasNode Unit ℕ Unit).decreaseSpecRefs).removeNode 1).nodes.lookup 0 =
        some (.external () () 5 .zero 0 ⟨0, 0⟩ true false) := by
    rw [lookup_removeNode_ne _ (by decide), lookup_insertNode_self]
    rfl
  have hwalk := tryRemoveConsumedAncestorsFresh_root u64Max hp' rfl rfl rfl rfl rfl
  unfold consumeFresh
  rw [consumeWith_last_specified_child u64Max h.spec rfl h.root rfl rfl rfl rfl hwalk]
  rfl

/-- Past `u32::MAX` children the shortcut is not sound: at a reachable
storage, `consume` with the reused catch output succeeds with nothing, while
recomputing the catch at the root finds the 5 it holds and fails. -/
theorem consume_fresh_differs_past_u32 :
    let ops : List (Op Unit ℕ Unit) := lockAndConsumeRoot ++
      (List.range u32Max).map (fun i => .consume (i + 3)) ++ [.unlock 2 .mailbox 5]
    (consume u64Max (run u64Max .empty ops) 1).1 = .ok (some (0, (), ())) ∧
      (consumeFresh u64Max (run u64Max .empty ops) 1).1 = .error .unexpectedConsumeOutput := by
  intro ops
  have hu := unlocked_run
  generalize run u64Max .empty ops = s at hu ⊢
  rw [consume_after_unlock hu]
  exact ⟨rfl, consumeFresh_after_unlock hu⟩

end Saturated

end Gear.GasTree
