import Mathlib

/-!
# Gas-tree nodes — `gas_provider/node.rs`

The gas tree stores one `GasNode` per key. A node is one of five kinds:

* `External` — a root holding gas bought by an external origin;
* `Cut` — a root split off for a mailbox message, never a parent;
* `Reserved` — a root holding a gas reservation;
* `SpecifiedLocal` — a child with its own value;
* `UnspecifiedLocal` — a child without value, spending its parent's.

This file embeds the enum and its accessors as the Rust code computes them.
Balances are `ℕ`: every place where the source could overflow a `Balance`
uses `saturating_add`, modelled by `saturatingAdd` against an explicit
ceiling `bmax` (`Balance::MAX`); `saturating_sub` is `ℕ` subtraction. The
two children counters of `ChildrenRefs` are `u32` with saturating updates,
against `u32Max`. The lock slots, the multiplier and the external origin are
carried along unchanged; the tree code never inspects the last two, so they
are type parameters `E` (external origin) and `M` (gas multiplier), and node
keys are a type `K`.

The setters `withValue`, `withLock`, `withSystemReserve`, `markConsumed` and
`adjustRefs` are the `*_mut` accessors of the source written as functions;
each changes one field and the `@[simp]` lemmas below say that the others,
the node's kind, parent and root in particular, are left alone.
-/

namespace Gear.GasTree

/-- `u32::MAX`: the children counters saturate here. -/
def u32Max : ℕ := 2 ^ 32 - 1

/-- `u64::MAX`: the maximum of the gas pallet's balance type (`Balance = u64`). -/
def u64Max : ℕ := 2 ^ 64 - 1

/-- `Balance::saturating_add` for a balance type whose maximum is `bmax`. -/
def saturatingAdd (bmax a b : ℕ) : ℕ := min (a + b) bmax

theorem saturatingAdd_of_le {bmax a b : ℕ} (h : a + b ≤ bmax) : saturatingAdd bmax a b = a + b :=
  Nat.min_eq_left h

/-- `gear_core::gas::LockId`: the four lock slots of a node. -/
inductive LockId
  | mailbox
  | waitlist
  | reservation
  | dispatchStash
  deriving DecidableEq, Repr

/-- `NodeLock`: one locked balance per `LockId` (the source's array indexed by
`id as usize`). -/
structure NodeLock where
  mailbox : ℕ
  waitlist : ℕ
  reservation : ℕ
  dispatchStash : ℕ
  deriving DecidableEq, Repr

namespace NodeLock

/-- `Zero::zero()`. -/
def zero : NodeLock := ⟨0, 0, 0, 0⟩

/-- `Index<LockId>`. -/
def get (l : NodeLock) : LockId → ℕ
  | .mailbox => l.mailbox
  | .waitlist => l.waitlist
  | .reservation => l.reservation
  | .dispatchStash => l.dispatchStash

/-- `IndexMut<LockId>` followed by an assignment. -/
def set (l : NodeLock) : LockId → ℕ → NodeLock
  | .mailbox, v => { l with mailbox := v }
  | .waitlist, v => { l with waitlist := v }
  | .reservation, v => { l with reservation := v }
  | .dispatchStash, v => { l with dispatchStash := v }

/-- `Zero::is_zero`: every slot is zero. -/
def isZero (l : NodeLock) : Bool :=
  l.mailbox == 0 && l.waitlist == 0 && l.reservation == 0 && l.dispatchStash == 0

/-- The sum of the four slots (exact; the value a node holds under locks). -/
def total (l : NodeLock) : ℕ := l.mailbox + l.waitlist + l.reservation + l.dispatchStash

@[simp] theorem get_set_self (l : NodeLock) (id : LockId) (v : ℕ) : (l.set id v).get id = v := by
  cases id <;> rfl

/-- Setting one slot moves the total by the change of that slot. -/
theorem total_set (l : NodeLock) (id : LockId) (v : ℕ) :
    (l.set id v).total + l.get id = l.total + v := by
  cases id <;> simp only [set, get, total] <;> omega

@[simp] theorem isZero_iff (l : NodeLock) : l.isZero = true ↔ l.total = 0 := by
  simp only [isZero, total, Bool.and_eq_true, beq_iff_eq]
  omega

@[simp] theorem total_zero : zero.total = 0 := rfl

theorem get_le_total (l : NodeLock) (id : LockId) : l.get id ≤ l.total := by
  cases id <;> simp only [get, total] <;> omega

end NodeLock

/-- `ChildrenRefs`: how many specified and unspecified children point here.
Both counters are `u32` in the source. -/
structure ChildrenRefs where
  specRefs : ℕ := 0
  unspecRefs : ℕ := 0
  deriving DecidableEq, Repr

/-- `GasNode`. -/
inductive GasNode (E K M : Type) where
  | external (id : E) (multiplier : M) (value : ℕ) (lock : NodeLock) (systemReserve : ℕ)
      (refs : ChildrenRefs) (consumed : Bool) (deposit : Bool)
  | cut (id : E) (multiplier : M) (value : ℕ) (lock : NodeLock)
  | reserved (id : E) (multiplier : M) (value : ℕ) (lock : NodeLock) (refs : ChildrenRefs)
      (consumed : Bool)
  | specifiedLocal (parent root : K) (value : ℕ) (lock : NodeLock) (systemReserve : ℕ)
      (refs : ChildrenRefs) (consumed : Bool)
  | unspecifiedLocal (parent root : K) (lock : NodeLock) (systemReserve : ℕ)
  deriving DecidableEq, Repr

namespace GasNode

variable {E K M : Type}

/-- `GasNode::new`: a fresh `External` root. -/
def new (id : E) (multiplier : M) (value : ℕ) (deposit : Bool) : GasNode E K M :=
  .external id multiplier value .zero 0 {} false deposit

/-- `adjust_refs`: saturating `u32` updates of one counter, on the three kinds
that carry counters. -/
def adjustRefs (increase spec : Bool) : GasNode E K M → GasNode E K M
  | .external id m v l sr r c d => .external id m v l sr (bump increase spec r) c d
  | .reserved id m v l r c => .reserved id m v l (bump increase spec r) c
  | .specifiedLocal p rt v l sr r c => .specifiedLocal p rt v l sr (bump increase spec r) c
  | n => n
where
  /-- The `match (increase, spec)` of `adjust_refs`. -/
  bump : Bool → Bool → ChildrenRefs → ChildrenRefs
    | true, true, r => { r with specRefs := min (r.specRefs + 1) u32Max }
    | true, false, r => { r with unspecRefs := min (r.unspecRefs + 1) u32Max }
    | false, true, r => { r with specRefs := r.specRefs - 1 }
    | false, false, r => { r with unspecRefs := r.unspecRefs - 1 }

/-- `increase_spec_refs`. -/
def increaseSpecRefs (n : GasNode E K M) : GasNode E K M := n.adjustRefs true true
/-- `decrease_spec_refs`. -/
def decreaseSpecRefs (n : GasNode E K M) : GasNode E K M := n.adjustRefs false true
/-- `increase_unspec_refs`. -/
def increaseUnspecRefs (n : GasNode E K M) : GasNode E K M := n.adjustRefs true false
/-- `decrease_unspec_refs`. -/
def decreaseUnspecRefs (n : GasNode E K M) : GasNode E K M := n.adjustRefs false false

/-- `mark_consumed`. -/
def markConsumed : GasNode E K M → GasNode E K M
  | .external id m v l sr r _ d => .external id m v l sr r true d
  | .reserved id m v l r _ => .reserved id m v l r true
  | .specifiedLocal p rt v l sr r _ => .specifiedLocal p rt v l sr r true
  | n => n

/-- `is_consumed`. -/
def isConsumed : GasNode E K M → Bool
  | .external _ _ _ _ _ _ c _ | .reserved _ _ _ _ _ c | .specifiedLocal _ _ _ _ _ _ c => c
  | _ => false

/-- `spec_refs`. -/
def specRefs : GasNode E K M → ℕ
  | .external _ _ _ _ _ r _ _ | .reserved _ _ _ _ r _ | .specifiedLocal _ _ _ _ _ r _ => r.specRefs
  | _ => 0

/-- `unspec_refs`. -/
def unspecRefs : GasNode E K M → ℕ
  | .external _ _ _ _ _ r _ _ | .reserved _ _ _ _ r _ | .specifiedLocal _ _ _ _ _ r _ =>
    r.unspecRefs
  | _ => 0

/-- `refs`: `spec_refs().saturating_add(unspec_refs())` in `u32`. -/
def refs (n : GasNode E K M) : ℕ := min (n.specRefs + n.unspecRefs) u32Max

/-- `is_patron`: a node others may rely on for value — not consumed, or
still referred to by unspecified children. -/
def isPatron : GasNode E K M → Bool
  | .external _ _ _ _ _ r c _ | .reserved _ _ _ _ r c | .specifiedLocal _ _ _ _ _ r c =>
    !c || r.unspecRefs != 0
  | _ => false

/-- `value`. -/
def value : GasNode E K M → Option ℕ
  | .external _ _ v _ _ _ _ _ | .cut _ _ v _ | .reserved _ _ v _ _ _ | .specifiedLocal _ _ v _ _ _ _ =>
    some v
  | .unspecifiedLocal .. => none

/-- `value_mut` followed by an assignment (no effect where there is no value). -/
def withValue (n : GasNode E K M) (v : ℕ) : GasNode E K M :=
  match n with
  | .external id m _ l sr r c d => .external id m v l sr r c d
  | .cut id m _ l => .cut id m v l
  | .reserved id m _ l r c => .reserved id m v l r c
  | .specifiedLocal p rt _ l sr r c => .specifiedLocal p rt v l sr r c
  | n => n

/-- `lock`. -/
def lock : GasNode E K M → NodeLock
  | .external _ _ _ l _ _ _ _ | .cut _ _ _ l | .reserved _ _ _ l _ _
  | .specifiedLocal _ _ _ l _ _ _ | .unspecifiedLocal _ _ l _ => l

/-- `lock_mut` followed by an assignment. -/
def withLock (n : GasNode E K M) (l : NodeLock) : GasNode E K M :=
  match n with
  | .external id m v _ sr r c d => .external id m v l sr r c d
  | .cut id m v _ => .cut id m v l
  | .reserved id m v _ r c => .reserved id m v l r c
  | .specifiedLocal p rt v _ sr r c => .specifiedLocal p rt v l sr r c
  | .unspecifiedLocal p rt _ sr => .unspecifiedLocal p rt l sr

/-- `system_reserve`. -/
def systemReserve : GasNode E K M → Option ℕ
  | .external _ _ _ _ sr _ _ _ | .specifiedLocal _ _ _ _ sr _ _ | .unspecifiedLocal _ _ _ sr => some sr
  | _ => none

/-- `system_reserve_mut` followed by an assignment. -/
def withSystemReserve (n : GasNode E K M) (sr : ℕ) : GasNode E K M :=
  match n with
  | .external id m v l _ r c d => .external id m v l sr r c d
  | .specifiedLocal p rt v l _ r c => .specifiedLocal p rt v l sr r c
  | .unspecifiedLocal p rt l _ => .unspecifiedLocal p rt l sr
  | n => n

/-- `parent`. -/
def parent : GasNode E K M → Option K
  | .specifiedLocal p .. | .unspecifiedLocal p .. => some p
  | _ => none

/-- `root_id`. -/
def rootId : GasNode E K M → Option K
  | .specifiedLocal _ rt .. | .unspecifiedLocal _ rt .. => some rt
  | _ => none

/-- `external_data`: the origin and multiplier of a root. -/
def externalData : GasNode E K M → Option (E × M)
  | .external id m .. | .cut id m .. | .reserved id m .. => some (id, m)
  | _ => none

/-- `is_external`. -/
def isExternal : GasNode E K M → Bool
  | .external .. => true
  | _ => false

/-- `is_specified_local`. -/
def isSpecifiedLocal : GasNode E K M → Bool
  | .specifiedLocal .. => true
  | _ => false

/-- `is_unspecified_local`. -/
def isUnspecifiedLocal : GasNode E K M → Bool
  | .unspecifiedLocal .. => true
  | _ => false

/-- `is_cut`. -/
def isCut : GasNode E K M → Bool
  | .cut .. => true
  | _ => false

/-- `is_reserved`. -/
def isReserved : GasNode E K M → Bool
  | .reserved .. => true
  | _ => false

/-- `is_system_reservable`. -/
def isSystemReservable (n : GasNode E K M) : Bool := n.systemReserve.isSome

/-- The whole value the node holds: its own value (none for an unspecified
node), its locks and its system reservation — `total_value` without the
saturation. -/
def totalValue (n : GasNode E K M) : ℕ :=
  n.value.getD 0 + n.lock.total + n.systemReserve.getD 0

/-! ## Kind and the setters

`kind` forgets every field. The setters change fields only, so none of them
changes a node's kind, parent, root or origin data. -/

/-- The five variants of `GasNode` without their fields. -/
inductive Kind
  | external
  | cut
  | reserved
  | specifiedLocal
  | unspecifiedLocal
  deriving DecidableEq, Repr

/-- The variant of a node. -/
def kind : GasNode E K M → Kind
  | .external .. => .external
  | .cut .. => .cut
  | .reserved .. => .reserved
  | .specifiedLocal .. => .specifiedLocal
  | .unspecifiedLocal .. => .unspecifiedLocal

section Setters

variable (n : GasNode E K M)

@[simp] theorem kind_withValue (v : ℕ) : (n.withValue v).kind = n.kind := by cases n <;> rfl
@[simp] theorem kind_withLock (l : NodeLock) : (n.withLock l).kind = n.kind := by cases n <;> rfl
@[simp] theorem kind_withSystemReserve (sr : ℕ) : (n.withSystemReserve sr).kind = n.kind := by
  cases n <;> rfl
@[simp] theorem kind_markConsumed : n.markConsumed.kind = n.kind := by cases n <;> rfl
@[simp] theorem kind_adjustRefs (i sp : Bool) : (n.adjustRefs i sp).kind = n.kind := by
  cases n <;> rfl

@[simp] theorem parent_withValue (v : ℕ) : (n.withValue v).parent = n.parent := by cases n <;> rfl
@[simp] theorem parent_withLock (l : NodeLock) : (n.withLock l).parent = n.parent := by
  cases n <;> rfl
@[simp] theorem parent_withSystemReserve (sr : ℕ) : (n.withSystemReserve sr).parent = n.parent := by
  cases n <;> rfl
@[simp] theorem parent_markConsumed : n.markConsumed.parent = n.parent := by cases n <;> rfl
@[simp] theorem parent_adjustRefs (i sp : Bool) : (n.adjustRefs i sp).parent = n.parent := by
  cases n <;> rfl

@[simp] theorem rootId_withValue (v : ℕ) : (n.withValue v).rootId = n.rootId := by cases n <;> rfl
@[simp] theorem rootId_withLock (l : NodeLock) : (n.withLock l).rootId = n.rootId := by
  cases n <;> rfl
@[simp] theorem rootId_withSystemReserve (sr : ℕ) : (n.withSystemReserve sr).rootId = n.rootId := by
  cases n <;> rfl
@[simp] theorem rootId_markConsumed : n.markConsumed.rootId = n.rootId := by cases n <;> rfl
@[simp] theorem rootId_adjustRefs (i sp : Bool) : (n.adjustRefs i sp).rootId = n.rootId := by
  cases n <;> rfl

@[simp] theorem externalData_withValue (v : ℕ) : (n.withValue v).externalData = n.externalData := by
  cases n <;> rfl
@[simp] theorem externalData_withLock (l : NodeLock) :
    (n.withLock l).externalData = n.externalData := by cases n <;> rfl
@[simp] theorem externalData_withSystemReserve (sr : ℕ) :
    (n.withSystemReserve sr).externalData = n.externalData := by cases n <;> rfl
@[simp] theorem externalData_markConsumed : n.markConsumed.externalData = n.externalData := by
  cases n <;> rfl
@[simp] theorem externalData_adjustRefs (i sp : Bool) :
    (n.adjustRefs i sp).externalData = n.externalData := by cases n <;> rfl

@[simp] theorem isPatron_withValue (v : ℕ) : (n.withValue v).isPatron = n.isPatron := by
  cases n <;> rfl
@[simp] theorem isConsumed_withValue (v : ℕ) : (n.withValue v).isConsumed = n.isConsumed := by
  cases n <;> rfl
@[simp] theorem specRefs_withValue (v : ℕ) : (n.withValue v).specRefs = n.specRefs := by
  cases n <;> rfl
@[simp] theorem unspecRefs_withValue (v : ℕ) : (n.withValue v).unspecRefs = n.unspecRefs := by
  cases n <;> rfl
@[simp] theorem refs_withValue (v : ℕ) : (n.withValue v).refs = n.refs := by
  cases n <;> rfl
@[simp] theorem lock_withValue (v : ℕ) : (n.withValue v).lock = n.lock := by cases n <;> rfl
@[simp] theorem systemReserve_withValue (v : ℕ) :
    (n.withValue v).systemReserve = n.systemReserve := by cases n <;> rfl
@[simp] theorem value_withValue (v : ℕ) : (n.withValue v).value = n.value.map fun _ => v := by
  cases n <;> rfl

/-- Writing back the value a node already holds changes nothing. -/
theorem withValue_of_value {v : ℕ} (h : n.value = some v) : n.withValue v = n := by
  cases n <;> simp_all [value, withValue]

@[simp] theorem value_withLock (l : NodeLock) : (n.withLock l).value = n.value := by cases n <;> rfl
@[simp] theorem lock_withLock (l : NodeLock) : (n.withLock l).lock = l := by cases n <;> rfl
@[simp] theorem systemReserve_withLock (l : NodeLock) :
    (n.withLock l).systemReserve = n.systemReserve := by cases n <;> rfl
@[simp] theorem isConsumed_withLock (l : NodeLock) : (n.withLock l).isConsumed = n.isConsumed := by
  cases n <;> rfl
@[simp] theorem specRefs_withLock (l : NodeLock) : (n.withLock l).specRefs = n.specRefs := by
  cases n <;> rfl
@[simp] theorem unspecRefs_withLock (l : NodeLock) : (n.withLock l).unspecRefs = n.unspecRefs := by
  cases n <;> rfl

@[simp] theorem value_withSystemReserve (sr : ℕ) :
    (n.withSystemReserve sr).value = n.value := by cases n <;> rfl
@[simp] theorem lock_withSystemReserve (sr : ℕ) :
    (n.withSystemReserve sr).lock = n.lock := by cases n <;> rfl
@[simp] theorem systemReserve_withSystemReserve (sr : ℕ) :
    (n.withSystemReserve sr).systemReserve = n.systemReserve.map fun _ => sr := by cases n <;> rfl
@[simp] theorem isConsumed_withSystemReserve (sr : ℕ) :
    (n.withSystemReserve sr).isConsumed = n.isConsumed := by cases n <;> rfl
@[simp] theorem specRefs_withSystemReserve (sr : ℕ) :
    (n.withSystemReserve sr).specRefs = n.specRefs := by cases n <;> rfl
@[simp] theorem unspecRefs_withSystemReserve (sr : ℕ) :
    (n.withSystemReserve sr).unspecRefs = n.unspecRefs := by cases n <;> rfl

@[simp] theorem value_markConsumed : n.markConsumed.value = n.value := by cases n <;> rfl
@[simp] theorem lock_markConsumed : n.markConsumed.lock = n.lock := by cases n <;> rfl
@[simp] theorem systemReserve_markConsumed : n.markConsumed.systemReserve = n.systemReserve := by
  cases n <;> rfl
@[simp] theorem specRefs_markConsumed : n.markConsumed.specRefs = n.specRefs := by cases n <;> rfl
@[simp] theorem unspecRefs_markConsumed : n.markConsumed.unspecRefs = n.unspecRefs := by
  cases n <;> rfl
@[simp] theorem refs_markConsumed : n.markConsumed.refs = n.refs := by cases n <;> rfl

@[simp] theorem value_adjustRefs (i sp : Bool) : (n.adjustRefs i sp).value = n.value := by
  cases n <;> rfl
@[simp] theorem lock_adjustRefs (i sp : Bool) : (n.adjustRefs i sp).lock = n.lock := by
  cases n <;> rfl
@[simp] theorem systemReserve_adjustRefs (i sp : Bool) :
    (n.adjustRefs i sp).systemReserve = n.systemReserve := by cases n <;> rfl
@[simp] theorem isConsumed_adjustRefs (i sp : Bool) :
    (n.adjustRefs i sp).isConsumed = n.isConsumed := by cases n <;> rfl

/-! A counter update touches its own counter only; the specified one does
not decide `is_patron`. -/

@[simp] theorem unspecRefs_adjustRefs_spec (i : Bool) :
    (n.adjustRefs i true).unspecRefs = n.unspecRefs := by
  cases n <;> cases i <;> rfl
@[simp] theorem specRefs_adjustRefs_unspec (i : Bool) :
    (n.adjustRefs i false).specRefs = n.specRefs := by
  cases n <;> cases i <;> rfl
@[simp] theorem isPatron_adjustRefs_spec (i : Bool) :
    (n.adjustRefs i true).isPatron = n.isPatron := by
  cases n <;> cases i <;> rfl

/-- The decrement is `saturating_sub`-like on every kind: a node without
counters reports `0` children before and after. -/
theorem specRefs_decreaseSpecRefs : n.decreaseSpecRefs.specRefs = n.specRefs - 1 := by
  cases n <;> rfl
theorem unspecRefs_decreaseUnspecRefs : n.decreaseUnspecRefs.unspecRefs = n.unspecRefs - 1 := by
  cases n <;> rfl

end Setters

end GasNode

end Gear.GasTree
