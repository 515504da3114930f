import Mathlib

/-!
# `InBlockTransitions` — `ethexe/runtime/common/src/transitions.rs`

During a block the runtime keeps, for every program, its current state record
(`states`) and, for every program it touched, a `NonFinalTransition`: the
state hash the program had when first touched, an inheritor, a signed value
to receive, and the value claims and messages of the block. `finalize`
commits one `StateTransition` for each touched program whose transition is
not a no-op, and the union of the committable message ids.

Maps are `BTreeMap`s keyed by `ActorId`; they are modelled as association
lists, and `finalize` walks the modifications in ascending key order as the
`BTreeMap` iteration does. Ids and hashes are numbers, compared for equality
(and a hash against zero). The closure of `modify_transition` may change the
public fields of a transition only — the initial state hash is private to the
module — so it is a function on `TransitionFields`. A panic (`expect` on an
unknown actor, the claimed value out of `i128`) makes the call return `none`.
-/

namespace Gear.Ethexe

/-- `ActorId`, a 32-byte id ordered as a big-endian number. -/
abbrev ActorId := ℕ

/-- `MessageId`. -/
abbrev MessageId := ℕ

/-- `CodeId`. -/
abbrev CodeId := ℕ

/-- `H256`, compared for equality and against zero. -/
abbrev H256 := ℕ

/-- `i128`. -/
abbrev I128 := {z : ℤ // -2 ^ 127 ≤ z ∧ z < 2 ^ 127}

namespace I128

/-- `0i128`. -/
def zero : I128 := ⟨0, by omega, by omega⟩

/-- `checked_add`: `none` on overflow. -/
def checkedAdd (x : I128) (y : ℤ) : Option I128 :=
  if h : -2 ^ 127 ≤ x.1 + y ∧ x.1 + y < 2 ^ 127 then some ⟨x.1 + y, h⟩ else none

/-- `i128::try_from` of a `u128`: `none` from `2 ^ 127` on. -/
def tryFromU128 (v : ℕ) : Option I128 :=
  if h : (v : ℤ) < 2 ^ 127 then some ⟨v, by omega, h⟩ else none

end I128

/-- `ValueClaim`. -/
structure ValueClaim where
  messageId : MessageId
  destination : ActorId
  value : ℕ
deriving DecidableEq, Repr

/-- `StateHashWithQueueSize`. -/
structure StateHashWithQueueSize where
  hash : H256
  canonicalQueueSize : ℕ
  injectedQueueSize : ℕ
deriving DecidableEq, Repr

/-- `StateHashWithQueueSize::zero`. -/
def StateHashWithQueueSize.zero : StateHashWithQueueSize := ⟨0, 0, 0⟩

/-- The public fields of `NonFinalTransition`. -/
structure TransitionFields (Msg : Type) where
  inheritor : Option ActorId
  valueToReceive : I128
  claims : List ValueClaim
  messages : List Msg
  committedMessageIds : Finset MessageId

/-- `NonFinalTransition`: the private `initial_state` and the public fields. -/
structure NonFinalTransition (Msg : Type) extends TransitionFields Msg where
  initialState : H256

namespace NonFinalTransition

variable {Msg : Type}

/-- `NonFinalTransition::default`, with an initial state hash. -/
def empty (initialState : H256) : NonFinalTransition Msg :=
  ⟨⟨none, I128.zero, [], [], ∅⟩, initialState⟩

/-- `is_noop`: a transition of a program created in the block (zero initial
state) is never a no-op; otherwise it is one when the state hash is back to
the initial one and nothing else needs committing. -/
def isNoop (t : NonFinalTransition Msg) (currentState : H256) : Bool :=
  !(t.initialState == 0) && currentState == t.initialState &&
    (t.inheritor.isNone && t.valueToReceive.1 == 0 && t.claims.isEmpty && t.messages.isEmpty)

end NonFinalTransition

/-- `StateTransition`, as `finalize` fills it. -/
structure StateTransition (Msg : Type) where
  actorId : ActorId
  newStateHash : H256
  exited : Bool
  inheritor : ActorId
  valueToReceive : ℕ
  valueToReceiveNegativeSign : Bool
  valueClaims : List ValueClaim
  messages : List Msg

/-- `InBlockTransitions`, with the fact `finalize` relies on: every modified
actor has a state. -/
structure InBlockTransitions (Msg : Type) where
  states : AList fun _ : ActorId => StateHashWithQueueSize
  modifications : AList fun _ : ActorId => NonFinalTransition Msg
  programCreations : AList fun _ : ActorId => CodeId
  modified_known : ∀ a ∈ modifications, a ∈ states

/-- `FinalizedBlockTransitions`. -/
structure FinalizedBlockTransitions (Msg : Type) where
  transitions : List (StateTransition Msg)
  states : AList fun _ : ActorId => StateHashWithQueueSize
  programCreations : List (ActorId × CodeId)
  committedMessageIds : Finset MessageId

namespace InBlockTransitions

variable {Msg : Type}

/-- Inserting an actor into both maps keeps every modified actor known. -/
theorem known_insert {β γ : ActorId → Type} {m : AList β} {s : AList γ}
    (h : ∀ a ∈ m, a ∈ s) (a : ActorId) (x : β a) (y : γ a) :
    ∀ a' ∈ m.insert a x, a' ∈ s.insert a y := by
  intro a' ha'
  rw [AList.mem_insert] at ha' ⊢
  rcases ha' with rfl | ha'
  · exact .inl rfl
  · exact .inr (h a' ha')

/-- `InBlockTransitions::new`. -/
def new (states : AList fun _ : ActorId => StateHashWithQueueSize) : InBlockTransitions Msg where
  states := states
  modifications := ∅
  programCreations := ∅
  modified_known := fun _ h => absurd h (AList.notMem_empty _)

/-- `register_new`: a zero state, a fresh transition (zero initial state),
and the code. -/
def registerNew (t : InBlockTransitions Msg) (a : ActorId) (codeId : CodeId) :
    InBlockTransitions Msg where
  states := t.states.insert a .zero
  modifications := t.modifications.insert a (.empty 0)
  programCreations := t.programCreations.insert a codeId
  modified_known := known_insert t.modified_known a _ _

/-- `modify`: for a known actor, its transition, created with the actor's
current state hash as initial state when there is none yet; `f` changes the
state record and the transition, or panics. -/
def modify (t : InBlockTransitions Msg) (a : ActorId)
    (f : StateHashWithQueueSize → NonFinalTransition Msg →
      Option (StateHashWithQueueSize × NonFinalTransition Msg)) :
    Option (InBlockTransitions Msg) :=
  match t.states.lookup a with
  | none => none
  | some st =>
    match f st ((t.modifications.lookup a).getD (.empty st.hash)) with
    | none => none
    | some (st', tr') => some
      { states := t.states.insert a st'
        modifications := t.modifications.insert a tr'
        programCreations := t.programCreations
        modified_known := known_insert t.modified_known a _ _ }

/-- `modify_state`. -/
def modifyState (t : InBlockTransitions Msg) (a : ActorId) (newStateHash : H256)
    (canonicalQueueSize injectedQueueSize : ℕ) : Option (InBlockTransitions Msg) :=
  t.modify a fun _ tr => some (⟨newStateHash, canonicalQueueSize, injectedQueueSize⟩, tr)

/-- `modify_transition`: the closure sees the public fields. -/
def modifyTransition (t : InBlockTransitions Msg) (a : ActorId)
    (f : TransitionFields Msg → TransitionFields Msg) : Option (InBlockTransitions Msg) :=
  t.modify a fun st tr => some (st, { tr with toTransitionFields := f tr.toTransitionFields })

/-- `claim_value`: the claimed value is added to the value to receive, which
panics out of `i128`, and the claim is pushed. -/
def claimValue (t : InBlockTransitions Msg) (a : ActorId) (claim : ValueClaim) :
    Option (InBlockTransitions Msg) :=
  t.modify a fun st tr => do
    let v ← I128.tryFromU128 claim.value
    let v' ← tr.valueToReceive.checkedAdd v.1
    some (st, { tr with valueToReceive := v', claims := tr.claims ++ [claim] })

end InBlockTransitions

/-- The transition `finalize` commits for actor `a` with its final state
record and its modification. -/
def StateTransition.ofModification {Msg : Type} (a : ActorId) (newState : StateHashWithQueueSize)
    (m : NonFinalTransition Msg) : StateTransition Msg where
  actorId := a
  newStateHash := newState.hash
  exited := m.inheritor.isSome
  inheritor := m.inheritor.getD 0
  valueToReceive := m.valueToReceive.1.natAbs
  valueToReceiveNegativeSign := decide (m.valueToReceive.1 < 0)
  valueClaims := m.claims
  messages := m.messages

namespace InBlockTransitions

variable {Msg : Type}

/-- One iteration of the loop of `finalize`: the committable ids are
accumulated whatever the no-op filter says, and a transition is pushed unless
the modification is a no-op. The state record is found for every modified
actor; the default is never read. -/
def finalizeStep (states : AList fun _ : ActorId => StateHashWithQueueSize)
    (acc : List (StateTransition Msg) × Finset MessageId)
    (e : Σ _ : ActorId, NonFinalTransition Msg) : List (StateTransition Msg) × Finset MessageId :=
  let newState := (states.lookup e.1).getD .zero
  let committed := acc.2 ∪ e.2.committedMessageIds
  if e.2.isNoop newState.hash then (acc.1, committed)
  else (acc.1 ++ [.ofModification e.1 newState e.2], committed)

/-- The entries of a `BTreeMap`, in ascending key order. -/
def sortedEntries {β : ActorId → Type} (m : AList β) : List (Sigma β) :=
  m.entries.mergeSort fun x y => decide (x.1 ≤ y.1)

/-- `finalize`. -/
def finalize (t : InBlockTransitions Msg) : FinalizedBlockTransitions Msg :=
  let r := (sortedEntries t.modifications).foldl (finalizeStep t.states) ([], ∅)
  { transitions := r.1
    states := t.states
    programCreations := (sortedEntries t.programCreations).map fun e => (e.1, e.2)
    committedMessageIds := r.2 }

/-- The calls the block processing makes. -/
inductive Call (Msg : Type)
  | registerNew (a : ActorId) (codeId : CodeId)
  | modifyState (a : ActorId) (newStateHash : H256) (canonicalQueueSize injectedQueueSize : ℕ)
  | modifyTransition (a : ActorId) (f : TransitionFields Msg → TransitionFields Msg)
  | claimValue (a : ActorId) (claim : ValueClaim)

/-- The actor a call is about. -/
def Call.actor : Call Msg → ActorId
  | .registerNew a _ | .modifyState a .. | .modifyTransition a _ | .claimValue a _ => a

/-- Perform one call; `none` when it panics. -/
def Call.apply (t : InBlockTransitions Msg) : Call Msg → Option (InBlockTransitions Msg)
  | .registerNew a codeId => some (t.registerNew a codeId)
  | .modifyState a h cq iq => t.modifyState a h cq iq
  | .modifyTransition a f => t.modifyTransition a f
  | .claimValue a claim => t.claimValue a claim

/-- Perform calls in order, stopping at a panic. -/
def run (t : InBlockTransitions Msg) : List (Call Msg) → Option (InBlockTransitions Msg)
  | [] => some t
  | c :: cs => (c.apply t).bind fun t' => run t' cs

end InBlockTransitions

end Gear.Ethexe
