import Gear.Lib.AListSum
import Gear.GasTree.Node

/-!
# `TreeImpl` — `gas_provider/internal.rs`

The gas tree is two storage items: the node map `GasNodes` (an `AList` from
keys to `GasNode`s) and the optional `TotalValue`. Every operation of
`TreeImpl` is embedded here as a function from the storage to its result and
the storage afterwards. The storage is *not* rolled back on error: an
operation that wrote before failing returns the written storage with its
error, exactly like the Rust code, whose `StorageMap::insert`/`remove` and
`TotalValue::mutate` are not transactional.

Two outcomes of the Rust code are not values of `gas_provider::Error`, and
the model gives them constructors of their own in `GasTreeError`:

* `unreachable` — the panic of `unreachable!` in `get_origin_node`;
* `loopExhausted` — a parent-chain `while` loop (`find_ancestor_patron`,
  `try_remove_consumed_ancestors`) asked for more iterations than there are
  stored nodes. Each loop is run with that many iterations of fuel, which is
  enough on every acyclic parent chain; on a cyclic one the Rust loop would
  not terminate.

Operations that may overflow a `Balance` take the ceiling `bmax`
(`Balance::MAX`).
-/

namespace Gear.GasTree

/-- `gas_provider::Error`, and the two non-error outcomes described above. -/
inductive GasTreeError
  | nodeAlreadyExists
  | parentIsLost
  | parentHasNoChildren
  | nodeNotFound
  | nodeWasConsumed
  | insufficientBalance
  | forbidden
  | unexpectedConsumeOutput
  | unexpectedNodeType
  | valueIsNotCaught
  | valueIsBlocked
  | valueIsNotBlocked
  | consumedWithLock
  | consumedWithSystemReservation
  | totalValueIsOverflowed
  | totalValueIsUnderflowed
  | unreachable
  | loopExhausted
  deriving DecidableEq, Repr

/-- `assert_not_invariant_error` of the property tests: the variants that
report a broken tree invariant. -/
def GasTreeError.isInvariantError : GasTreeError → Bool
  | .parentIsLost | .parentHasNoChildren | .unexpectedConsumeOutput | .unexpectedNodeType
  | .valueIsNotCaught | .valueIsBlocked | .valueIsNotBlocked => true
  | _ => false

/-- The storage of a gas tree: the `GasNodes` map and `TotalValue`. -/
structure TreeState (E K M : Type) where
  nodes : AList (fun _ : K => GasNode E K M)
  total : Option ℕ

/-- `CatchValueOutput`. -/
inductive CatchValueOutput
  | blocked
  | missed
  | caught (value : ℕ)
  deriving DecidableEq, Repr

namespace CatchValueOutput

/-- `is_blocked`. -/
def isBlocked : CatchValueOutput → Bool
  | .blocked => true
  | _ => false

/-- `is_caught`. -/
def isCaught : CatchValueOutput → Bool
  | .caught _ => true
  | _ => false

/-- `into_consume_output`: a caught value becomes the negative imbalance of a
`consume`, with the origin's multiplier and id. -/
def intoConsumeOutput {E M : Type} (origin : E) (multiplier : M) :
    CatchValueOutput → Option (ℕ × M × E)
  | .caught v => some (v, multiplier, origin)
  | _ => none

end CatchValueOutput

/-- `PositiveImbalance::apply_to`: `checked_add` on the stored total. -/
def positiveApplyTo (bmax amount : ℕ) (total : Option ℕ) : Option ℕ :=
  if total.getD 0 + amount ≤ bmax then some (total.getD 0 + amount) else none

/-- `NegativeImbalance::apply_to`: `checked_sub` on the stored total. -/
def negativeApplyTo (amount : ℕ) (total : Option ℕ) : Option ℕ :=
  if amount ≤ total.getD 0 then some (total.getD 0 - amount) else none

namespace TreeState

variable {E K M : Type} [DecidableEq K]

/-- Empty storage. -/
def empty : TreeState E K M := ⟨∅, none⟩

/-- `StorageMap::insert`. -/
def insertNode (s : TreeState E K M) (k : K) (n : GasNode E K M) : TreeState E K M :=
  { s with nodes := s.nodes.insert k n }

/-- `StorageMap::remove`. -/
def removeNode (s : TreeState E K M) (k : K) : TreeState E K M :=
  { s with nodes := s.nodes.erase k }

/-- `TotalValue::mutate` with an imbalance's `apply_to`: on failure the total
is set to `None`. -/
def mutateTotal (s : TreeState E K M) (r : Option ℕ) : TreeState E K M :=
  { s with total := r }

/-- `total_supply`. -/
def totalSupply (s : TreeState E K M) : ℕ := s.total.getD 0

@[simp] theorem insertNode_total (s : TreeState E K M) (k : K) (n : GasNode E K M) :
    (s.insertNode k n).total = s.total := rfl
@[simp] theorem removeNode_total (s : TreeState E K M) (k : K) :
    (s.removeNode k).total = s.total := rfl
omit [DecidableEq K] in
@[simp] theorem mutateTotal_nodes (s : TreeState E K M) (r : Option ℕ) :
    (s.mutateTotal r).nodes = s.nodes := rfl
omit [DecidableEq K] in
@[simp] theorem mutateTotal_total (s : TreeState E K M) (r : Option ℕ) :
    (s.mutateTotal r).total = r := rfl
@[simp] theorem insertNode_nodes (s : TreeState E K M) (k : K) (n : GasNode E K M) :
    (s.insertNode k n).nodes = s.nodes.insert k n := rfl
@[simp] theorem removeNode_nodes (s : TreeState E K M) (k : K) :
    (s.removeNode k).nodes = s.nodes.erase k := rfl

end TreeState

namespace TreeImpl

variable {E K M : Type} [DecidableEq K]

open TreeState

/-! ## Internal procedures -/

/-- `node_with_value`: the node itself, or for an unspecified node its parent,
which must hold a value; the id is `some` when the parent was taken. -/
def nodeWithValue (s : TreeState E K M) (node : GasNode E K M) :
    Except GasTreeError (GasNode E K M × Option K) :=
  match node with
  | .unspecifiedLocal parent .. =>
    match s.nodes.lookup parent with
    | none => .error .parentIsLost
    | some p =>
      if p.isExternal || p.isSpecifiedLocal || p.isReserved then .ok (p, some parent)
      else .error .unexpectedNodeType
  | _ => .ok (node, none)

/-- `decrease_parents_ref`: the parent of a local node loses one child of the
node's kind. Fails before writing, so the storage is returned only on success. -/
def decreaseParentsRef (s : TreeState E K M) (node : GasNode E K M) :
    Except GasTreeError (TreeState E K M) :=
  match node.parent with
  | none => .ok s
  | some id =>
    match s.nodes.lookup id with
    | none => .error .parentIsLost
    | some parent =>
      if parent.refs = 0 then .error .parentHasNoChildren
      else
        match node with
        | .specifiedLocal .. => .ok (s.insertNode id parent.decreaseSpecRefs)
        | .unspecifiedLocal .. => .ok (s.insertNode id parent.decreaseUnspecRefs)
        | _ => .error .unexpectedNodeType

/-- The `while !ret_node.is_patron()` loop of `find_ancestor_patron`, from the
stored `node` under `id`, for at most `fuel` tests of the loop condition. -/
def findPatronLoop (s : TreeState E K M) :
    ℕ → K → GasNode E K M → Except GasTreeError (Option (GasNode E K M × K))
  | 0, _, _ => .error .loopExhausted
  | fuel + 1, id, node =>
    if node.isPatron then .ok (some (node, id))
    else
      match node with
      | .external .. | .reserved .. => .ok none
      | .specifiedLocal parent .. =>
        match s.nodes.lookup parent with
        | none => .error .parentIsLost
        | some n => findPatronLoop s fuel parent n
      | _ => .error .unexpectedNodeType

/-- `find_ancestor_patron`: the first patron strictly above a specified node,
or `none` when the chain ends in a non-patron root. -/
def findAncestorPatron (s : TreeState E K M) (node : GasNode E K M) :
    Except GasTreeError (Option (GasNode E K M × K)) :=
  match node with
  | .external .. | .cut .. | .reserved .. => .ok none
  | .specifiedLocal parent .. =>
    match s.nodes.lookup parent with
    | none => .error .parentIsLost
    | some n => findPatronLoop s s.nodes.entries.length parent n
  | .unspecifiedLocal .. => .error .forbidden

/-- `catch_value`: a non-patron node's value moves to its ancestor patron
(written to storage) or, without one, is caught; the node itself is changed
only in memory and returned. Fails before writing. -/
def catchValue (bmax : ℕ) (s : TreeState E K M) (node : GasNode E K M) :
    Except GasTreeError (CatchValueOutput × GasNode E K M × TreeState E K M) :=
  if node.isPatron then .ok (.blocked, node, s)
  else if !node.isUnspecifiedLocal then
    match findAncestorPatron s node with
    | .error e => .error e
    | .ok (some (patron, patronId)) =>
      match node.value with
      | none => .error .unexpectedNodeType
      | some selfValue =>
        -- early return on a zero value, without touching the patron
        if selfValue = 0 then .ok (.missed, node, s)
        else
          match patron.value with
          | none => .error .unexpectedNodeType
          | some patronValue =>
            .ok (.missed, node.withValue 0,
              s.insertNode patronId (patron.withValue (saturatingAdd bmax patronValue selfValue)))
    | .ok none =>
      match node.value with
      | none => .error .unexpectedNodeType
      | some selfValue => .ok (.caught selfValue, node.withValue 0, s)
  else .ok (.blocked, node, s)

/-- `get_origin_node`: the origin and multiplier of a node's root, with the
root's key. -/
def getOriginNode (s : TreeState E K M) (key : K) : Except GasTreeError (E × M × K) :=
  match s.nodes.lookup key with
  | none => .error .nodeNotFound
  | some node =>
    match node.externalData with
    | some (origin, multiplier) => .ok (origin, multiplier, key)
    | none =>
      match node.rootId with
      | none => .error .unreachable
      | some rootId =>
        match s.nodes.lookup rootId with
        | none => .error .nodeNotFound
        | some root =>
          match root.externalData with
          | none => .error .unreachable
          | some (origin, multiplier) => .ok (origin, multiplier, rootId)

/-- The output of `consume`: the caught value as a negative imbalance, with the
multiplier and origin of the tree. -/
abbrev ConsumeOutput (E M : Type) := Option (ℕ × M × E)

/-- `NegativeImbalance::peek` of a consume output; `0` when there is none. -/
def consumedValue {E M : Type} : ConsumeOutput E M → ℕ
  | some (v, _, _) => v
  | none => 0

/-- The `while !node.is_patron()` loop of `try_remove_consumed_ancestors`: at
`nodeId` with the stored `node`, for at most `fuel` tests of the condition. -/
def removeAncestorsLoop (bmax : ℕ) (origin : E) (multiplier : M) :
    ℕ → TreeState E K M → K → GasNode E K M → CatchValueOutput → ConsumeOutput E M →
      Except GasTreeError (ConsumeOutput E M) × TreeState E K M
  | 0, s, _, _, _, _ => (.error .loopExhausted, s)
  | fuel + 1, s, nodeId, node, catchOutput, consumeOutput =>
    if node.isPatron then (.ok consumeOutput, s)
    else
      -- only a blocked output is recomputed; `Missed` and `Caught` are reused
      let r := if catchOutput.isBlocked then catchValue bmax s node else .ok (catchOutput, node, s)
      match r with
      | .error e => (.error e, s)
      | .ok (catchOutput, node, s) =>
        if catchOutput.isBlocked then (.error .valueIsBlocked, s)
        else
          let consumeOutput := consumeOutput.or (catchOutput.intoConsumeOutput origin multiplier)
          if node.specRefs = 0 then
            match decreaseParentsRef s node with
            | .error e => (.error e, s)
            | .ok s =>
              let s := s.removeNode nodeId
              match node with
              | .external .. | .reserved .. =>
                if !catchOutput.isCaught then (.error .valueIsNotCaught, s)
                else (.ok consumeOutput, s)
              | .specifiedLocal parent .. =>
                match s.nodes.lookup parent with
                | none => (.error .parentIsLost, s)
                | some n =>
                  removeAncestorsLoop bmax origin multiplier fuel s parent n catchOutput consumeOutput
              | _ => (.error .unexpectedNodeType, s)
          else (.ok consumeOutput, s.insertNode nodeId node)

/-- `try_remove_consumed_ancestors`: remove the consumed, childless, non-patron
nodes on the path from `key` upwards, catching their value. -/
def tryRemoveConsumedAncestors (bmax : ℕ) (s : TreeState E K M) (key : K)
    (descendantCatchOutput : CatchValueOutput) :
    Except GasTreeError (ConsumeOutput E M) × TreeState E K M :=
  match s.nodes.lookup key with
  | none => (.error .nodeNotFound, s)
  | some node =>
    match getOriginNode s key with
    | .error e => (.error e, s)
    | .ok (origin, multiplier, _) =>
      let catchOutput :=
        if descendantCatchOutput.isCaught then .caught 0 else descendantCatchOutput
      removeAncestorsLoop bmax origin multiplier s.nodes.entries.length s key node catchOutput none

/-- `create_from_with_value`: take `amount` from the value provider of `key`
into a new node built by `constructor`, which may also change the provider. -/
def createFromWithValue (s : TreeState E K M) (key newKey : K) (amount : ℕ)
    (constructor : K → ℕ → GasNode E K M → K →
      Except GasTreeError (GasNode E K M × GasNode E K M)) :
    Except GasTreeError Unit × TreeState E K M :=
  if (s.nodes.lookup newKey).isSome then (.error .nodeAlreadyExists, s)
  else
    match s.nodes.lookup key with
    | none => (.error .nodeNotFound, s)
    | some n =>
      match nodeWithValue s n with
      | .error e => (.error e, s)
      | .ok (node, nodeId) =>
        if node.isCut then (.error .forbidden, s)
        else
          match node.value with
          | none => (.error .unexpectedNodeType, s)
          | some v =>
            if v < amount then (.error .insufficientBalance, s)
            else
              let nodeId := nodeId.getD key
              match constructor key amount node nodeId with
              | .error e => (.error e, s)
              | .ok (newNode, node) =>
                let s := s.insertNode newKey newNode
                match node.value with
                | none => (.error .unexpectedNodeType, s)
                | some v => (.ok (), s.insertNode nodeId (node.withValue (v - amount)))

/-! ## `Tree`, `LockableTree` and `ReservableTree` -/

/-- `create`: a new `External` root holding `amount`, added to the total. -/
def create (bmax : ℕ) (s : TreeState E K M) (origin : E) (multiplier : M) (key : K)
    (amount : ℕ) : Except GasTreeError ℕ × TreeState E K M :=
  if (s.nodes.lookup key).isSome then (.error .nodeAlreadyExists, s)
  else
    let s := s.insertNode key (GasNode.new origin multiplier amount false)
    match positiveApplyTo bmax amount s.total with
    | some t => (.ok amount, s.mutateTotal (some t))
    | none => (.error .totalValueIsOverflowed, s.mutateTotal none)

/-- `consume`: mark the node consumed, move or catch its value, remove it if
childless together with the consumed ancestors that become removable, and
subtract the caught value from the total. -/
def consume (bmax : ℕ) (s : TreeState E K M) (key : K) :
    Except GasTreeError (ConsumeOutput E M) × TreeState E K M :=
  match s.nodes.lookup key with
  | none => (.error .nodeNotFound, s)
  | some node =>
    if node.isConsumed then (.error .nodeWasConsumed, s)
    else if !node.lock.isZero then (.error .consumedWithLock, s)
    else if node.systemReserve.any (· ≠ 0) then (.error .consumedWithSystemReservation, s)
    else
      match catchValue bmax s node.markConsumed with
      | .error e => (.error e, s)
      | .ok (catchOutput, node, s) =>
        match getOriginNode s key with
        | .error e => (.error e, s)
        | .ok (origin, multiplier, _) =>
          let res : Except GasTreeError (ConsumeOutput E M) × TreeState E K M :=
            if node.refs = 0 then
              match decreaseParentsRef s node with
              | .error e => (.error e, s)
              | .ok s =>
                let s := s.removeNode key
                match node with
                | .external .. | .cut .. | .reserved .. =>
                  if !catchOutput.isCaught then (.error .valueIsNotCaught, s)
                  else (.ok (catchOutput.intoConsumeOutput origin multiplier), s)
                | .unspecifiedLocal parent .. =>
                  if !catchOutput.isBlocked then (.error .valueIsNotBlocked, s)
                  else tryRemoveConsumedAncestors bmax s parent catchOutput
                | .specifiedLocal parent .. =>
                  if catchOutput.isBlocked then (.error .valueIsBlocked, s)
                  else
                    let consumeOutput := catchOutput.intoConsumeOutput origin multiplier
                    match tryRemoveConsumedAncestors bmax s parent catchOutput with
                    | (.error e, s) => (.error e, s)
                    | (.ok ancestorsOutput, s) =>
                      -- value can't be caught in both procedures
                      match consumeOutput, ancestorsOutput with
                      | some _, some (v, _) =>
                        if v = 0 then (.ok consumeOutput, s)
                        else (.error .unexpectedConsumeOutput, s)
                      | none, none => (.ok consumeOutput, s)
                      | _, _ => (.error .unexpectedConsumeOutput, s)
            else if node.isCut || node.isUnspecifiedLocal then (.error .unexpectedNodeType, s)
            else (.ok (catchOutput.intoConsumeOutput origin multiplier), s.insertNode key node)
          match res with
          | (.error e, s) => (.error e, s)
          | (.ok none, s) => (.ok none, s)
          | (.ok (some (v, mo)), s) =>
            match negativeApplyTo v s.total with
            | some t => (.ok (some (v, mo)), s.mutateTotal (some t))
            | none => (.error .totalValueIsUnderflowed, s.mutateTotal none)

/-- `spend`: take `amount` from the value provider of `key` and from the
total. -/
def spend (s : TreeState E K M) (key : K) (amount : ℕ) :
    Except GasTreeError ℕ × TreeState E K M :=
  match s.nodes.lookup key with
  | none => (.error .nodeNotFound, s)
  | some n =>
    match nodeWithValue s n with
    | .error e => (.error e, s)
    | .ok (node, nodeId) =>
      match node.value with
      | none => (.error .unexpectedNodeType, s)
      | some v =>
        if v < amount then (.error .insufficientBalance, s)
        else
          let s := s.insertNode (nodeId.getD key) (node.withValue (v - amount))
          match negativeApplyTo amount s.total with
          | some t => (.ok amount, s.mutateTotal (some t))
          | none => (.error .totalValueIsUnderflowed, s.mutateTotal none)

/-- `split_with_value`: a `SpecifiedLocal` child holding `amount`. -/
def splitWithValue (s : TreeState E K M) (key newKey : K) (amount : ℕ) :
    Except GasTreeError Unit × TreeState E K M :=
  createFromWithValue s key newKey amount fun _ value parentNode parentId =>
    .ok (.specifiedLocal parentId (parentNode.rootId.getD parentId) value .zero 0 {} false,
      parentNode.increaseSpecRefs)

/-- `split`: an `UnspecifiedLocal` child spending the provider's value. -/
def split (s : TreeState E K M) (key newKey : K) : Except GasTreeError Unit × TreeState E K M :=
  match s.nodes.lookup key with
  | none => (.error .nodeNotFound, s)
  | some n =>
    match nodeWithValue s n with
    | .error e => (.error e, s)
    | .ok (node, nodeId) =>
      let nodeId := nodeId.getD key
      if node.isCut then (.error .forbidden, s)
      else if (s.nodes.lookup newKey).isSome then (.error .nodeAlreadyExists, s)
      else
        let node := node.increaseUnspecRefs
        let newNode : GasNode E K M := .unspecifiedLocal nodeId (node.rootId.getD nodeId) .zero 0
        (.ok (), (s.insertNode newKey newNode).insertNode nodeId node)

/-- `cut`: a `Cut` root holding `amount`, with the origin of `key`. -/
def cut (s : TreeState E K M) (key newKey : K) (amount : ℕ) :
    Except GasTreeError Unit × TreeState E K M :=
  createFromWithValue s key newKey amount fun key value parentNode _ =>
    match getOriginNode s key with
    | .error e => .error e
    | .ok (id, multiplier, _) => .ok (.cut id multiplier value .zero, parentNode)

/-- `create_deposit`: an `External` deposit root holding `amount`, with the
origin of `key`. -/
def createDeposit (s : TreeState E K M) (key newKey : K) (amount : ℕ) :
    Except GasTreeError Unit × TreeState E K M :=
  createFromWithValue s key newKey amount fun key value parentNode _ =>
    match getOriginNode s key with
    | .error e => .error e
    | .ok (id, multiplier, _) => .ok (GasNode.new id multiplier value true, parentNode)

/-- `reserve`: a `Reserved` root holding `amount`, with the origin of `key`. -/
def reserve (s : TreeState E K M) (key newKey : K) (amount : ℕ) :
    Except GasTreeError Unit × TreeState E K M :=
  createFromWithValue s key newKey amount fun key value parentNode _ =>
    match getOriginNode s key with
    | .error e => .error e
    | .ok (id, multiplier, _) => .ok (.reserved id multiplier value .zero {} false, parentNode)

/-- `lock`: move `amount` from the value provider into the node's lock slot
`id`. -/
def lock (bmax : ℕ) (s : TreeState E K M) (key : K) (id : LockId) (amount : ℕ) :
    Except GasTreeError Unit × TreeState E K M :=
  match s.nodes.lookup key with
  | none => (.error .nodeNotFound, s)
  | some node =>
    if node.isConsumed then (.error .nodeWasConsumed, s)
    else if amount = 0 then (.ok (), s)
    else
      match nodeWithValue s node with
      | .error e => (.error e, s)
      | .ok (ancestorNode, ancestorId) =>
        match ancestorNode.value with
        | none => (.error .unexpectedNodeType, s)
        | some v =>
          if v < amount then (.error .insufficientBalance, s)
          else
            let ancestorNode := ancestorNode.withValue (v - amount)
            -- a parent provider is saved first and the node read again
            let (node?, s) : Option (GasNode E K M) × TreeState E K M :=
              match ancestorId with
              | some aid => ((s.insertNode aid ancestorNode).nodes.lookup key,
                  s.insertNode aid ancestorNode)
              | none => (some ancestorNode, s)
            match node? with
            | none => (.error .nodeNotFound, s)
            | some node =>
              (.ok (), s.insertNode key
                (node.withLock (node.lock.set id (saturatingAdd bmax (node.lock.get id) amount))))

/-- `unlock`: move `amount` from the node's lock slot `id` back to the value
provider. -/
def unlock (bmax : ℕ) (s : TreeState E K M) (key : K) (id : LockId) (amount : ℕ) :
    Except GasTreeError Unit × TreeState E K M :=
  match s.nodes.lookup key with
  | none => (.error .nodeNotFound, s)
  | some node =>
    if node.isConsumed then (.error .nodeWasConsumed, s)
    else if amount = 0 then (.ok (), s)
    else if node.lock.get id < amount then (.error .insufficientBalance, s)
    else
      let node := node.withLock (node.lock.set id (node.lock.get id - amount))
      match nodeWithValue s node with
      | .error e => (.error e, s)
      | .ok (ancestorNode, ancestorId) =>
        -- a parent provider: the node is saved first, then the provider
        let (ancestorNode, ancestorId, s) : GasNode E K M × K × TreeState E K M :=
          match ancestorId with
          | some aid => (ancestorNode, aid, s.insertNode key node)
          | none => (node, key, s)
        match ancestorNode.value with
        | none => (.error .unexpectedNodeType, s)
        | some v =>
          (.ok (), s.insertNode ancestorId (ancestorNode.withValue (saturatingAdd bmax v amount)))

/-- `system_reserve`: move `amount` from the value provider into the node's
system reservation. -/
def systemReserve (bmax : ℕ) (s : TreeState E K M) (key : K) (amount : ℕ) :
    Except GasTreeError Unit × TreeState E K M :=
  match s.nodes.lookup key with
  | none => (.error .nodeNotFound, s)
  | some node =>
    if !node.isSystemReservable then (.error .forbidden, s)
    else if node.isConsumed then (.error .nodeWasConsumed, s)
    else if amount = 0 then (.ok (), s)
    else
      match nodeWithValue s node with
      | .error e => (.error e, s)
      | .ok (ancestorNode, ancestorId) =>
        match ancestorNode.value with
        | none => (.error .unexpectedNodeType, s)
        | some v =>
          if v < amount then (.error .insufficientBalance, s)
          else
            let ancestorNode := ancestorNode.withValue (v - amount)
            let (node?, s) : Option (GasNode E K M) × TreeState E K M :=
              match ancestorId with
              | some aid => ((s.insertNode aid ancestorNode).nodes.lookup key,
                  s.insertNode aid ancestorNode)
              | none => (some ancestorNode, s)
            match node? with
            | none => (.error .nodeNotFound, s)
            | some node =>
              match node.systemReserve with
              | none => (.error .unexpectedNodeType, s)
              | some sr =>
                (.ok (), s.insertNode key (node.withSystemReserve (saturatingAdd bmax sr amount)))

/-- `system_unreserve`: move the whole system reservation of the node back to
the value provider, returning it. -/
def systemUnreserve (bmax : ℕ) (s : TreeState E K M) (key : K) :
    Except GasTreeError ℕ × TreeState E K M :=
  match s.nodes.lookup key with
  | none => (.error .nodeNotFound, s)
  | some node =>
    if !node.isSystemReservable then (.error .forbidden, s)
    else if node.isConsumed then (.error .nodeWasConsumed, s)
    else
      match node.systemReserve with
      | none => (.error .unexpectedNodeType, s)
      | some amount =>
        if amount = 0 then (.ok 0, s)
        else
          let node := node.withSystemReserve 0
          match nodeWithValue s node with
          | .error e => (.error e, s)
          | .ok (ancestorNode, ancestorId) =>
            let (ancestorNode, ancestorId, s) : GasNode E K M × K × TreeState E K M :=
              match ancestorId with
              | some aid => (ancestorNode, aid, s.insertNode key node)
              | none => (node, key, s)
            match ancestorNode.value with
            | none => (.error .unexpectedNodeType, s)
            | some v =>
              (.ok amount,
                s.insertNode ancestorId (ancestorNode.withValue (saturatingAdd bmax v amount)))

end TreeImpl

end Gear.GasTree
