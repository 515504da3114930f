import Mathlib

/-!
# The storage dequeue

`DequeueImpl` of `storage::complicated::dequeue` keeps a dequeue as a singly
linked list over a key-value map: a head key, a tail key, and for each key a
`LinkedNode` with the key of the next node and the value. The three are
separate storages, written one after the other, so an operation that fails
halfway leaves what it already wrote: each operation here returns its result
together with the storage after it, errors included.

`pop_back` has no link to the node before the tail. It takes the tail out of
the map and walks from the head to the node whose next key is the tail. The
walk is unbounded in the source; here it takes one step more than the map has
nodes. A walk along a list visits each node at most once, so only a cycle of
next keys, which the source would follow forever, runs out of steps.

`drain` yields and removes the nodes from the head on; it is run here to the
end, as a caller that consumes the iterator does.

The callbacks (`OnPushBack` and the others) are left out.
-/

namespace Gear.Storage

/-- `LinkedNode`. -/
structure LinkedNode (K V : Type) where
  next : Option K
  value : V
deriving DecidableEq, Repr

/-- The errors of `DequeueError`. -/
inductive DequeueError
  | duplicateKey
  | elementNotFound
  | headShouldBeSet
  | headShouldNotBeSet
  | tailHasNextKey
  | tailParentNotFound
  | tailShouldBeSet
  | tailShouldNotBeSet
deriving DecidableEq, Repr

variable {K V : Type} [DecidableEq K]

/-- The three storages of a dequeue: head key, tail key and the map of nodes. -/
structure DequeueState (K V : Type) [DecidableEq K] where
  head : Option K
  tail : Option K
  map : AList (fun _ : K => LinkedNode K V)

namespace DequeueState

/-- Empty storage. -/
def empty : DequeueState K V := ⟨none, none, ∅⟩

/-- The loop of `pop_back`: from `nextKey`, the key whose node's next key is
`tailKey`. -/
def findPreTail (map : AList (fun _ : K => LinkedNode K V)) (tailKey : K) :
    ℕ → K → Except DequeueError K
  | 0, _ => .error .tailParentNotFound
  | fuel + 1, nextKey =>
    match map.lookup nextKey with
    | none => .error .elementNotFound
    | some node =>
      match node.next with
      | some nodesNext =>
        if nodesNext = tailKey then .ok nextKey
        else findPreTail map tailKey fuel nodesNext
      | none => .error .tailParentNotFound

/-- `pop_back`: take the tail key and the tail node, walk from the head to the
node before, make it the tail. -/
def popBack (s : DequeueState K V) : Except DequeueError (Option V) × DequeueState K V :=
  match s.head with
  | some headKey =>
    match s.tail with
    | none => (.error .tailShouldBeSet, s)
    | some tailKey =>
      -- `TVS::take`, then `MS::take` of the tail
      let s := { s with tail := none }
      match s.map.lookup tailKey with
      | none => (.error .elementNotFound, s)
      | some tail =>
        let s := { s with map := s.map.erase tailKey }
        match findPreTail s.map tailKey (s.map.keys.length + 1) headKey with
        | .error e => (.error e, s)
        | .ok nextKey =>
          match s.map.lookup nextKey with
          | none => (.error .elementNotFound, s)
          | some node =>
            let s := { s with map := s.map.erase nextKey, tail := some nextKey }
            (.ok (some tail.value),
              { s with map := s.map.insert nextKey { node with next := none } })
  | none => if s.tail.isSome then (.error .tailShouldNotBeSet, s) else (.ok none, s)

/-- `pop_front`: take the head key and its node; the next key becomes the
head, or, for the last node, the tail is taken too. -/
def popFront (s : DequeueState K V) : Except DequeueError (Option V) × DequeueState K V :=
  match s.head with
  | some headKey =>
    let s := { s with head := none }
    match s.map.lookup headKey with
    | none => (.error .elementNotFound, s)
    | some ⟨next, value⟩ =>
      let s := { s with map := s.map.erase headKey }
      match next with
      | some next => (.ok (some value), { s with head := some next })
      | none =>
        match s.tail with
        | none => (.error .tailShouldBeSet, s)
        | some _ => (.ok (some value), { s with tail := none })
  | none => if s.tail.isSome then (.error .tailShouldNotBeSet, s) else (.ok none, s)

/-- `push_back`: a new key only; link it after the tail, or start the dequeue
with it. -/
def pushBack (s : DequeueState K V) (key : K) (value : V) :
    Except DequeueError Unit × DequeueState K V :=
  if key ∈ s.map then (.error .duplicateKey, s)
  else match s.tail with
    | some tailKey =>
      let s := { s with tail := none }
      match s.map.lookup tailKey with
      | some tail =>
        let s := { s with map := s.map.erase tailKey }
        if tail.next.isSome then (.error .tailHasNextKey, s)
        else
          let s := { s with
            tail := some key
            map := s.map.insert tailKey { tail with next := some key } }
          (.ok (), { s with map := s.map.insert key ⟨none, value⟩ })
      | none => (.error .elementNotFound, s)
    | none =>
      if s.head.isSome then (.error .headShouldNotBeSet, s)
      else (.ok (), ⟨some key, some key, s.map.insert key ⟨none, value⟩⟩)

/-- `push_front`: a new key only; link it before the head, or start the
dequeue with it. -/
def pushFront (s : DequeueState K V) (key : K) (value : V) :
    Except DequeueError Unit × DequeueState K V :=
  if key ∈ s.map then (.error .duplicateKey, s)
  else match s.head with
    | some headKey =>
      (.ok (), { s with head := some key, map := s.map.insert key ⟨some headKey, value⟩ })
    | none =>
      if s.tail.isSome then (.error .tailShouldNotBeSet, s)
      else (.ok (), ⟨some key, some key, s.map.insert key ⟨none, value⟩⟩)

/-- `clear`. -/
def clear (_ : DequeueState K V) : DequeueState K V := empty

/-- `DequeueIter` from `current`, for at most `fuel` nodes: the value of each
node, and an error where a key has no node. -/
def iterFrom (map : AList (fun _ : K => LinkedNode K V)) :
    ℕ → Option K → List (Except DequeueError V)
  | _, none => []
  | 0, some _ => []
  | fuel + 1, some current =>
    match map.lookup current with
    | some node => .ok node.value :: iterFrom map fuel node.next
    | none => [.error .elementNotFound]

/-- `iter`: from the head, as many nodes as the map holds. -/
def iter (s : DequeueState K V) : List (Except DequeueError V) :=
  iterFrom s.map s.map.keys.length s.head

/-- `DequeueDrainIter` from `current`, consumed to the end, for at most `fuel`
steps: what it yields and the storage it leaves. Each step takes the node out
of the map and makes its next key the head; a missing node kills head and tail
and ends the iteration with `element_not_found`. -/
def drainFrom : ℕ → Option K → DequeueState K V → List (Except DequeueError V) × DequeueState K V
  | _, none, s => ([], s)
  | 0, some _, s => ([], s)
  | fuel + 1, some current, s =>
    match s.map.lookup current with
    | some node =>
      let s := { s with map := s.map.erase current }
      -- `HVS::put` only when the node has a next key
      let s := match node.next with
        | some k => { s with head := some k }
        | none => s
      let r := drainFrom fuel node.next s
      (.ok node.value :: r.1, r.2)
    | none => ([.error .elementNotFound], { s with head := none, tail := none })

/-- `drain()` consumed to the end, from the head (`HVS::get`, which leaves it
set). Each step takes a node out of the map, so the iteration ends within one
step more than the map has nodes. -/
def drain (s : DequeueState K V) : List (Except DequeueError V) × DequeueState K V :=
  drainFrom (s.map.keys.length + 1) s.head s

end DequeueState

/-- A call on the dequeue. -/
inductive DequeueCall (K V : Type)
  | pushBack (key : K) (value : V)
  | pushFront (key : K) (value : V)
  | popFront
  | popBack
  | clear

/-- What a call returns: nothing for the pushes and `clear`, a value if the
dequeue was not empty for the pops. -/
abbrev DequeueResult (V : Type) := Except DequeueError (Option V)

/-- One call on the storage. -/
def DequeueCall.apply (s : DequeueState K V) : DequeueCall K V → DequeueResult V × DequeueState K V
  | .pushBack key value =>
    let (r, s) := s.pushBack key value
    (r.map fun _ => none, s)
  | .pushFront key value =>
    let (r, s) := s.pushFront key value
    (r.map fun _ => none, s)
  | .popFront => s.popFront
  | .popBack => s.popBack
  | .clear => (.ok none, s.clear)

/-- A run of calls from `s`: the results and the final storage. -/
def dequeueRun (s : DequeueState K V) : List (DequeueCall K V) → List (DequeueResult V) × DequeueState K V
  | [] => ([], s)
  | call :: rest =>
    let (r, s) := DequeueCall.apply s call
    let (rs, s) := dequeueRun s rest
    (r :: rs, s)

end Gear.Storage
