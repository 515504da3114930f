import Gear.Storage.DequeueRefinement

/-!
# Draining the storage dequeue

`DequeueImpl::drain` starts at the head without taking it (`HVS::get`). Each
step takes a node out of the map and moves the head to the node's next key,
but only when there is one, and no step touches the tail. Consumed to the end
on a dequeue of the list `l`, it yields `l`'s values front to back, all `Ok`
(`Represents.drain_eq`). But it leaves `l`'s last key as head and as tail over
a map without nodes: the storage holds no dequeue, and the next `push_back`
and `pop_front` both fail with `element_not_found` (`drain_leaves_last_key`).
Only the empty dequeue is drained to the empty storage.
-/

namespace Gear.Storage

variable {K V : Type} [DecidableEq K]

/-- The drain from the head, with the map holding exactly the nodes of `suf`
and the head at its first key: it yields the values of `suf` and leaves the
last key of `suf` as the head, the tail as it was, and no node. -/
theorem drainFrom_nodes : ∀ (suf : List (K × V)) (s : DequeueState K V) (fuel : ℕ),
    (keysOf suf).Nodup → (∀ k', s.map.lookup k' = lookupNode suf k') →
    s.head = (keysOf suf).head? → suf.length ≤ fuel →
    (DequeueState.drainFrom fuel s.head s).1 = suf.map (fun e => .ok e.2) ∧
      (DequeueState.drainFrom fuel s.head s).2.head = (keysOf suf).getLast? ∧
      (DequeueState.drainFrom fuel s.head s).2.tail = s.tail ∧
      ∀ k', (DequeueState.drainFrom fuel s.head s).2.map.lookup k' = none := by
  intro suf
  induction suf with
  | nil =>
    intro s fuel _ hlook hhead _
    simp only [keysOf, List.map_nil, List.head?_nil] at hhead
    simp [hhead, DequeueState.drainFrom, keysOf, hlook, lookupNode]
  | cons e rest ih =>
    intro s fuel hnd hlook hhead hfuel
    obtain ⟨k, v⟩ := e
    obtain ⟨fuel, rfl⟩ : ∃ f, fuel = f + 1 := ⟨fuel - 1, by simp at hfuel; omega⟩
    have hk : s.head = some k := hhead
    have hnode : s.map.lookup k = some ⟨(keysOf rest).head?, v⟩ := by
      rw [hlook k, lookupNode_cons_self]
    have herase := lookup_erase_of_nodes hnd hlook
    cases rest with
    | nil =>
      -- the last node: the head stays, the iteration ends
      have hstep : DequeueState.drainFrom (fuel + 1) s.head s =
          ([.ok v], { s with map := s.map.erase k }) := by
        simp [hk, DequeueState.drainFrom, hnode, keysOf]
      rw [hstep]
      refine ⟨rfl, by simp [hk, keysOf], rfl, fun k' => ?_⟩
      simpa [lookupNode] using herase k'
    | cons f rest =>
      obtain ⟨k₂, v₂⟩ := f
      -- the next key becomes the head, and the drain goes on from it
      let s₂ : DequeueState K V := { s with head := some k₂, map := s.map.erase k }
      obtain ⟨hv, hh, ht, hn⟩ := ih s₂ fuel (List.nodup_cons.mp hnd).2 herase rfl
        (by simp only [List.length_cons] at hfuel ⊢; omega)
      have hstep : DequeueState.drainFrom (fuel + 1) s.head s =
          (.ok v :: (DequeueState.drainFrom fuel s₂.head s₂).1,
            (DequeueState.drainFrom fuel s₂.head s₂).2) := by
        simp [hk, DequeueState.drainFrom, hnode, keysOf, s₂]
      rw [hstep]
      refine ⟨by simp [hv], ?_, ht, hn⟩
      rw [hh]
      simp [keysOf, List.getLast?_cons_cons]

variable {s : DequeueState K V} {l : List (K × V)}

/-- Consumed to the end, the drain of a dequeue of the list `l` yields the
values of `l` front to back, all `Ok`, and leaves the last key of `l` (none for
the empty list) as head and as tail, and no node. -/
theorem Represents.drain_eq (h : Represents s l) :
    s.drain.1 = l.map (fun e => .ok e.2) ∧ s.drain.2.head = (keysOf l).getLast? ∧
      s.drain.2.tail = (keysOf l).getLast? ∧ ∀ k', s.drain.2.map.lookup k' = none := by
  obtain ⟨hv, hh, ht, hn⟩ := drainFrom_nodes l s (s.map.keys.length + 1) h.nodup h.lookup h.head
    (by rw [h.keys_length]; omega)
  exact ⟨hv, hh, ht.trans h.tail, hn⟩

/-- A tail key without a node: `push_back` of any new entry fails with
`element_not_found`. -/
theorem pushBack_of_tail_dangling {k : K} (ht : s.tail = some k)
    (hn : ∀ k', s.map.lookup k' = none) (k' : K) (v' : V) :
    (s.pushBack k' v').1 = .error .elementNotFound := by
  have hk' : k' ∉ s.map := by
    rw [← AList.lookup_isSome, hn]
    simp
  simp [DequeueState.pushBack, hk', ht, hn]

/-- A head key without a node: `pop_front` fails with `element_not_found`. -/
theorem popFront_of_head_dangling {k : K} (hh : s.head = some k)
    (hn : ∀ k', s.map.lookup k' = none) : s.popFront.1 = .error .elementNotFound := by
  simp [DequeueState.popFront, hh, hn]

/-- Every run of calls from empty storage that makes no `pop_back` on a
one-entry dequeue, and leaves a dequeue with last entry `(k, v)`: consumed to
the end, `drain()` yields the dequeue's values front to back, all `Ok`, but
leaves `k` as head and tail over a map without nodes. A following `push_back`
and a following `pop_front` then fail with `element_not_found`. -/
theorem drain_leaves_last_key {calls : List (DequeueCall K V)} {l₀ : List (K × V)} {k : K}
    {v : V} (hsafe : avoidsSinglePopBack [] calls = true)
    (hl : (listRun [] calls).2 = l₀ ++ [(k, v)]) :
    (dequeueRun DequeueState.empty calls).2.drain.1 = (l₀ ++ [(k, v)]).map (fun e => .ok e.2) ∧
      (dequeueRun DequeueState.empty calls).2.drain.2.head = some k ∧
      (dequeueRun DequeueState.empty calls).2.drain.2.tail = some k ∧
      (∀ k', (dequeueRun DequeueState.empty calls).2.drain.2.map.lookup k' = none) ∧
      (∀ k' v', ((dequeueRun DequeueState.empty calls).2.drain.2.pushBack k' v').1 =
        .error .elementNotFound) ∧
      (dequeueRun DequeueState.empty calls).2.drain.2.popFront.1 = .error .elementNotFound := by
  have h := (dequeueRun_refines Represents.empty calls hsafe).2
  rw [hl] at h
  obtain ⟨hv, hh, ht, hn⟩ := h.drain_eq
  have hlast : (keysOf (l₀ ++ [(k, v)])).getLast? = some k := by simp [keysOf]
  rw [hlast] at hh ht
  exact ⟨hv, hh, ht, hn, pushBack_of_tail_dangling ht hn, popFront_of_head_dangling hh hn⟩

/-- One `push_back(1, 10)` on empty storage, then a drain: the tail stays `1`
and `pop_front` fails. -/
theorem drain_after_push_back :
    (dequeueRun (DequeueState.empty : DequeueState ℕ ℕ) [.pushBack 1 10]).2.drain.2.tail =
        some 1 ∧
      (dequeueRun (DequeueState.empty : DequeueState ℕ ℕ) [.pushBack 1 10]).2.drain.2.popFront.1 =
        .error .elementNotFound := by
  obtain ⟨-, -, ht, -, -, hpop⟩ := drain_leaves_last_key
    (show avoidsSinglePopBack [] [DequeueCall.pushBack (1 : ℕ) (10 : ℕ)] = true by decide)
    (show (listRun [] [DequeueCall.pushBack (1 : ℕ) (10 : ℕ)]).2 = [] ++ [(1, 10)] by decide)
  exact ⟨ht, hpop⟩

end Gear.Storage
