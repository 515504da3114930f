import Gear.Allocator.Invariant
import Mathlib

/-!
# The allocator over whole runs

A run starts from a new allocator over any memory and interleaves three
kinds of steps: an `allocate(size)`, a `deallocate(ptr)` of a pointer that
`allocate` returned and that is still live, and what the client does between
calls: write inside the payloads of its live allocations and grow the memory,
never shrink it. The state keeps, beside the allocator and the memory, the
client's live allocations (pointer and requested size).

`HeapInv` holds in every reachable state (`reachable_inv`), and with it
`HeapSound`: a successful `allocate` returns an 8-aligned pointer past the
aligned heap base whose payload fits in the memory; the live chunks, header
and payload, are apart; `bytes_allocated` is their total; and a call fails
only with `RequestedAllocationTooLarge` (exactly for a size past the
maximum), with `AllocatorOutOfSpace`, or, once poisoned, with the poisoned
error. Every error poisons the allocator, `RequestedAllocationTooLarge`
included (`too_large_request_poisons`); the corrupted-header, out-of-bounds,
memory-shrunk and underflow errors are never returned.
-/

namespace Gear.Allocator

/-- The allocator, the memory, and the client's live allocations: each
pointer `allocate` returned and the size it was asked for. -/
structure HeapState where
  allocator : FreeingBumpHeapAllocator
  memory : Memory
  live : List (ℕ × ℕ)

/-- A new allocator over `memory`, nothing allocated. -/
def HeapState.init (heapBase : ℕ) (memory : Memory) : HeapState :=
  ⟨FreeingBumpHeapAllocator.new heapBase, memory, []⟩

/-- After `allocate(size)`: a returned pointer becomes live. -/
def HeapState.allocate (s : HeapState) (size : ℕ) : HeapState :=
  let (r, allocator, memory) := s.allocator.allocate s.memory size
  ⟨allocator, memory, match r with
    | .ok p => s.live ++ [(p, size)]
    | .error _ => s.live⟩

/-- After `deallocate(x.1)` of the live allocation `x`: freed, it is no
longer live. -/
def HeapState.deallocate (s : HeapState) (x : ℕ × ℕ) : HeapState :=
  let (r, allocator, memory) := s.allocator.deallocate s.memory x.1
  ⟨allocator, memory, match r with
    | .ok () => s.live.erase x
    | .error _ => s.live⟩

/-- What the client may do to the memory between calls: grow it, and write
only inside the payloads of its live allocations. -/
def ClientStep (live : List (ℕ × ℕ)) (m m' : Memory) : Prop :=
  m.pages ≤ m'.pages ∧
    ∀ addr, (∀ y ∈ live, ¬ (y.1 ≤ addr ∧ addr < y.1 + payloadSize y.2)) →
      m'.bytes addr = m.bytes addr

/-- One step of a run. -/
inductive HeapStep : HeapState → HeapState → Prop
  | allocate (s : HeapState) (size : ℕ) : HeapStep s (s.allocate size)
  | deallocate (s : HeapState) {x : ℕ × ℕ} (hx : x ∈ s.live) : HeapStep s (s.deallocate x)
  | client (s : HeapState) {m' : Memory} (h : ClientStep s.live s.memory m') :
      HeapStep s { s with memory := m' }

/-- The states a run from a new allocator over `memory` reaches. -/
def Reachable (heapBase : ℕ) (memory : Memory) (s : HeapState) : Prop :=
  Relation.ReflTransGen HeapStep (HeapState.init heapBase memory) s

/-- The run invariant: the heap base stays the aligned one, and `HeapInv`
holds for some free chunks. -/
structure RunInv (heapBase : ℕ) (s : HeapState) : Prop where
  base : s.allocator.originalHeapBase = (heapBase + 7) / 8 * 8
  heap : ∃ free, HeapInv s.allocator s.memory s.live free

theorem RunInv.init {heapBase : ℕ} (hb : heapBase ≤ u32Max - 7) (memory : Memory) :
    RunInv heapBase (HeapState.init heapBase memory) :=
  ⟨(HeapInv.new_heapBase hb).1, [], HeapInv.init hb memory⟩

theorem RunInv.step {heapBase : ℕ} {s s' : HeapState} (h : RunInv heapBase s)
    (hstep : HeapStep s s') : RunInv heapBase s' := by
  obtain ⟨hbase, free, hinv⟩ := h
  cases hstep with
  | allocate size =>
    rcases hinv.allocate_cases size with ⟨-, heq⟩ | ⟨-, e, -, heq⟩ |
      ⟨-, -, p, free', hr, hinv', -, hbase'⟩
    · -- refused: nothing changes
      simp only [HeapState.allocate, heq]
      exact ⟨hbase, free, hinv⟩
    · simp only [HeapState.allocate, heq]
      exact ⟨hbase, free, hinv.observe_poison⟩
    · simp only [HeapState.allocate]
      rw [hr]
      exact ⟨hbase' ▸ hbase, free', hinv'⟩
  | deallocate hx =>
    cases hp : s.allocator.poisoned with
    | true =>
      simp only [HeapState.deallocate, deallocate_poisoned hp]
      exact ⟨hbase, free, hinv⟩
    | false =>
      obtain ⟨order, hr, hinv', -, hbase'⟩ := hinv.deallocate_live hp hx
      simp only [HeapState.deallocate]
      rw [hr]
      exact ⟨hbase' ▸ hbase, _, hinv'⟩
  | client hc => exact ⟨hbase, free, hinv.client hc.1 hc.2⟩

/-- The run lemma: the invariant holds in every reachable state. -/
theorem reachable_inv {heapBase : ℕ} (hb : heapBase ≤ u32Max - 7) {memory : Memory}
    {s : HeapState} (hs : Reachable heapBase memory s) : RunInv heapBase s := by
  induction hs with
  | refl => exact RunInv.init hb memory
  | tail _ hstep ih => exact ih.step hstep

/-- What the allocator guarantees in a state. -/
structure HeapSound (heapBase : ℕ) (s : HeapState) : Prop where
  /-- a successful `allocate` returns an aligned pointer past the aligned heap
  base, whose payload fits in the memory it leaves -/
  allocate_ok : ∀ size p, (s.allocator.allocate s.memory size).1 = .ok p →
    p % 8 = 0 ∧ (heapBase + 7) / 8 * 8 ≤ p - headerSize ∧
      p + payloadSize size ≤ (s.allocator.allocate s.memory size).2.2.size
  /-- the live chunks, header and payload, do not overlap -/
  live_apart : (s.live.map liveChunk).Pairwise Apart
  /-- a failed `allocate` poisons the allocator and was refused by a poisoned
  one, or asked too much, or found no space -/
  allocate_error : ∀ size e, (s.allocator.allocate s.memory size).1 = .error e →
    (s.allocator.allocate s.memory size).2.1.poisoned = true ∧
      (s.allocator.poisoned = true ∧ e = poisonedError ∨
        s.allocator.poisoned = false ∧
          (e = .requestedAllocationTooLarge ∧ maxPossibleAllocation < size ∨
            e = .allocatorOutOfSpace ∧ size ≤ maxPossibleAllocation))
  /-- an allocator that is not poisoned refuses exactly the sizes past the
  maximum as too large -/
  too_large : s.allocator.poisoned = false → ∀ size, maxPossibleAllocation < size →
    (s.allocator.allocate s.memory size).1 = .error .requestedAllocationTooLarge
  /-- freeing a live allocation fails only when poisoned -/
  deallocate_error : ∀ y ∈ s.live, ∀ e, (s.allocator.deallocate s.memory y.1).1 = .error e →
    s.allocator.poisoned = true ∧ e = poisonedError
  /-- `bytes_allocated` is the total of the live chunks -/
  allocated : s.allocator.stats.bytesAllocated =
    (s.live.map fun y => payloadSize y.2 + headerSize).sum

theorem RunInv.sound {heapBase : ℕ} {s : HeapState} (h : RunInv heapBase s) :
    HeapSound heapBase s := by
  obtain ⟨hbase, free, hinv⟩ := h
  refine ⟨?_, hinv.layout.apart.sublist (List.sublist_append_left _ _), ?_, ?_, ?_, ?_⟩
  · intro size p hok
    rcases hinv.allocate_cases size with ⟨-, heq⟩ | ⟨-, e, -, heq⟩ |
      ⟨-, -, p', free', hr, hinv', -, hbase'⟩
    · rw [heq] at hok; cases hok
    · rw [heq] at hok; cases hok
    · rw [hr, Except.ok.injEq] at hok
      subst hok
      -- the returned pointer is live after the call
      have hmem : (p', size) ∈ s.live ++ [(p', size)] := List.mem_append_right _ List.mem_cons_self
      have h8 := (hinv'.headers.live_stored _ hmem).1
      have hin := hinv'.layout.inside _ (HeapInv.mem_chunks_live hmem : liveChunk _ ∈ chunks _ free')
      rw [hbase', hbase] at hin
      simp only [liveChunk, headerSize] at hin h8 ⊢
      omega
  · intro size e herr
    rcases hinv.allocate_cases size with ⟨hp, heq⟩ | ⟨hp, e', he', heq⟩ |
      ⟨-, -, p', free', hr, -⟩
    · rw [heq] at herr ⊢
      cases herr
      exact ⟨hp, .inl ⟨hp, rfl⟩⟩
    · rw [heq] at herr ⊢
      cases herr
      exact ⟨rfl, .inr ⟨hp, he'⟩⟩
    · rw [hr] at herr; cases herr
  · intro hp size hs
    exact congrArg Prod.fst (allocate_too_large hp hinv.observed_le hs)
  · intro y hy e herr
    cases hp : s.allocator.poisoned with
    | true =>
      rw [deallocate_poisoned hp] at herr
      cases herr
      exact ⟨rfl, rfl⟩
    | false =>
      obtain ⟨order, hr, -⟩ := hinv.deallocate_live hp hy
      rw [hr] at herr
      cases herr
  · rw [hinv.allocated, List.map_map]
    rfl

/-- The freeing-bump allocator is sound over every run from a heap base up to
`u32::MAX - 7`. -/
theorem freeing_bump_sound {heapBase : ℕ} (hb : heapBase ≤ u32Max - 7) {memory : Memory}
    {s : HeapState} (hs : Reachable heapBase memory s) : HeapSound heapBase s :=
  (reachable_inv hb hs).sound

theorem heap_sound_after_allocate :
    (0 : ℕ) ≤ u32Max - 7 ∧
      HeapSound 0 ((HeapState.init 0 ⟨Function.const ℕ 0, 1, none, false⟩).allocate 5) :=
  ⟨by decide, freeing_bump_sound (by decide) (.single (.allocate _ 5))⟩

/-- A request past the maximum fails with `RequestedAllocationTooLarge` and
poisons the allocator: the next request fails with the poisoned error. -/
theorem too_large_request_poisons :
    ((FreeingBumpHeapAllocator.new 0).allocate ⟨Function.const ℕ 0, 1, none, false⟩
        (maxPossibleAllocation + 1)).1 = .error .requestedAllocationTooLarge ∧
      (((HeapState.init 0 ⟨Function.const ℕ 0, 1, none, false⟩).allocate
          (maxPossibleAllocation + 1)).allocator.allocate
        ((HeapState.init 0 ⟨Function.const ℕ 0, 1, none, false⟩).allocate
          (maxPossibleAllocation + 1)).memory minPossibleAllocation).1 =
        .error (.other "the allocator has been poisoned") := by
  have hfirst := allocate_too_large (a := FreeingBumpHeapAllocator.new 0)
    (m := ⟨Function.const ℕ 0, 1, none, false⟩) rfl (Nat.zero_le _)
    (show maxPossibleAllocation < maxPossibleAllocation + 1 by omega)
  refine ⟨by rw [hfirst], ?_⟩
  simp only [HeapState.allocate, HeapState.init, hfirst]
  rw [allocate_poisoned rfl]
  rfl

end Gear.Allocator
