import Gear.Allocator.Layout

/-!
# The allocator's invariant, call by call

`HeapInv a m live free` holds of the allocator `a` over the memory `m`,
given the live allocations `live` (the pointer returned and the size asked)
and the free chunks `free` (header pointer and order): the chunks' `Layout`,
their `Headers` in the bytes, the memory not shrunk since it was last seen,
and `bytes_allocated` equal to the live chunks' total.

It holds of a new allocator over any memory (`HeapInv.init`), and each call
keeps it: a refused call leaves it as it was; an `allocate` moves a chunk off
a free list or takes a new one from the bumper (`HeapInv.allocate`); a
`deallocate` of a live pointer puts its chunk on its order's list
(`HeapInv.deallocate`); a client that writes only inside live payloads and
never shrinks the memory keeps it too (`HeapInv.client`). On the way, the
first two say which errors a call can return.
-/

namespace Gear.Allocator

open ByteMemory

/-- The allocator's invariant over the live allocations and the free chunks. -/
structure HeapInv (a : FreeingBumpHeapAllocator) (m : Memory) (live : List (ℕ × ℕ))
    (free : List (ℕ × Order)) : Prop where
  layout : Layout a.originalHeapBase a.bumper m.size (chunks live free)
  observed_le : a.lastObservedMemorySize ≤ m.size
  headers : Headers m.bytes a.freeLists live free
  allocated : a.stats.bytesAllocated = ((live.map liveChunk).map Prod.snd).sum

namespace HeapInv

variable {a : FreeingBumpHeapAllocator} {m : Memory} {live : List (ℕ × ℕ)}
  {free : List (ℕ × Order)}

theorem mem_chunks_live {x : ℕ × ℕ} (hx : x ∈ live) : liveChunk x ∈ chunks live free :=
  List.mem_append_left _ (List.mem_map_of_mem hx)

theorem mem_chunks_free {y : ℕ × Order} (hy : y ∈ free) : freeChunk y ∈ chunks live free :=
  List.mem_append_right _ (List.mem_map_of_mem hy)

/-- The live chunks weigh at most the whole heap, which is below `2 ^ 32`. -/
theorem live_total_lt {base bumper size : ℕ}
    (hl : Layout base bumper size (chunks live free)) :
    ((live.map liveChunk).map Prod.snd).sum < 2 ^ 32 := by
  have htotal := hl.tiled
  have hle : ((live.map liveChunk).map Prod.snd).sum ≤ ((chunks live free).map Prod.snd).sum := by
    simp only [chunks, List.map_append, List.sum_append]
    omega
  have := hl.bumper_le
  simp only [u32Max] at this
  omega

/-- The first free chunk of an order: its header links to the rest of the
list, whose next pointer, if any, is below `NIL_MARKER`. -/
theorem free_head (h : HeapInv a m live free) {order : Order} {p : ℕ}
    (hget : a.freeLists.get order = .ptr p) :
    ∃ link ps, freeOf free order = p :: ps ∧ Stored m.bytes p (.free link) ∧
      FreeChain m.bytes link ps ∧ (p, order) ∈ free ∧ (Header.free link).Encodable := by
  have hchain := h.headers.free_chain order
  rw [hget] at hchain
  generalize hfo : freeOf free order = ps at hchain
  cases hchain with
  | cons hs hrest =>
    rename_i link ps
    refine ⟨link, ps, rfl, hs, hrest, mem_of_mem_freeOf (hfo ▸ List.mem_cons_self), ?_⟩
    cases hrest with
    | nil => trivial
    | @cons q _ _ _ _ =>
      -- the next chunk lies inside the heap, so its pointer is below `u32::MAX - 16`
      have hq : (q, order) ∈ free := mem_of_mem_freeOf (by rw [hfo]; simp)
      have hin := h.layout.inside _ (mem_chunks_free hq : freeChunk _ ∈ chunks live free)
      have := h.layout.bumper_le
      simp only [freeChunk, Header.Encodable, nilMarker] at hin ⊢
      omega

/-- Writing a chunk's header keeps the headers of the chunks apart from it. -/
theorem store_keeps (h : HeapInv a m live free) {c : ℕ × ℕ} {rest : List (ℕ × ℕ)}
    (hp : (chunks live free).Perm (c :: rest)) (v : ℕ) :
    ∀ d ∈ rest, ∀ i < 8, store m.bytes c.1 (leBytes v 8) (d.1 + i) = m.bytes (d.1 + i) := by
  intro d hd i hi
  have hcd := h.layout.apart_of_perm hp hd
  have hmem : ∀ e ∈ c :: rest, e ∈ chunks live free := fun e he => hp.mem_iff.mpr he
  have := h.layout.headers_apart (hmem c List.mem_cons_self)
    (hmem d (List.mem_cons_of_mem _ hd)) hcd
  exact store_of_outside (by simp only [leBytes_length]; omega)

/-- An `allocate` served from a free list: the head chunk becomes live, its
header occupied, the list's head the next chunk. -/
theorem allocate_from_free (h : HeapInv a m live free) (hp : a.poisoned = false) {size : ℕ}
    {order : Order} (ho : Order.fromSize size = .ok order) {p : ℕ}
    (hget : a.freeLists.get order = .ptr p) :
    (a.allocate m size).1 = .ok (p + headerSize) ∧
      HeapInv (a.allocate m size).2.1 (a.allocate m size).2.2
        (live ++ [(p + headerSize, size)]) (free.erase (p, order)) ∧
      (a.allocate m size).2.1.poisoned = false ∧
      (a.allocate m size).2.1.originalHeapBase = a.originalHeapBase := by
  obtain ⟨link, ps, hfo, hs, hrest, hmem, henc⟩ := h.free_head hget
  have hperm := chunks_erase_free live hmem
  have hin := h.layout.inside _ (mem_chunks_free hmem : freeChunk _ ∈ chunks live free)
  have hmax := h.layout.bumper_le
  simp only [freeChunk, headerSize] at hin
  have hread : Header.readFrom m p = .ok (.free link) :=
    Header.readFrom_of_stored hs (by omega) (by omega) henc
  have htake := takeHeader_ptr (a := { a with lastObservedMemorySize := m.size }) hget
    (by simp only [headerSize]; omega) hread
  obtain ⟨stats, hstats, heq⟩ := allocate_take_ok hp h.observed_le ho htake (by omega) (by omega)
  rw [heq]
  refine ⟨rfl, ?_, hp, rfl⟩
  -- the chunk moves from the free list to the live allocations
  have hlc : liveChunk (p + headerSize, size) = freeChunk (p, order) := by
    simp [liveChunk, freeChunk, Order.size_of_fromSize ho]
  have hperm' := hlc ▸ chunks_append_live live (free.erase (p, order)) (p + headerSize, size)
  have hlayout := h.layout.perm (hperm.trans hperm'.symm)
  have hkeep := h.store_keeps hperm (Header.occupied order).encode
  refine ⟨hlayout, Nat.le_refl _, ⟨?_, ?_⟩, ?_⟩
  · intro x hx
    rcases List.mem_append.mp hx with hx | hx
    · obtain ⟨h8, order', ho', hs'⟩ := h.headers.live_stored x hx
      exact ⟨h8, order', ho', hs'.congr (hkeep _ (mem_chunks_live hx))⟩
    · rw [List.mem_singleton] at hx
      subst hx
      refine ⟨Nat.le_add_left _ _, order, ho, ?_⟩
      rw [Nat.add_sub_cancel]
      exact stored_store _ _ _
  · intro order'
    by_cases ho' : order' = order
    · subst ho'
      rw [FreeLists.get_set_self, freeOf_erase_head hfo]
      have hps : ∀ q ∈ ps, (q, order') ∈ free.erase (p, order') := fun q hq =>
        mem_of_mem_freeOf (by rw [freeOf_erase_head hfo]; exact hq)
      exact hrest.congr fun q hq => hkeep (freeChunk (q, order')) (mem_chunks_free (hps q hq))
    · rw [FreeLists.get_set_ne _ _ ho', freeOf_erase_ne _ _ ho']
      refine (h.headers.free_chain order').congr fun q hq =>
        hkeep (freeChunk (q, order')) (mem_chunks_free ?_)
      refine (List.mem_erase_of_ne ?_).mpr (mem_of_mem_freeOf hq)
      intro heq
      cases heq
      exact ho' rfl
  · -- the new live chunk is counted once, and the total stays below `2 ^ 32`
    have hlt := live_total_lt hlayout
    simp only [List.map_append, List.map_cons, List.map_nil, List.sum_append, List.sum_cons,
      List.sum_nil, hlc] at hlt ⊢
    rw [hstats, h.allocated, Nat.mod_eq_of_lt (by simpa [freeChunk] using hlt)]
    simp [freeChunk]

/-- An `allocate` served by the bumper: a new chunk past all others, inside
the memory `bump` grew. -/
theorem allocate_from_bump (h : HeapInv a m live free) (hp : a.poisoned = false) {size : ℕ}
    {order : Order} (ho : Order.fromSize size = .ok order)
    (hget : a.freeLists.get order = .nil) {headerPtr bumper' : ℕ} {m' : Memory}
    (hb : bump a.bumper (order.size + headerSize) m = .ok (headerPtr, bumper', m')) :
    (a.allocate m size).1 = .ok (a.bumper + headerSize) ∧
      HeapInv (a.allocate m size).2.1 (a.allocate m size).2.2
        (live ++ [(a.bumper + headerSize, size)]) free ∧
      (a.allocate m size).2.1.poisoned = false ∧
      (a.allocate m size).2.1.originalHeapBase = a.originalHeapBase := by
  have htake := takeHeader_bump (a := { a with lastObservedMemorySize := m.size }) hget hb
  obtain ⟨rfl, rfl, hmax, hfit, hbytes, hpages⟩ := bump_ok hb
  have h8 := order.eight_le_size
  have hlen : (order.size + headerSize) % 8 = 0 := by
    have := order.size_mod_eight
    simp only [headerSize]
    omega
  have h16 : 16 ≤ order.size + headerSize := by simp only [headerSize]; omega
  have hfit8 : a.bumper + 8 ≤ m'.size := by simp only [headerSize] at hfit; omega
  have hmax8 : a.bumper + 8 ≤ u32Max := by simp only [headerSize] at hmax; omega
  obtain ⟨stats, hstats, heq⟩ := allocate_take_ok hp h.observed_le ho htake hfit8 hmax8
  rw [heq]
  refine ⟨rfl, ?_, hp, rfl⟩
  -- the new chunk goes after every other one
  have hlc : liveChunk (a.bumper + headerSize, size) = (a.bumper, order.size + headerSize) := by
    simp [liveChunk, Order.size_of_fromSize ho]
  have hperm := (hlc ▸ chunks_append_live live free (a.bumper + headerSize, size)).trans
    (List.perm_append_singleton _ _).symm
  have hlayout := (h.layout.bump hlen h16 hmax hfit).perm hperm.symm
  have hkeep : ∀ c ∈ chunks live free, ∀ i < 8,
      store m'.bytes a.bumper (leBytes (Header.occupied order).encode 8) (c.1 + i) =
        m.bytes (c.1 + i) := by
    intro c hc i hi
    have hend := (h.layout.inside c hc).2.1
    have hc16 := (h.layout.inside c hc).2.2.2.2
    have hout : c.1 + i < a.bumper ∨ a.bumper + (leBytes (Header.occupied order).encode 8).length ≤
        c.1 + i := by
      rw [leBytes_length]
      omega
    rw [store_of_outside hout, hbytes]
  -- the allocator saw the memory before `bump` grew it
  have hgrown : m.size ≤ m'.size := Nat.mul_le_mul_right _ hpages
  refine ⟨hlayout, hgrown, ⟨?_, fun order' => (h.headers.free_chain order').congr
    fun q hq => hkeep (freeChunk (q, order')) (mem_chunks_free (mem_of_mem_freeOf hq))⟩, ?_⟩
  · intro x hx
    rcases List.mem_append.mp hx with hx | hx
    · obtain ⟨h8, order', ho', hs'⟩ := h.headers.live_stored x hx
      exact ⟨h8, order', ho', hs'.congr (hkeep _ (mem_chunks_live hx))⟩
    · rw [List.mem_singleton] at hx
      subst hx
      refine ⟨Nat.le_add_left _ _, order, ho, ?_⟩
      rw [Nat.add_sub_cancel]
      exact stored_store _ _ _
  · have hlt := live_total_lt hlayout
    simp only [List.map_append, List.map_cons, List.map_nil, List.sum_append, List.sum_cons,
      List.sum_nil, Nat.add_zero, hlc] at hlt ⊢
    rw [hstats, h.allocated, Nat.mod_eq_of_lt hlt]

/-- A refused call leaves the invariant; only the counters it touches change. -/
theorem observe_poison (h : HeapInv a m live free) :
    HeapInv { a with lastObservedMemorySize := m.size, poisoned := true } m live free :=
  ⟨h.layout, Nat.le_refl _, h.headers, h.allocated⟩

/-- Everything `allocate` can do: refuse, being poisoned; fail, with
`RequestedAllocationTooLarge` exactly for a size past the maximum and
otherwise with `AllocatorOutOfSpace`, and be poisoned from then on; or
succeed, keeping the invariant with one more live allocation. -/
theorem allocate_cases (h : HeapInv a m live free) (size : ℕ) :
    (a.poisoned = true ∧ a.allocate m size = (.error poisonedError, a, m)) ∨
    (a.poisoned = false ∧ ∃ e,
      (e = .requestedAllocationTooLarge ∧ maxPossibleAllocation < size ∨
        e = .allocatorOutOfSpace ∧ size ≤ maxPossibleAllocation) ∧
      a.allocate m size = (.error e, { a with lastObservedMemorySize := m.size, poisoned := true }, m)) ∨
    (a.poisoned = false ∧ size ≤ maxPossibleAllocation ∧ ∃ p free',
      (a.allocate m size).1 = .ok p ∧
      HeapInv (a.allocate m size).2.1 (a.allocate m size).2.2 (live ++ [(p, size)]) free' ∧
      (a.allocate m size).2.1.poisoned = false ∧
      (a.allocate m size).2.1.originalHeapBase = a.originalHeapBase) := by
  cases hp : a.poisoned with
  | true => exact .inl ⟨rfl, allocate_poisoned hp size⟩
  | false =>
    right
    by_cases hs : size ≤ maxPossibleAllocation
    · obtain ⟨order, ho, -⟩ := Order.fromSize_of_le hs
      -- the order's free list, or the bumper
      cases hget : a.freeLists.get order with
      | ptr p =>
        obtain ⟨hr, hinv, hpo, hbase⟩ := h.allocate_from_free hp ho hget
        exact .inr ⟨rfl, hs, _, _, hr, hinv, hpo, hbase⟩
      | nil =>
        cases hb : bump a.bumper (order.size + headerSize) m with
        | error e =>
          have htake := takeHeader_bump_error (a := { a with lastObservedMemorySize := m.size })
            hget hb
          exact .inl ⟨rfl, e, .inr ⟨bump_error hb, hs⟩,
            allocate_take_error hp h.observed_le ho htake⟩
        | ok r =>
          obtain ⟨headerPtr, bumper', m'⟩ := r
          obtain ⟨hr, hinv, hpo, hbase⟩ := h.allocate_from_bump hp ho hget hb
          exact .inr ⟨rfl, hs, _, _, hr, hinv, hpo, hbase⟩
    · exact .inl ⟨rfl, _, .inl ⟨rfl, by omega⟩, allocate_too_large hp h.observed_le (by omega)⟩

/-- A `deallocate` of a live pointer: its chunk heads its order's free list. -/
theorem deallocate_live (h : HeapInv a m live free) (hp : a.poisoned = false) {x : ℕ × ℕ}
    (hx : x ∈ live) : ∃ order,
      (a.deallocate m x.1).1 = .ok () ∧
      HeapInv (a.deallocate m x.1).2.1 (a.deallocate m x.1).2.2 (live.erase x)
        ((x.1 - headerSize, order) :: free) ∧
      (a.deallocate m x.1).2.1.poisoned = false ∧
      (a.deallocate m x.1).2.1.originalHeapBase = a.originalHeapBase := by
  obtain ⟨h8, order, ho, hs⟩ := h.headers.live_stored x hx
  have hin := h.layout.inside _ (mem_chunks_live hx : liveChunk x ∈ chunks live free)
  have hmax := h.layout.bumper_le
  have hpay := eight_le_payloadSize x.2
  simp only [liveChunk, headerSize] at hin h8
  have hread := Header.readFrom_of_stored hs (by simp only [headerSize]; omega)
    (by simp only [headerSize]; omega) trivial
  have hlc : liveChunk x = freeChunk (x.1 - headerSize, order) := by
    simp [liveChunk, freeChunk, Order.size_of_fromSize ho]
  -- the chunk is counted in `bytes_allocated`
  have hsum : ((live.map liveChunk).map Prod.snd).sum =
      (liveChunk x).2 + (((live.erase x).map liveChunk).map Prod.snd).sum := by
    have := (((List.perm_cons_erase hx).map liveChunk).map Prod.snd).sum_eq
    simpa using this
  have hx' : (liveChunk x).2 = order.size + headerSize := by simp [hlc, freeChunk]
  have hsub : order.size + headerSize ≤ a.stats.bytesAllocated := by
    rw [h.allocated]
    omega
  rw [deallocate_ok hp h.observed_le h8 hread (by simp only [headerSize]; omega)
    (by simp only [headerSize]; omega) hsub]
  refine ⟨order, rfl, ?_, hp, rfl⟩
  have hperm := chunks_erase_live free hx
  have hperm' := chunks_cons_free (live.erase x) free (x.1 - headerSize, order)
  have hlayout := h.layout.perm (hperm.trans (hlc ▸ hperm'.symm))
  have hkeep := h.store_keeps hperm (Header.free (a.freeLists.get order)).encode
  refine ⟨hlayout, Nat.le_refl _, ⟨?_, ?_⟩, ?_⟩
  · intro y hy
    obtain ⟨h8', order', ho', hs'⟩ := h.headers.live_stored y (List.mem_of_mem_erase hy)
    exact ⟨h8', order', ho', hs'.congr (hkeep _ (mem_chunks_live hy))⟩
  · intro order'
    by_cases ho' : order' = order
    · subst ho'
      rw [FreeLists.get_set_self, freeOf_cons_self]
      exact .cons (stored_store _ _ _) ((h.headers.free_chain order').congr fun q hq =>
        hkeep (freeChunk (q, order')) (mem_chunks_free (mem_of_mem_freeOf hq)))
    · rw [FreeLists.get_set_ne _ _ ho', freeOf_cons_ne _ _ ho']
      exact (h.headers.free_chain order').congr fun q hq =>
        hkeep (freeChunk (q, order')) (mem_chunks_free (mem_of_mem_freeOf hq))
  · -- the freed chunk leaves the total
    dsimp only
    rw [h.allocated]
    omega

/-- A client that never shrinks the memory and writes only inside the
payloads of its live allocations keeps the invariant. -/
theorem client (h : HeapInv a m live free) {m' : Memory} (hpages : m.pages ≤ m'.pages)
    (hkeep : ∀ addr, (∀ y ∈ live, ¬ (y.1 ≤ addr ∧ addr < y.1 + payloadSize y.2)) →
      m'.bytes addr = m.bytes addr) :
    HeapInv a m' live free := by
  have hsize : m.size ≤ m'.size := Nat.mul_le_mul_right _ hpages
  refine ⟨h.layout.grow hsize, Nat.le_trans h.observed_le hsize, h.headers.congr ?_, h.allocated⟩
  intro c hc i hi
  apply hkeep
  rintro y hy ⟨hlo, hhi⟩
  -- a header byte lies in no payload: its own chunk's payload starts past it
  have h8 := (h.headers.live_stored y hy).1
  have hc16 := (h.layout.inside c hc).2.2.2.2
  have hyc : liveChunk y ∈ chunks live free := mem_chunks_live hy
  by_cases heq : c = liveChunk y
  · subst heq
    simp only [liveChunk, headerSize] at hlo h8
    omega
  · have := h.layout.apart.forall hc hyc heq
    simp only [Apart, liveChunk, headerSize] at this h8
    omega

/-- The heap base of a new allocator, rounded up to 8, does not wrap. -/
theorem new_heapBase {heapBase : ℕ} (hb : heapBase ≤ u32Max - 7) :
    (FreeingBumpHeapAllocator.new heapBase).originalHeapBase = (heapBase + 7) / 8 * 8 ∧
      (FreeingBumpHeapAllocator.new heapBase).bumper = (heapBase + 7) / 8 * 8 := by
  have : (heapBase + alignment - 1) / alignment * alignment % 2 ^ 32 =
      (heapBase + 7) / 8 * 8 := by
    simp only [alignment, u32Max] at hb ⊢
    omega
  exact ⟨this, this⟩

/-- A new allocator over any memory, with a heap base up to `u32::MAX - 7`. -/
theorem init {heapBase : ℕ} (hb : heapBase ≤ u32Max - 7) (m : Memory) :
    HeapInv (FreeingBumpHeapAllocator.new heapBase) m [] [] := by
  obtain ⟨hbase, hbumper⟩ := new_heapBase hb
  have hlayout : Layout (FreeingBumpHeapAllocator.new heapBase).originalHeapBase
      (FreeingBumpHeapAllocator.new heapBase).bumper m.size (chunks [] []) :=
    { base_aligned := by rw [hbase]; omega
      bumper_aligned := by rw [hbumper]; omega
      base_le := by rw [hbase, hbumper]
      bumper_le := by rw [hbumper]; simp only [u32Max] at hb ⊢; omega
      apart := List.Pairwise.nil
      inside := by simp [chunks]
      tiled := by simp [chunks, hbase, hbumper] }
  -- every free list of a new allocator is empty
  have hfree : ∀ order, FreeChain m.bytes
      ((FreeingBumpHeapAllocator.new heapBase).freeLists.get order) (freeOf [] order) :=
    fun _ => .nil
  exact ⟨hlayout, Nat.zero_le _, ⟨by simp, hfree⟩, rfl⟩

end HeapInv

end Gear.Allocator