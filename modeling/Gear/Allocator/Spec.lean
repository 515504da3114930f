import Gear.Allocator.FreeingBump
import Gear.Lib.ExceptBind
import Mathlib

/-!
# What each piece of the allocator does

One lemma per function of `FreeingBump`, so that the invariant proofs cite
them and never unfold the functions: the size of an order and the order of a
request (`Order.fromSize_of_le`), a header read back from the bytes that hold
it (`Header.readFrom_of_stored`), a word written inside the memory
(`Memory.writeLeU64_of_le`), and what `bump` leaves (`bump_ok`, `bump_error`).

`payloadSize size` is the claim's `max(8, size).next_power_of_two()`, what a
request of `size` bytes gets.
-/

namespace Gear.Allocator

open ByteMemory PowerOfTwo

/-! ## Orders -/

theorem Order.size_eq (order : Order) : order.size = 8 * 2 ^ order.raw := by
  simp [Order.size, minPossibleAllocation, Nat.shiftLeft_eq]

theorem Order.eight_le_size (order : Order) : 8 ≤ order.size := by
  rw [Order.size_eq]
  have := @Nat.one_le_two_pow order.raw
  omega

theorem Order.size_mod_eight (order : Order) : order.size % 8 = 0 := by
  rw [Order.size_eq]
  exact Nat.mul_mod_right 8 _

/-- `max(8, size).next_power_of_two()`: the bytes a request of `size` gets. -/
def payloadSize (size : ℕ) : ℕ := nextPowerOfTwo (max minPossibleAllocation size)

/-- A request up to the maximum has an order, whose size is the payload the
request gets. -/
theorem Order.fromSize_of_le {size : ℕ} (h : size ≤ maxPossibleAllocation) :
    ∃ order, Order.fromSize size = .ok order ∧ order.size = payloadSize size := by
  have hnot : ¬ size > maxPossibleAllocation := by omega
  have hclamp : (if size < minPossibleAllocation then minPossibleAllocation else size) =
      max minPossibleAllocation size := by
    rw [max_def]
    split_ifs <;> simp only [minPossibleAllocation] at * <;> omega
  obtain ⟨k, hk, heq⟩ := nextPowerOfTwo_of_le_max (clamped_le_max hnot)
  rw [hclamp] at heq
  refine ⟨⟨orderOfClamped (max minPossibleAllocation size),
    hclamp ▸ orderOfClamped_lt (clamped_le_max hnot)⟩, ?_, ?_⟩
  · simp only [Order.fromSize, dif_neg hnot, Except.ok.injEq, Order.mk.injEq]
    exact congrArg orderOfClamped hclamp
  -- the clamped size is at least `8 = 2 ^ 3`, so `k ≥ 3`
  have h3 : 3 ≤ k := by
    have h8 : 2 ^ 3 ≤ 2 ^ k := by
      rw [← heq]
      exact Nat.le_trans (Nat.le_max_left _ _) (le_nextPowerOfTwo _)
    exact (Nat.pow_le_pow_iff_right (by omega)).mp h8
  obtain ⟨j, rfl⟩ : ∃ j, k = j + 3 := ⟨k - 3, by omega⟩
  rw [Order.size_eq]
  simp only [orderOfClamped, payloadSize]
  rw [heq, trailingZeros_two_pow (show j + 3 < 32 by omega), trailingZeros_minPossibleAllocation,
    Nat.add_sub_cancel, Nat.pow_add, Nat.mul_comm]

theorem eight_le_payloadSize (size : ℕ) : 8 ≤ payloadSize size :=
  Nat.le_trans (Nat.le_max_left 8 size) (le_nextPowerOfTwo _)

/-- The order `from_size` gives has the payload size of the request. -/
theorem Order.size_of_fromSize {size : ℕ} {order : Order} (h : Order.fromSize size = .ok order) :
    order.size = payloadSize size := by
  by_cases hs : size ≤ maxPossibleAllocation
  · obtain ⟨order', h', hsize⟩ := Order.fromSize_of_le hs
    rw [h, Except.ok.injEq] at h'
    exact h' ▸ hsize
  · simp [Order.fromSize, Nat.lt_of_not_le hs] at h

theorem Order.fromSize_of_gt {size : ℕ} (h : size > maxPossibleAllocation) :
    Order.fromSize size = .error .requestedAllocationTooLarge := by
  simp [Order.fromSize, h]

/-! ## Headers in the bytes -/

/-- A header `write_into` can write and `read_from` read back: a link is
`NIL_MARKER` or a pointer below it. -/
def Header.Encodable : Header → Prop
  | .free (.ptr p) => p < nilMarker
  | _ => True

/-- The eight bytes at `p` hold `header`. -/
def Stored (bytes : ℕ → UInt8) (p : ℕ) (header : Header) : Prop :=
  load bytes p 8 = leBytes header.encode 8

/-- Bit 32 of a 32-bit word is clear, and set once `2 ^ 32` is added. -/
theorem and_occupiedMask {d : ℕ} (hd : d < 2 ^ 32) :
    d &&& 0x100000000 = 0 ∧ (d + 2 ^ 32) &&& 0x100000000 = 2 ^ 32 := by
  have hmask : (0x100000000 : ℕ) = 2 ^ 32 := rfl
  rw [hmask, Nat.and_two_pow, Nat.and_two_pow, Nat.add_comm, Nat.testBit_two_pow_add_eq,
    Nat.testBit_eq_false_of_lt hd]
  simp

theorem Header.encode_occupied (order : Order) :
    (Header.occupied order).encode = order.raw + 2 ^ 32 := by
  have hraw : order.raw < 2 ^ 32 := Nat.lt_trans order.lt (by simp [nOrders])
  exact Nat.or_two_pow_eq_add_of_lt hraw

theorem Header.encode_free (link : Link) : (Header.free link).encode = link.intoRaw :=
  Nat.or_zero _

theorem Link.intoRaw_lt {link : Link} (h : (Header.free link).Encodable) :
    link.intoRaw < 2 ^ 32 := by
  cases link with
  | nil => simp [Link.intoRaw, nilMarker, u32Max]
  | ptr p =>
    simp only [Header.Encodable, nilMarker, u32Max] at h
    simp only [Link.intoRaw]
    omega

theorem Link.fromRaw_intoRaw {link : Link} (h : (Header.free link).Encodable) :
    Link.fromRaw link.intoRaw = link := by
  cases link with
  | nil => simp [Link.fromRaw, Link.intoRaw]
  | ptr p =>
    simp only [Header.Encodable] at h
    simp [Link.fromRaw, Link.intoRaw, Nat.ne_of_lt h]

theorem Header.encode_lt {header : Header} (h : header.Encodable) : header.encode < 256 ^ 8 := by
  cases header with
  | occupied order =>
    rw [Header.encode_occupied]
    have := order.lt
    simp only [nOrders] at this
    omega
  | free link =>
    rw [Header.encode_free]
    have := Link.intoRaw_lt h
    omega

theorem Memory.readLeU64_of_le {m : Memory} {p : ℕ} (hin : p + 8 ≤ m.size)
    (hu : p + 8 ≤ u32Max) : m.readLeU64 p = .ok (ofLEBytes (load m.bytes p 8)) := by
  simp only [Memory.readLeU64, heapRange, if_neg (Nat.not_lt.mpr hu), if_pos hin]

theorem Memory.writeLeU64_of_le {m : Memory} {p : ℕ} (v : ℕ) (hin : p + 8 ≤ m.size)
    (hu : p + 8 ≤ u32Max) :
    m.writeLeU64 p v = .ok { m with bytes := store m.bytes p (leBytes v 8) } := by
  simp only [Memory.writeLeU64, heapRange, if_neg (Nat.not_lt.mpr hu), if_pos hin]

/-- `read_from` gives back the header the bytes hold. -/
theorem Header.readFrom_of_stored {m : Memory} {p : ℕ} {header : Header}
    (hs : Stored m.bytes p header) (hin : p + 8 ≤ m.size) (hu : p + 8 ≤ u32Max)
    (he : header.Encodable) : Header.readFrom m p = .ok header := by
  have hread : m.readLeU64 p = .ok header.encode := by
    rw [Memory.readLeU64_of_le hin hu, hs, ofLEBytes_leBytes, Nat.mod_eq_of_lt (header.encode_lt he)]
  simp only [Header.readFrom, hread, Except.ok_bind]
  -- `simp` reads `2 ^ 32` as the numeral, so the bit facts are stated so
  cases header with
  | occupied order =>
    have hraw : order.raw < 2 ^ 32 := Nat.lt_trans order.lt (by simp [nOrders])
    have hbit : (order.raw + 4294967296) &&& 4294967296 = 4294967296 := (and_occupiedMask hraw).2
    have hlow : (order.raw + 4294967296) % 4294967296 = order.raw := by omega
    have hfrom : Order.fromRaw order.raw = .ok order := by
      simp [Order.fromRaw, order.lt]
    simp [Header.encode_occupied, hbit, hlow, hfrom]
  | free link =>
    have hraw := Link.intoRaw_lt he
    have hbit : link.intoRaw &&& 4294967296 = 0 := (and_occupiedMask hraw).1
    have hlow : link.intoRaw % 4294967296 = link.intoRaw := Nat.mod_eq_of_lt hraw
    simp [Header.encode_free, hbit, hlow, Link.fromRaw_intoRaw he]

/-- `write_into` inside the memory stores the header's word. -/
theorem Header.writeInto_of_le {m : Memory} {p : ℕ} (header : Header) (hin : p + 8 ≤ m.size)
    (hu : p + 8 ≤ u32Max) :
    header.writeInto m p = .ok { m with bytes := store m.bytes p (leBytes header.encode 8) } :=
  Memory.writeLeU64_of_le _ hin hu

theorem stored_store (bytes : ℕ → UInt8) (p : ℕ) (header : Header) :
    Stored (store bytes p (leBytes header.encode 8)) p header := by
  have := load_store_self bytes p (leBytes header.encode 8)
  rwa [leBytes_length] at this

/-- A header is stored in bytes that agree on its eight. -/
theorem Stored.congr {bytes bytes' : ℕ → UInt8} {q : ℕ} {header : Header}
    (hs : Stored bytes q header) (hb : ∀ i < 8, bytes' (q + i) = bytes (q + i)) :
    Stored bytes' q header :=
  (load_congr hb).trans hs

/-! ## Growing and bumping -/

theorem Memory.grow_ok {m m' : Memory} {additional : ℕ} (h : m.grow additional = .ok m') :
    m' = { m with pages := m.pages + additional } := by
  unfold Memory.grow at h
  split at h
  · cases h
  · cases h
    rfl

theorem pagesFromSize_fit {size pages : ℕ} (h : pagesFromSize size = some pages) :
    size ≤ pages * pageSize := by
  unfold pagesFromSize at h
  dsimp only at h
  split at h
  · cases h
    simp only [pageSize]
    omega
  · cases h

/-- After `growFor` the required bytes fit; the bytes are kept and the pages
only grow. -/
theorem growFor_ok {r : ℕ} {m m' : Memory} (h : growFor r m = .ok m') :
    r ≤ m'.size ∧ m'.bytes = m.bytes ∧ m.pages ≤ m'.pages := by
  unfold growFor at h
  split at h
  · split at h
    · cases h
    · rename_i requiredPages hpages
      have hreq := pagesFromSize_fit hpages
      dsimp only at h
      split at h
      · cases h
      split at h
      · cases h
      split at h
      · cases h
      · rename_i grown hgrow
        cases h
        rw [Memory.grow_ok hgrow]
        -- the memory grows to at least the required pages
        refine ⟨?_, rfl, by simp⟩
        simp only [Memory.size, pageSize] at hreq ⊢
        generalize m.maxPages.getD maxWasmPages = maxPages
        have hnext : requiredPages ≤
            m.pages + (max (min (m.pages * 2) maxPages) requiredPages - m.pages) := by omega
        exact Nat.le_trans hreq (Nat.mul_le_mul_right _ hnext)
  · cases h
    exact ⟨by omega, rfl, Nat.le_refl _⟩

theorem growFor_error {r : ℕ} {m : Memory} {e : Error} (h : growFor r m = .error e) :
    e = .allocatorOutOfSpace := by
  unfold growFor at h
  split at h
  · split at h
    · cases h; rfl
    · dsimp only at h
      split at h
      · cases h; rfl
      split at h
      · cases h; rfl
      split at h
      · cases h; rfl
      · cases h
  · cases h

/-- `bump` hands out the old bumper, moves it by `size`, and leaves a memory
that holds the new bumper and has the same bytes. -/
theorem bump_ok {bumper size headerPtr bumper' : ℕ} {m m' : Memory}
    (h : bump bumper size m = .ok (headerPtr, bumper', m')) :
    headerPtr = bumper ∧ bumper' = bumper + size ∧ bumper + size ≤ u32Max ∧
      bumper + size ≤ m'.size ∧ m'.bytes = m.bytes ∧ m.pages ≤ m'.pages := by
  unfold bump at h
  dsimp only at h
  split at h
  · cases h
  · rename_i hmax
    cases hg : growFor (bumper + size) m with
    | error e => simp [hg, Except.map] at h
    | ok grown =>
      simp only [hg, Except.map, Except.ok.injEq, Prod.mk.injEq] at h
      obtain ⟨rfl, rfl, rfl⟩ := h
      obtain ⟨hfit, hbytes, hpages⟩ := growFor_ok hg
      exact ⟨rfl, rfl, by omega, hfit, hbytes, hpages⟩

theorem bump_error {bumper size : ℕ} {m : Memory} {e : Error}
    (h : bump bumper size m = .error e) : e = .allocatorOutOfSpace := by
  unfold bump at h
  dsimp only at h
  split at h
  · cases h; rfl
  · cases hg : growFor (bumper + size) m with
    | error e' =>
      simp only [hg, Except.map, Except.error.injEq] at h
      exact h ▸ growFor_error hg
    | ok grown => simp [hg, Except.map] at h

/-! ## The two calls -/

section Calls

variable {a : FreeingBumpHeapAllocator} {m : Memory}

theorem takeHeader_ptr {order : Order} {p : ℕ} {link : Link}
    (hget : a.freeLists.get order = .ptr p) (hfit : p + order.size + headerSize ≤ m.size)
    (hread : Header.readFrom m p = .ok (.free link)) :
    a.takeHeader m order = .ok (p, { a with freeLists := a.freeLists.set order link }, m) := by
  simp only [FreeingBumpHeapAllocator.takeHeader, hget, if_neg (Nat.not_lt.mpr hfit), hread,
    Except.ok_bind, Header.intoFree]

theorem takeHeader_bump {order : Order} (hget : a.freeLists.get order = .nil)
    {headerPtr bumper : ℕ} {m' : Memory}
    (hbump : bump a.bumper (order.size + headerSize) m = .ok (headerPtr, bumper, m')) :
    a.takeHeader m order = .ok (headerPtr, { a with bumper }, m') := by
  simp only [FreeingBumpHeapAllocator.takeHeader, hget, hbump, Except.ok_bind]

theorem takeHeader_bump_error {order : Order} (hget : a.freeLists.get order = .nil) {e : Error}
    (hbump : bump a.bumper (order.size + headerSize) m = .error e) :
    a.takeHeader m order = .error e := by
  simp only [FreeingBumpHeapAllocator.takeHeader, hget, hbump, Except.error_bind]

theorem allocate_poisoned (hp : a.poisoned = true) (size : ℕ) :
    a.allocate m size = (.error poisonedError, a, m) := by
  simp [FreeingBumpHeapAllocator.allocate, hp]

theorem allocate_too_large (hp : a.poisoned = false) (hobs : a.lastObservedMemorySize ≤ m.size)
    {size : ℕ} (hs : size > maxPossibleAllocation) :
    a.allocate m size = (.error .requestedAllocationTooLarge,
      { a with lastObservedMemorySize := m.size, poisoned := true }, m) := by
  simp only [FreeingBumpHeapAllocator.allocate, hp, observeMemorySize, if_neg (Nat.not_lt.mpr hobs),
    Order.fromSize_of_gt hs, FreeingBumpHeapAllocator.explode]
  rfl

theorem allocate_take_error (hp : a.poisoned = false) (hobs : a.lastObservedMemorySize ≤ m.size)
    {size : ℕ} {order : Order} (ho : Order.fromSize size = .ok order) {e : Error}
    (ht : { a with lastObservedMemorySize := m.size }.takeHeader m order = .error e) :
    a.allocate m size = (.error e,
      { a with lastObservedMemorySize := m.size, poisoned := true }, m) := by
  -- the record `takeHeader` gets holds `a.poisoned`, which the unfolding reads as `false`
  rw [hp] at ht
  simp only [FreeingBumpHeapAllocator.allocate, hp, observeMemorySize, if_neg (Nat.not_lt.mpr hobs),
    ho, ht, FreeingBumpHeapAllocator.explode]
  rfl

/-- A taken header inside the memory is marked occupied, and the pointer past
it returned; `bytes_allocated` grows by the chunk, modulo `2 ^ 32`. -/
theorem allocate_take_ok (hp : a.poisoned = false) (hobs : a.lastObservedMemorySize ≤ m.size)
    {size : ℕ} {order : Order} (ho : Order.fromSize size = .ok order) {p : ℕ}
    {a' : FreeingBumpHeapAllocator} {m' : Memory}
    (ht : { a with lastObservedMemorySize := m.size }.takeHeader m order = .ok (p, a', m'))
    (hin : p + 8 ≤ m'.size) (hu : p + 8 ≤ u32Max) :
    ∃ stats : AllocationStats,
      stats.bytesAllocated = (a'.stats.bytesAllocated + (order.size + headerSize)) % 2 ^ 32 ∧
      a.allocate m size = (.ok (p + headerSize), { a' with stats },
        { m' with bytes := store m'.bytes p (leBytes (Header.occupied order).encode 8) }) := by
  rw [hp] at ht
  simp only [FreeingBumpHeapAllocator.allocate, hp, observeMemorySize, if_neg (Nat.not_lt.mpr hobs),
    ho, ht, Header.writeInto_of_le _ hin hu]
  exact ⟨_, rfl, rfl⟩

theorem deallocate_poisoned (hp : a.poisoned = true) (ptr : ℕ) :
    a.deallocate m ptr = (.error poisonedError, a, m) := by
  simp [FreeingBumpHeapAllocator.deallocate, hp]

/-- Freeing an occupied header: it becomes the head of its order's list,
linking to the old head, and `bytes_allocated` drops by the chunk. -/
theorem deallocate_ok (hp : a.poisoned = false) (hobs : a.lastObservedMemorySize ≤ m.size)
    {ptr : ℕ} (h8 : headerSize ≤ ptr) {order : Order}
    (hread : Header.readFrom m (ptr - headerSize) = .ok (.occupied order))
    (hin : ptr - headerSize + 8 ≤ m.size) (hu : ptr - headerSize + 8 ≤ u32Max)
    (hsub : order.size + headerSize ≤ a.stats.bytesAllocated) :
    a.deallocate m ptr = (.ok (),
      { a with
        lastObservedMemorySize := m.size
        freeLists := a.freeLists.set order (.ptr (ptr - headerSize))
        stats := { a.stats with
          bytesAllocated := a.stats.bytesAllocated - (order.size + headerSize) } },
      { m with
        bytes := (store m.bytes (ptr - headerSize)
          (leBytes (Header.free (a.freeLists.get order)).encode 8)) }) := by
  simp only [FreeingBumpHeapAllocator.deallocate, hp, observeMemorySize,
    if_neg (Nat.not_lt.mpr hobs), if_neg (Nat.not_lt.mpr h8), hread, Header.intoOccupied,
    FreeLists.replace, Header.writeInto_of_le _ hin hu, if_neg (Nat.not_lt.mpr hsub)]
  rfl

end Calls

end Gear.Allocator
