import Gear.Lib.ByteMemory
import Gear.Lib.PowerOfTwo
import Mathlib

/-!
# The freeing-bump heap allocator

`sp_allocator::freeing_bump`. The heap is the linear memory from the aligned
heap base on; chunks of a power-of-two size (an *order*, `8 << order` bytes)
are taken from the bump pointer, each behind an 8-byte header. A freed chunk
goes on the free list of its order, an intrusive linked list threaded through
the free headers in the memory itself; an allocation takes the head of its
order's list before it bumps.

The memory is the part of the `Memory` trait the allocator uses: its bytes,
its pages and its maximum, and whether the host grants a `grow`. Headers are
read and written as little-endian `u64` words (`ByteMemory`). Every `u32` sum
of the source is a sum of naturals here where the source checks it first;
`bytes_allocated` and `bytes_allocated_sum` are kept modulo `2 ^ 32` and
`2 ^ 128` as their additions are unchecked.

Each call returns its result, the allocator and the memory after it. The
source arms a `PoisonBomb` right after the poisoned check: every error from
there on, whatever it is, leaves the allocator poisoned, and a poisoned
allocator refuses every later call.
-/

namespace Gear.Allocator

open ByteMemory PowerOfTwo

/-- `ALIGNMENT`. -/
def alignment : ℕ := 8
/-- `HEADER_SIZE`. -/
def headerSize : ℕ := 8
/-- `N_ORDERS`. -/
def nOrders : ℕ := 23
/-- `MIN_POSSIBLE_ALLOCATION`. -/
def minPossibleAllocation : ℕ := 8
/-- `MAX_POSSIBLE_ALLOCATION`, 32 MiB. -/
def maxPossibleAllocation : ℕ := 33554432
/-- `u32::MAX`, also `NIL_MARKER`. -/
def u32Max : ℕ := 4294967295
/-- `NIL_MARKER`. -/
def nilMarker : ℕ := u32Max
/-- `PAGE_SIZE`. -/
def pageSize : ℕ := 65536
/-- `MAX_WASM_PAGES`. -/
def maxWasmPages : ℕ := 65536

/-- `sp_allocator::Error`. -/
inductive Error
  | requestedAllocationTooLarge
  | allocatorOutOfSpace
  | memoryShrunk
  | other (msg : String)
deriving DecidableEq, Repr

/-- `error`. -/
def error (msg : String) : Error := .other msg

/-! ## Orders -/

/-- `Order`: the size class `8 << raw`, below `N_ORDERS`. -/
structure Order where
  raw : ℕ
  lt : raw < nOrders
deriving DecidableEq, Repr

/-- `Order::from_raw`. -/
def Order.fromRaw (order : ℕ) : Except Error Order :=
  if h : order < nOrders then .ok ⟨order, h⟩ else .error (error "invalid order")

/-- The order `from_size` computes for a size already clamped to
`[MIN_POSSIBLE_ALLOCATION, MAX_POSSIBLE_ALLOCATION]`. -/
def orderOfClamped (clampedSize : ℕ) : ℕ :=
  trailingZeros (nextPowerOfTwo clampedSize) - trailingZeros minPossibleAllocation

theorem trailingZeros_minPossibleAllocation : trailingZeros minPossibleAllocation = 3 :=
  trailingZeros_two_pow (k := 3) (by omega)

/-- The next power of two of a size up to the maximum is `2 ^ k` for some
`k ≤ 25`. -/
theorem nextPowerOfTwo_of_le_max {c : ℕ} (h : c ≤ maxPossibleAllocation) :
    ∃ k ≤ 25, nextPowerOfTwo c = 2 ^ k := by
  obtain ⟨k, hk⟩ := nextPowerOfTwo_eq_two_pow c
  have hle : 2 ^ k ≤ 2 ^ 25 := hk ▸ nextPowerOfTwo_le (k := 25) h
  exact ⟨k, (Nat.pow_le_pow_iff_right (by omega)).mp hle, hk⟩

theorem orderOfClamped_lt {c : ℕ} (h : c ≤ maxPossibleAllocation) :
    orderOfClamped c < nOrders := by
  obtain ⟨k, hk, heq⟩ := nextPowerOfTwo_of_le_max h
  simp only [orderOfClamped, heq, trailingZeros_two_pow (show k < 32 by omega),
    trailingZeros_minPossibleAllocation, nOrders]
  omega

theorem clamped_le_max {size : ℕ} (h : ¬ size > maxPossibleAllocation) :
    (if size < minPossibleAllocation then minPossibleAllocation else size) ≤
      maxPossibleAllocation := by
  split <;> simp only [minPossibleAllocation, maxPossibleAllocation] at * <;> omega

/-- `Order::from_size`: clamp to `[8, 32 MiB]`, round to the next power of
two, count its trailing zeros past those of `8`. -/
def Order.fromSize (size : ℕ) : Except Error Order :=
  if h : size > maxPossibleAllocation then .error .requestedAllocationTooLarge
  else
    let clampedSize := if size < minPossibleAllocation then minPossibleAllocation else size
    .ok ⟨orderOfClamped clampedSize, orderOfClamped_lt (clamped_le_max h)⟩

/-- `Order::size`. -/
def Order.size (order : Order) : ℕ := minPossibleAllocation <<< order.raw

/-! ## Links and headers -/

/-- `Link`: the end of a free list, or the header pointer of the next free
chunk. -/
inductive Link
  | nil
  | ptr (p : ℕ)
deriving DecidableEq, Repr

/-- `Link::from_raw`. -/
def Link.fromRaw (raw : ℕ) : Link := if raw ≠ nilMarker then .ptr raw else .nil

/-- `Link::into_raw`. -/
def Link.intoRaw : Link → ℕ
  | .nil => nilMarker
  | .ptr p => p

/-- `Header`: a free header links to the next free chunk of its order, an
occupied one holds the order of its allocation. -/
inductive Header
  | free (link : Link)
  | occupied (order : Order)
deriving DecidableEq, Repr

/-- `Header::into_occupied`. -/
def Header.intoOccupied : Header → Option Order
  | .occupied order => some order
  | _ => none

/-- `Header::into_free`. -/
def Header.intoFree : Header → Option Link
  | .free link => some link
  | _ => none

/-! ## Memory -/

/-- The linear memory through the `Memory` trait: its bytes, its pages, its
`max_pages`, and whether the host refuses the next `grow`. -/
structure Memory where
  bytes : ℕ → UInt8
  pages : ℕ
  maxPages : Option ℕ
  growRefused : Bool

/-- `MemoryExt::size`: the memory's length in bytes. -/
def Memory.size (m : Memory) : ℕ := m.pages * pageSize

/-- `Memory::grow`: by `additional` pages, unless the host refuses or the
maximum would be passed. -/
def Memory.grow (m : Memory) (additional : ℕ) : Except Unit Memory :=
  if m.growRefused ∨ m.pages + additional > m.maxPages.getD maxWasmPages then .error ()
  else .ok { m with pages := m.pages + additional }

/-- `heap_range`: the bytes `[offset, offset + length)`, if the end is a
`u32` and inside the memory. -/
def heapRange (offset length heapLen : ℕ) : Option (ℕ × ℕ) :=
  if offset + length > u32Max then none
  else if offset + length ≤ heapLen then some (offset, offset + length) else none

/-- `MemoryExt::read_le_u64`. -/
def Memory.readLeU64 (m : Memory) (ptr : ℕ) : Except Error ℕ :=
  match heapRange ptr 8 m.size with
  | none => .error (error "read out of heap bounds")
  | some (start, _) => .ok (ofLEBytes (load m.bytes start 8))

/-- `MemoryExt::write_le_u64`. -/
def Memory.writeLeU64 (m : Memory) (ptr val : ℕ) : Except Error Memory :=
  match heapRange ptr 8 m.size with
  | none => .error (error "write out of heap bounds")
  | some (start, _) => .ok { m with bytes := store m.bytes start (leBytes val 8) }

/-- `Header::read_from`: bit 32 tells an occupied header from a free one, the
low 32 bits are the order or the link. -/
def Header.readFrom (memory : Memory) (headerPtr : ℕ) : Except Error Header := do
  let rawHeader ← memory.readLeU64 headerPtr
  let occupied := rawHeader &&& 0x100000000 != 0
  let headerData := rawHeader % 2 ^ 32
  if occupied then
    let order ← Order.fromRaw headerData
    return .occupied order
  else return .free (Link.fromRaw headerData)

/-- The raw `u64` that `Header::write_into` stores. -/
def Header.encode : Header → ℕ
  | .occupied order => order.raw ||| 0x100000000
  | .free link => link.intoRaw ||| 0

/-- `Header::write_into`. -/
def Header.writeInto (header : Header) (memory : Memory) (headerPtr : ℕ) :
    Except Error Memory :=
  memory.writeLeU64 headerPtr header.encode

/-! ## The allocator -/

/-- `FreeLists`: the head of each order's free list. -/
structure FreeLists where
  heads : Order → Link

/-- `FreeLists::new`. -/
def FreeLists.new : FreeLists := ⟨fun _ => .nil⟩

/-- `free_lists[order]`. -/
def FreeLists.get (freeLists : FreeLists) (order : Order) : Link := freeLists.heads order

/-- `free_lists[order] = new`. -/
def FreeLists.set (freeLists : FreeLists) (order : Order) (new : Link) : FreeLists :=
  ⟨Function.update freeLists.heads order new⟩

@[simp] theorem FreeLists.get_set_self (freeLists : FreeLists) (order : Order) (new : Link) :
    (freeLists.set order new).get order = new := by
  simp [FreeLists.get, FreeLists.set]

theorem FreeLists.get_set_ne (freeLists : FreeLists) {order order' : Order} (new : Link)
    (h : order' ≠ order) : (freeLists.set order new).get order' = freeLists.get order' := by
  simp [FreeLists.get, FreeLists.set, h]

@[simp] theorem FreeLists.get_new (order : Order) : FreeLists.new.get order = .nil := rfl

/-- `FreeLists::replace`: set the head, return the old one. -/
def FreeLists.replace (freeLists : FreeLists) (order : Order) (new : Link) : Link × FreeLists :=
  (freeLists.get order, freeLists.set order new)

/-- `AllocationStats`. -/
structure AllocationStats where
  bytesAllocated : ℕ
  bytesAllocatedPeak : ℕ
  bytesAllocatedSum : ℕ
  addressSpaceUsed : ℕ

/-- `AllocationStats::default`. -/
def AllocationStats.default : AllocationStats := ⟨0, 0, 0, 0⟩

/-- `pages_from_size`: the pages that hold `size` bytes, if a `u32`. -/
def pagesFromSize (size : ℕ) : Option ℕ :=
  let pages := (size + pageSize - 1) / pageSize
  if pages ≤ u32Max then some pages else none

/-- `FreeingBumpHeapAllocator`. -/
structure FreeingBumpHeapAllocator where
  originalHeapBase : ℕ
  bumper : ℕ
  freeLists : FreeLists
  poisoned : Bool
  lastObservedMemorySize : ℕ
  stats : AllocationStats

/-- `FreeingBumpHeapAllocator::new`: the heap base rounded up to the
alignment (the `u32` product wraps past `u32::MAX - 7`). -/
def FreeingBumpHeapAllocator.new (heapBase : ℕ) : FreeingBumpHeapAllocator :=
  let alignedHeapBase := (heapBase + alignment - 1) / alignment * alignment % 2 ^ 32
  { originalHeapBase := alignedHeapBase
    bumper := alignedHeapBase
    freeLists := FreeLists.new
    poisoned := false
    lastObservedMemorySize := 0
    stats := AllocationStats.default }

/-- `observe_memory_size`: the memory may not have shrunk since the last
call; returns the size to remember. -/
def observeMemorySize (lastObservedMemorySize : ℕ) (mem : Memory) : Except Error ℕ :=
  if mem.size < lastObservedMemorySize then .error .memoryShrunk else .ok mem.size

/-- The memory `bump` leaves: grown, if `requiredSize` bytes do not fit,
to twice its pages (at most the maximum) or to what is required. -/
def growFor (requiredSize : ℕ) (memory : Memory) : Except Error Memory :=
  if requiredSize > memory.size then
    match pagesFromSize requiredSize with
    | none => .error .allocatorOutOfSpace
    | some requiredPages =>
      let currentPages := memory.pages
      let maxPages := memory.maxPages.getD maxWasmPages
      if currentPages ≥ maxPages then .error .allocatorOutOfSpace
      else if requiredPages > maxPages then .error .allocatorOutOfSpace
      else
        let nextPages := max (min (currentPages * 2) maxPages) requiredPages
        match memory.grow (nextPages - currentPages) with
        | .error _ => .error .allocatorOutOfSpace
        | .ok memory => .ok memory
  else .ok memory

/-- `bump`: the bumper before, the bumper after and the memory. -/
def bump (bumper size : ℕ) (memory : Memory) : Except Error (ℕ × ℕ × Memory) :=
  let requiredSize := bumper + size
  if requiredSize > u32Max then .error .allocatorOutOfSpace
  else (growFor requiredSize memory).map fun memory => (bumper, bumper + size, memory)

/-- The header pointer `allocate` takes for `order`: the head of the order's
free list, which it unlinks, or a new chunk from the bumper. -/
def FreeingBumpHeapAllocator.takeHeader (a : FreeingBumpHeapAllocator) (mem : Memory)
    (order : Order) : Except Error (ℕ × FreeingBumpHeapAllocator × Memory) :=
  match a.freeLists.get order with
  | .ptr headerPtr =>
    if headerPtr + order.size + headerSize > mem.size then
      .error (error "Invalid header pointer detected")
    else do
      let header ← Header.readFrom mem headerPtr
      match header.intoFree with
      | none => .error (error "free list points to a occupied header")
      | some nextFree => .ok (headerPtr, { a with freeLists := a.freeLists.set order nextFree }, mem)
  | .nil => do
    let (headerPtr, bumper, mem) ← bump a.bumper (order.size + headerSize) mem
    .ok (headerPtr, { a with bumper }, mem)

/-- The error a poisoned allocator gives. -/
def poisonedError : Error := error "the allocator has been poisoned"

/-- What an error leaves once the `PoisonBomb` is armed. -/
def FreeingBumpHeapAllocator.explode {α : Type} (a : FreeingBumpHeapAllocator) (mem : Memory)
    (e : Error) : Except Error α × FreeingBumpHeapAllocator × Memory :=
  (.error e, { a with poisoned := true }, mem)

/-- `FreeingBumpHeapAllocator::allocate`: the pointer just past the header. -/
def FreeingBumpHeapAllocator.allocate (a : FreeingBumpHeapAllocator) (mem : Memory) (size : ℕ) :
    Except Error ℕ × FreeingBumpHeapAllocator × Memory :=
  if a.poisoned then (.error poisonedError, a, mem)
  else
    match observeMemorySize a.lastObservedMemorySize mem with
    | .error e => a.explode mem e
    | .ok observed =>
      let a := { a with lastObservedMemorySize := observed }
      match Order.fromSize size with
      | .error e => a.explode mem e
      | .ok order =>
        match a.takeHeader mem order with
        | .error e => a.explode mem e
        | .ok (headerPtr, a, mem) =>
          match (Header.occupied order).writeInto mem headerPtr with
          | .error e => a.explode mem e
          | .ok mem =>
            let bytesAllocated := (a.stats.bytesAllocated + (order.size + headerSize)) % 2 ^ 32
            let stats : AllocationStats :=
              { bytesAllocated
                bytesAllocatedPeak := max a.stats.bytesAllocatedPeak bytesAllocated
                bytesAllocatedSum :=
                  (a.stats.bytesAllocatedSum + (order.size + headerSize)) % 2 ^ 128
                addressSpaceUsed := a.bumper - a.originalHeapBase }
            (.ok (headerPtr + headerSize), { a with stats }, mem)

/-- `FreeingBumpHeapAllocator::deallocate`: the header becomes a free one and
the head of its order's list. -/
def FreeingBumpHeapAllocator.deallocate (a : FreeingBumpHeapAllocator) (mem : Memory) (ptr : ℕ) :
    Except Error Unit × FreeingBumpHeapAllocator × Memory :=
  if a.poisoned then (.error poisonedError, a, mem)
  else
    match observeMemorySize a.lastObservedMemorySize mem with
    | .error e => a.explode mem e
    | .ok observed =>
      let a := { a with lastObservedMemorySize := observed }
      -- `checked_sub`
      if ptr < headerSize then a.explode mem (error "Invalid pointer for deallocation")
      else
        let headerPtr := ptr - headerSize
        match Header.readFrom mem headerPtr with
        | .error e => a.explode mem e
        | .ok header =>
          match header.intoOccupied with
          | none => a.explode mem (error "the allocation points to an empty header")
          | some order =>
            let (prevHead, freeLists) := a.freeLists.replace order (.ptr headerPtr)
            let a := { a with freeLists }
            match (Header.free prevHead).writeInto mem headerPtr with
            | .error e => a.explode mem e
            | .ok mem =>
              if a.stats.bytesAllocated < order.size + headerSize then
                a.explode mem (error "underflow of the currently allocated bytes count")
              else
                (.ok (), { a with stats := { a.stats with
                  bytesAllocated := a.stats.bytesAllocated - (order.size + headerSize) } }, mem)

end Gear.Allocator
