import Gear.Memory.IntervalsTree
import Mathlib

/-!
# The allocations context of a running program

`AllocationsContext` (`core/src/memory.rs`) hands out wasm pages of the heap
`[static_pages, max_pages)` first fit, and frees them again. Pages are
naturals. The `IntervalsTree` of the `numerated` crate, which is not part of
the repository, is the set of pages it holds: `insert` adds an interval and
`remove` takes pages out and tells whether any was there, while `start`, `end`
and `voids` are the parameters `IntervalsTreeOps` (`Gear.Memory.IntervalsTree`).
An `Interval` is the pair of its first and last page.

The program's memory is modelled by its size in pages; `grow` adds the pages
asked for. The grow handler's actions do not touch the size or the context
and are left out. A method takes the context by `&mut self` and returns a
`Result`: here it returns the result together with the new context, so that
what a failing call leaves behind is part of the model.
-/

namespace Gear.Memory

/-- `WasmPage::UPPER`: the last wasm page of a 32-bit address space. -/
def wasmPageUpper : ℕ := 65535

/-- `WasmPagesAmount::UPPER`: the number of wasm pages of that space. -/
def wasmPagesAmountUpper : ℕ := wasmPageUpper + 1

/-- `ChargeError`. -/
inductive ChargeError
  | gasLimitExceeded
  | gasAllowanceExceeded
deriving DecidableEq, Repr

/-- `AllocError`. -/
inductive AllocError
  | programAllocOutOfBounds
  | invalidFree (page : ℕ)
  | invalidFreeRange (start last : ℕ)
  | gasCharge (e : ChargeError)
deriving DecidableEq, Repr

/-- `MemorySetupError`, with the values each variant reports. -/
inductive MemorySetupError
  | memorySizeExceedsMaxPages (memorySize maxPages : ℕ)
  | insufficientMemorySize (memorySize staticPages : ℕ)
  | stackEndOutOfStaticMemory (stackEnd staticPages : ℕ)
  | allocatedPageOutOfAllowedInterval (page staticPages memorySize : ℕ)
deriving DecidableEq, Repr

/-! ## Intervals -/

/-- `Interval::with_len`: the interval of `len` pages from `start`, if its
last page is a page. -/
def withLen (start len : ℕ) : Option (ℕ × ℕ) :=
  if len = 0 ∨ wasmPageUpper < start + len - 1 then none else some (start, start + len - 1)

/-! ## The context -/

/-- `AllocationsContext`. -/
structure AllocationsContext where
  allocations : Finset ℕ
  allocationsChanged : Bool
  heap : Option (ℕ × ℕ)
  staticPages : ℕ

open IntervalsTreeOps

variable [IntervalsTreeOps]

/-- `AllocationsContext::validate_memory_params`. -/
def validateMemoryParams (memorySize : ℕ) (allocations : Finset ℕ) (staticPages : ℕ)
    (stackEnd : Option ℕ) (maxPages : ℕ) : Except MemorySetupError Unit :=
  if memorySize > maxPages then .error (.memorySizeExceedsMaxPages memorySize maxPages)
  else if staticPages > memorySize then .error (.insufficientMemorySize memorySize staticPages)
  else match stackEnd with
    | some stackEnd =>
      if stackEnd > staticPages then .error (.stackEndOutOfStaticMemory stackEnd staticPages)
      else validateAllocations memorySize allocations staticPages
    | none => validateAllocations memorySize allocations staticPages
where
  /-- The two checks on the stored allocations. -/
  validateAllocations (memorySize : ℕ) (allocations : Finset ℕ) (staticPages : ℕ) :
      Except MemorySetupError Unit :=
    match treeEnd allocations with
    | some page =>
      if page ≥ memorySize then
        .error (.allocatedPageOutOfAllowedInterval page staticPages memorySize)
      else validateStart memorySize allocations staticPages
    | none => validateStart memorySize allocations staticPages
  /-- The check on the least stored page. -/
  validateStart (memorySize : ℕ) (allocations : Finset ℕ) (staticPages : ℕ) :
      Except MemorySetupError Unit :=
    match treeStart allocations with
    | some page =>
      if page < staticPages then
        .error (.allocatedPageOutOfAllowedInterval page staticPages memorySize)
      else .ok ()
    | none => .ok ()

/-- `AllocationsContext::try_new`. The heap is `static_pages..max_pages`, or
none if that is empty; `static_pages > max_pages`, the `unreachable!` arm,
is excluded by the validation. -/
def tryNew (memorySize : ℕ) (allocations : Finset ℕ) (staticPages : ℕ) (stackEnd : Option ℕ)
    (maxPages : ℕ) : Except MemorySetupError AllocationsContext :=
  match validateMemoryParams memorySize allocations staticPages stackEnd maxPages with
  | .error e => .error e
  | .ok () =>
    .ok { allocations, allocationsChanged := false, staticPages,
          heap := if staticPages < maxPages then some (staticPages, maxPages - 1) else none }

/-- The closure of `find_map` in `alloc`: the interval of `pages` pages from
the void's start, if it ends inside the void. -/
def fitVoid (pages : ℕ) (void : ℕ × ℕ) : Option (ℕ × ℕ) :=
  (withLen void.1 pages).bind fun interval => if interval.2 ≤ void.2 then some interval else none

/-- Growing the memory so that it holds the page `last`: charge for the
missing pages, then grow by them; nothing to do if the memory already holds
it. -/
def growTo (memSize last : ℕ) (chargeGasForGrow : ℕ → Except ChargeError Unit) :
    Except AllocError ℕ :=
  if memSize < last + 1 then
    match chargeGasForGrow (last + 1 - memSize) with
    | .ok () => .ok (memSize + (last + 1 - memSize))
    | .error e => .error (.gasCharge e)
  else .ok memSize

/-- `AllocationsContext::alloc`, with the memory's size before and after. -/
def alloc (ctx : AllocationsContext) (memSize pages : ℕ)
    (chargeGasForGrow : ℕ → Except ChargeError Unit) :
    Except AllocError ℕ × AllocationsContext × ℕ :=
  match ctx.heap with
  -- an empty heap refuses even zero pages
  | none => (.error .programAllocOutOfBounds, ctx, memSize)
  | some heap =>
    if pages = 0 then (.ok heap.1, ctx, memSize)
    else match (voids ctx.allocations heap).findSome? (fitVoid pages) with
      | none => (.error .programAllocOutOfBounds, ctx, memSize)
      | some interval =>
        match growTo memSize interval.2 chargeGasForGrow with
        | .error e => (.error e, ctx, memSize)
        | .ok memSize' =>
          (.ok interval.1,
            { ctx with allocations := ctx.allocations ∪ Finset.Icc interval.1 interval.2,
                       allocationsChanged := true },
            memSize')

/-- `AllocationsContext::free`. -/
def free (ctx : AllocationsContext) (page : ℕ) : Except AllocError Unit × AllocationsContext :=
  match ctx.heap with
  | some heap =>
    if heap.1 ≤ page ∧ page ≤ heap.2 ∧ page ∈ ctx.allocations then
      (.ok (), { ctx with allocations := ctx.allocations.erase page, allocationsChanged := true })
    else (.error (.invalidFree page), ctx)
  | none => (.error (.invalidFree page), ctx)

/-- `AllocationsContext::free_range`: any pages of the interval that are
allocated are freed; nothing allocated there is no error. -/
def freeRange (ctx : AllocationsContext) (interval : ℕ × ℕ) :
    Except AllocError Unit × AllocationsContext :=
  match ctx.heap with
  | some heap =>
    if heap.1 ≤ interval.1 ∧ interval.2 ≤ heap.2 then
      if (ctx.allocations ∩ Finset.Icc interval.1 interval.2).Nonempty then
        (.ok (), { ctx with allocations := ctx.allocations \ Finset.Icc interval.1 interval.2,
                            allocationsChanged := true })
      else (.ok (), ctx)
    else (.error (.invalidFreeRange interval.1 interval.2), ctx)
  | none => (.error (.invalidFreeRange interval.1 interval.2), ctx)

/-! ## Runs -/

/-- A call on the context, with the outcome of its gas charge for an `alloc`. -/
inductive AllocCall
  | alloc (pages : ℕ) (chargeGasForGrow : ℕ → Except ChargeError Unit)
  | free (page : ℕ)
  | freeRange (interval : ℕ × ℕ)

/-- One call on the context and the memory's size: its result, its page
dropped, and the context and size after it. -/
def AllocCall.apply (st : AllocationsContext × ℕ) :
    AllocCall → Except AllocError Unit × AllocationsContext × ℕ
  | .alloc pages charge =>
    let r := Gear.Memory.alloc st.1 st.2 pages charge
    (r.1.map fun _ => (), r.2)
  | .free page =>
    let r := Gear.Memory.free st.1 page
    (r.1, r.2, st.2)
  | .freeRange interval =>
    let r := Gear.Memory.freeRange st.1 interval
    (r.1, r.2, st.2)

/-- The context and the memory's size after a sequence of calls. -/
def allocRun (st : AllocationsContext × ℕ) : List AllocCall → AllocationsContext × ℕ
  | [] => st
  | call :: calls => allocRun (call.apply st).2 calls

end Gear.Memory
