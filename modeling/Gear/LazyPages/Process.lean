import Mathlib

/-!
# Lazy pages: processing the memory accesses of a host function

`pre_process_memory_accesses` of `lazy-pages/src/host_func.rs` takes the pages a
host function is about to read and to write, and `process_lazy_pages` of
`process.rs` walks each set of pages in ascending order. A page of the stack,
or one already write accessed, costs nothing. A page already accessed costs
the write-after-read price when it is written now. A fresh page costs the read
or the write price, and loading its data from storage when it has some. Each
charge takes the price off the caller's gas counter (`sub_gas`); a charge it
cannot pay sets the counter to zero and returns `GasLimitExceeded`.
`update_status` writes the returned status into the execution context, and
after an exceeded charge the page is left alone and the walk goes on with the
next page.

Pages are gear page numbers. Memory protection (`mprotect`) is left out: it
changes what the hardware lets the program touch, not what is charged, and
the model takes it to succeed. `load_page_data_from_storage` is taken to find
the data `page_has_data_in_storage` reports. The signal handler of
`signal.rs`, which sees one page a time, is not modelled.
-/

namespace Gear.LazyPages

/-- `GearPage`: a page number. -/
abbrev GearPage := ℕ

/-- `Status`. -/
inductive Status
  | normal
  | gasLimitExceeded
deriving DecidableEq, Repr

/-- The variants of `Error` that the host function path can return. -/
inductive Error
  | outOfWasmMemoryAccess
  | wasmMemAddrIsNotSet
  | doubleWriteAccess (page : GearPage)
  | doubleReadCharge (page : GearPage)
deriving DecidableEq, Repr

/-- `ProcessAccessError`. -/
inductive ProcessAccessError
  | outOfBounds
  | gasLimitExceeded
deriving DecidableEq, Repr

/-- `GasCharger`. -/
structure GasCharger where
  readCost : ℕ
  writeCost : ℕ
  writeAfterReadCost : ℕ
  loadDataCost : ℕ
deriving DecidableEq, Repr

namespace GasCharger

/-- `sub_gas`: `checked_sub`, the counter left at zero when it fails. -/
def subGas (gasCounter amount : ℕ) : ℕ × Status :=
  if amount ≤ gasCounter then (gasCounter - amount, .normal) else (0, .gasLimitExceeded)

/-- `charge_for_page_access`. -/
def chargeForPageAccess (c : GasCharger) (gasCounter : ℕ) (page : GearPage)
    (isWrite isAccessed : Bool) : Except Error (ℕ × Status) :=
  match isWrite, isAccessed with
  | true, true => .ok (subGas gasCounter c.writeAfterReadCost)
  | true, false => .ok (subGas gasCounter c.writeCost)
  | false, false => .ok (subGas gasCounter c.readCost)
  | false, true => .error (.doubleReadCharge page)

/-- `charge_for_page_data_load`. -/
def chargeForPageDataLoad (c : GasCharger) (gasCounter : ℕ) : ℕ × Status :=
  subGas gasCounter c.loadDataCost

end GasCharger

/-- The part of `LazyPagesExecutionContext` the processing reads and writes;
the stack end and the memory size are counted in gear pages, and
`hasData` is what `page_has_data_in_storage` reports. -/
structure ExecCtx where
  status : Status
  accessedPages : Finset GearPage
  writeAccessedPages : Finset GearPage
  stackEnd : ℕ
  wasmMemSize : ℕ
  wasmMemAddr : Option ℕ
  hasData : GearPage → Bool

namespace ExecCtx

/-- `set_accessed`. -/
def setAccessed (ctx : ExecCtx) (page : GearPage) : ExecCtx :=
  { ctx with accessedPages := insert page ctx.accessedPages }

/-- `set_write_accessed`: a page written twice is an error. -/
def setWriteAccessed (ctx : ExecCtx) (page : GearPage) : Except Error ExecCtx :=
  if page ∈ ctx.writeAccessedPages then .error (.doubleWriteAccess page)
  else .ok { ctx.setAccessed page with writeAccessedPages := insert page ctx.writeAccessedPages }

/-- The end of a fresh page's access: accessed, and write accessed when it is
written. -/
def finishAccess (ctx : ExecCtx) (isWrite : Bool) (page : GearPage) : Except Error ExecCtx :=
  if isWrite then (ctx.setAccessed page).setWriteAccessed page else .ok (ctx.setAccessed page)

end ExecCtx

/-- `process_one` of `process_lazy_pages` for the host function handler, on
the context and the caller's gas counter. -/
def processOne (c : GasCharger) (isWrite : Bool) (st : ExecCtx × ℕ) (page : GearPage) :
    Except Error (ExecCtx × ℕ) :=
  let ctx := st.1
  let gasCounter := st.2
  if page < ctx.stackEnd then .ok (ctx, gasCounter)
  else if page ∈ ctx.writeAccessedPages then .ok (ctx, gasCounter)
  else if page ∈ ctx.accessedPages then
    if isWrite then
      match c.chargeForPageAccess gasCounter page true true with
      | .error e => .error e
      | .ok (gasCounter', .gasLimitExceeded) =>
        .ok ({ ctx with status := .gasLimitExceeded }, gasCounter')
      | .ok (gasCounter', .normal) =>
        ({ ctx with status := .normal }.setWriteAccessed page).map (·, gasCounter')
    else .ok (ctx, gasCounter)
  else
    match c.chargeForPageAccess gasCounter page isWrite false with
    | .error e => .error e
    | .ok (gasCounter', .gasLimitExceeded) =>
      .ok ({ ctx with status := .gasLimitExceeded }, gasCounter')
    | .ok (gasCounter', .normal) =>
      let ctx := { ctx with status := .normal }
      if ctx.hasData page then
        match c.chargeForPageDataLoad gasCounter' with
        | (gasCounter'', .gasLimitExceeded) =>
          .ok ({ ctx with status := .gasLimitExceeded }, gasCounter'')
        | (gasCounter'', .normal) => (ctx.finishAccess isWrite page).map (·, gasCounter'')
      else (ctx.finishAccess isWrite page).map (·, gasCounter')

/-- `process_lazy_pages` for the host function handler: the pages are walked
in ascending order, and the output is the context's status. -/
def processLazyPages (c : GasCharger) (isWrite : Bool) (ctx : ExecCtx) (gasCounter : ℕ)
    (pages : Finset GearPage) : Except Error (Status × ExecCtx × ℕ) :=
  match (pages.sort (· ≤ ·)).getLast? with
  | none => .ok (ctx.status, ctx, gasCounter)
  | some lastPage =>
    if ctx.wasmMemSize ≤ lastPage then .error .outOfWasmMemoryAccess
    else if ctx.status ≠ .normal then .ok (ctx.status, ctx, gasCounter)
    else if ctx.wasmMemAddr.isNone then .error .wasmMemAddrIsNotSet
    else
      ((pages.sort (· ≤ ·)).foldlM (processOne c isWrite) (ctx, gasCounter)).map
        fun st => (st.1.status, st.1, st.2)

/-- `MemoryInterval`, in bytes. -/
structure MemoryInterval where
  offset : ℕ
  size : ℕ
deriving DecidableEq, Repr

/-- `accesses_pages`: the pages of each interval, a zero-sized one taken as
one byte; an interval past `u32::MAX` is out of memory. -/
def accessesPages (pageSize : ℕ) (accesses : List MemoryInterval) :
    Except Error (Finset GearPage) :=
  accesses.foldlM (fun pages access =>
    let lastByte := access.offset + (access.size - 1)
    if 2 ^ 32 ≤ lastByte then .error .outOfWasmMemoryAccess
    else .ok (pages ∪ Finset.Icc (access.offset / pageSize) (lastByte / pageSize))) ∅

/-- The charger `pre_process_memory_accesses` builds from the host function
costs. -/
structure HostFuncCosts where
  hostFuncRead : ℕ
  hostFuncWrite : ℕ
  hostFuncWriteAfterRead : ℕ
  loadPageDataFromStorage : ℕ
deriving DecidableEq, Repr

/-- The charger of `pre_process_memory_accesses`. -/
def HostFuncCosts.charger (costs : HostFuncCosts) : GasCharger :=
  ⟨costs.hostFuncRead, costs.hostFuncWrite, costs.hostFuncWriteAfterRead,
    costs.loadPageDataFromStorage⟩

/-- The pages of some accesses, processed. -/
def processIntervals (c : GasCharger) (isWrite : Bool) (pageSize : ℕ)
    (accesses : List MemoryInterval) (ctx : ExecCtx) (gasCounter : ℕ) :
    Except Error (Status × ExecCtx × ℕ) :=
  (accessesPages pageSize accesses).bind (processLazyPages c isWrite ctx gasCounter)

/-- The inner closure of `pre_process_memory_accesses`: the reads, then the
writes unless the reads exceeded the gas. The context and the counter are the
thread's and the caller's, so what the reads did stays when the writes fail;
the status starts `Normal` whatever the context's. -/
def processAccesses (costs : HostFuncCosts) (pageSize : ℕ) (reads writes : List MemoryInterval)
    (ctx : ExecCtx) (gasCounter : ℕ) : Except Error Status × ExecCtx × ℕ :=
  let read : Except Error (Status × ExecCtx × ℕ) :=
    if reads.isEmpty then .ok (.normal, ctx, gasCounter)
    else processIntervals costs.charger false pageSize reads ctx gasCounter
  match read with
  | .error e => (.error e, ctx, gasCounter)
  | .ok (status, ctx', gasCounter') =>
    -- the writes are not processed once the gas is exceeded
    if status ≠ .normal ∨ writes.isEmpty then (.ok status, ctx', gasCounter')
    else
      match processIntervals costs.charger true pageSize writes ctx' gasCounter' with
      | .error e => (.error e, ctx', gasCounter')
      | .ok (status', ctx'', gasCounter'') => (.ok status', ctx'', gasCounter'')

/-- How `pre_process_memory_accesses` ends: with a result, or in the
`unreachable!` of an unexpected error. -/
inductive Outcome
  | result (r : Except ProcessAccessError Unit)
  | unexpected (e : Error)
deriving DecidableEq, Repr

/-- `pre_process_memory_accesses`, with the context and the gas counter it
leaves. -/
def preProcessMemoryAccesses (costs : HostFuncCosts) (pageSize : ℕ)
    (reads writes : List MemoryInterval) (ctx : ExecCtx) (gasCounter : ℕ) :
    Outcome × ExecCtx × ℕ :=
  let (r, ctx', gasCounter') := processAccesses costs pageSize reads writes ctx gasCounter
  let outcome : Outcome :=
    match r with
    | .ok .normal => .result (.ok ())
    | .ok .gasLimitExceeded => .result (.error .gasLimitExceeded)
    | .error .wasmMemAddrIsNotSet | .error .outOfWasmMemoryAccess => .result (.error .outOfBounds)
    | .error e => .unexpected e
  (outcome, ctx', gasCounter')

end Gear.LazyPages
