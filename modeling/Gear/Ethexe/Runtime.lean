import Gear.Processor.Precharge
import Gear.Ethexe.Allocations
import Gear.Ethexe.MemoryPages
import Gear.Lib.ExceptAvoids

/-!
# Processing one dispatch of a program's queue — `process_dispatch` of `ethexe-runtime-common`

The ethexe runtime runs a program's queue one dispatch at a time. For each it
gives the message the gas the program's executable balance buys, capped at
`CHUNK_PROCESSING_GAS_LIMIT`, and the block's allowance left; it then charges,
through `ContextCharged`, the program's data, ends the message early when the
program has exited, failed its init or is not initialised for it, charges the
code metadata and the instrumented code, reads the program's allocations from
storage by their hash, charges them and the module's instantiation, and runs
the message. Every way out returns a journal.

The execution itself (`execute_wasm` and the backend) is not part of this
model: it is an `Executor`, any function from the execution context to the
result `process` reads. The one thing the theorems ask of it is what the gas
counter it is given guarantees: it burns at most the gas limit. Then every
journal `process_dispatch` returns has the plan of `Gear.Processor.Shaped`,
and the gas it reports burned is at most the gas the executable balance buys
(`processDispatch_shaped`).

Ids are the numbers of `Gear.Ethexe.Transitions`. The payload of a queued
dispatch is kept read. The pages of an active program are kept by content, as
`Gear.Ethexe.MemoryPages` keeps its regions; its allocations are kept by hash,
in the storage of `Gear.Ethexe.Allocations`. A panic is an error naming the
call that panics.
-/

namespace Gear.Ethexe.Runtime

open Gear.Processor
open Gear.Message (DispatchKind IdGen)
open Gear.Reservation (GasReserver)
open Except (Avoids avoids_bind)

/-- `CHUNK_PROCESSING_GAS_LIMIT`. -/
def chunkProcessingGasLimit : ℕ := 1000000000000

/-- `INJECTED_MESSAGE_PANIC_GAS_CHARGE_THRESHOLD`. -/
def injectedMessagePanicGasChargeThreshold : ℕ := 1000000000

/-- The panics of processing a queue, by the call that panics. -/
inductive Panic
  /-- `value_to_gas` or `gas_to_value` divides by a zero rate. -/
  | divisionByZero
  /-- "Cannot get allocations". -/
  | cannotGetAllocations
  /-- The `unreachable!` of an init message to an initialised program. -/
  | initToInitializedProgram
  /-- The `unwrap`s of `into_final_parts`. -/
  | intoFinalParts
  /-- The `unreachable!` of a system error of the execution. -/
  | systemExecutionError
  /-- "Insufficient executable balance: underflow in executable_balance -= gas_burned". -/
  | insufficientExecutableBalance
  /-- "an attempt to initialize already initialized program". -/
  | alreadyInitialized
  /-- "an attempt to dispatch init message for inactive program". -/
  | initInactiveProgram
  /-- "an attempt to update pages data of inactive program". -/
  | pagesOfInactiveProgram
  /-- "an attempt to update allocations of inactive program". -/
  | allocationsOfInactiveProgram
  /-- "failed to modify allocations". -/
  | modifyAllocations
  /-- The index of a page's region past the sixteen regions of `MemoryPages`. -/
  | regionIndexOutOfBounds
  /-- "payload size is too big for u32". -/
  | payloadTooBig
  /-- "cannot spend more gas than allowed". -/
  | cannotSpendMoreGasThanAllowed
  /-- "Cannot get message queue". -/
  | cannotGetMessageQueue
deriving DecidableEq, Repr

/-- The panics of the gas accounting: an underflow of the executable balance,
and more gas spent than the allowance had. -/
def Accounting (p : Panic) : Prop :=
  p = .insufficientExecutableBalance ∨ p = .cannotSpendMoreGasThanAllowed

/-- `Option::expect`: the panic when there is nothing. -/
def expect {α ε : Type} (o : Option α) (p : ε) : Except ε α :=
  match o with
  | some a => .ok a
  | none => .error p

/-! ## The program and its queue -/

/-- `Dispatch` of a program's queue, with its payload read. -/
structure Dispatch where
  id : MessageId
  kind : DispatchKind
  source : ActorId
  payload : List UInt8
  value : ℕ
  details : Option (MessageDetails MessageId)
  context : Option (Processor.ContextStore ActorId)
  messageType : MessageType
  call : Bool

/-- `InstrumentedCode`: the sizes of the sections its instantiation charges. -/
structure InstrumentedCode where
  instantiatedSectionSizes : InstantiatedSectionSizes

/-- `ActiveProgram`. -/
structure ActiveProgram (H : Type) where
  allocationsHash : Option H
  pagesHash : MemoryPages H
  memoryInfix : ℕ
  initialized : Bool

/-- `Program`. -/
inductive Program (H : Type)
  | active (state : ActiveProgram H)
  | exited (inheritor : ActorId)
  | terminated (inheritor : ActorId)

/-- `ProgramState`: the fields processing the queue reads and writes; the
queues and the mailbox are those of `Gear.Ethexe.ProgramState`. -/
structure ProgramState (H : Type) where
  program : Program H
  balance : ℕ
  executableBalance : ℕ

/-- `ProcessQueueContext`: the fields `process_dispatch` reads. -/
structure ProcessQueueContext where
  programId : ActorId
  queueType : MessageType
  gasAllowance : GasAllowanceCounter
  code : Option (InstrumentedCode × CodeMetadata)

/-! ## The execution -/

/-- `ProcessExecutionContext`, with the fields of its `Program` laid out. -/
structure ExecutionContext where
  gasCounter : GasCounter
  gasAllowanceCounter : GasAllowanceCounter
  gasReserver : GasReserver
  dispatch : IncomingDispatch MessageId ActorId
  balance : ℕ
  programId : ActorId
  memoryInfix : ℕ
  instrumentedCode : InstrumentedCode
  codeMetadata : CodeMetadata
  allocations : IntervalsTree
  memorySize : ℕ

/-- `ProcessExecutionContext::new`: from the final parts of the charged
context; the gas reserver starts from the dispatch's reservation nonce. -/
def ExecutionContext.new (context : ContextCharged MessageId ActorId .moduleInstantiation)
    (instrumentedCode : InstrumentedCode) (codeMetadata : CodeMetadata) (balance : ℕ) :
    Option ExecutionContext := do
  let (destinationId, dispatch, gasCounter, gasAllowanceCounter, actorData,
    allocationsData) ← context.intoFinalParts
  some ⟨gasCounter, gasAllowanceCounter,
    GasReserver.new dispatch.id (dispatch.context.map (·.reservationNonce))
      actorData.gasReservationMap allocationsData.maxReservations,
    dispatch, balance, destinationId, actorData.memoryInfix, instrumentedCode, codeMetadata,
    actorData.allocations, allocationsData.memorySize⟩

/-- What `process` needs of `execute_wasm`: the result of running a message
from its execution context. -/
abbrev Executor := ExecutionContext → ExecutionResult MessageId ActorId CodeId

/-- The contract of an executor: the gas it reports burned fits in the counter
it was given. -/
def Executor.BurnsWithin (execute : Executor) : Prop :=
  ∀ ec, (execute ec).gasBurned ≤ ec.gasCounter.left + ec.gasCounter.burned

/-! ## `process_dispatch` -/

section ProcessDispatch

variable {H : Type} [DecidableEq H] [Gear.Memory.IntervalsTreeOps] (gen : IdGen MessageId)
  (actorBytes : ActorId → List UInt8) (storage : AllocationsStorage H) (execute : Executor)

/-- The message `process_dispatch` builds from a queued dispatch and the gas
limit. -/
def Dispatch.incoming (dispatch : Dispatch) (gasLimit : ℕ) : IncomingDispatch MessageId ActorId :=
  ⟨dispatch.kind, ⟨dispatch.id, dispatch.source, dispatch.payload, gasLimit, dispatch.value,
    dispatch.details⟩, dispatch.context⟩

omit [Gear.Memory.IntervalsTreeOps] in
theorem gasLimit_le_u64Max (gas : ℕ) : min gas chunkProcessingGasLimit ≤ u64Max :=
  (min_le_right _ _).trans (by decide)

/-- `match r { Ok(context) => context, Err(journal) => return journal }`: a
stage of precharging either goes on with its context or ends the dispatch
with its journal. -/
def orReturn {α J : Type} (r : Except J α) (rest : α → Except Panic J) : Except Panic J :=
  match r with
  | .error journal => .ok journal
  | .ok a => rest a

/-- `process_dispatch`. -/
def processDispatch (dispatch : Dispatch) (blockConfig : BlockConfig)
    (programState : ProgramState H) (ctx : ProcessQueueContext) :
    Except Panic (List (JournalNote MessageId ActorId CodeId)) := do
  let gas ← expect (blockConfig.gasMultiplier.valueToGas programState.executableBalance)
    .divisionByZero
  let incoming := dispatch.incoming (min gas chunkProcessingGasLimit)
  orReturn ((ContextCharged.new ctx.programId incoming ctx.gasAllowance.value
      (gasLimit_le_u64Max gas) ctx.gasAllowance.value_le).chargeForProgram gen actorBytes
      blockConfig) fun context =>
  match programState.program with
  | .terminated _ => .ok (processFailedInit gen actorBytes context)
  | .exited inheritor => .ok (processProgramExited gen actorBytes context inheritor)
  | .active state =>
  if state.initialized && dispatch.kind == .init then .error .initToInitializedProgram
  -- an uninitialised program runs its init message and replies only
  else if !state.initialized && !(dispatch.kind == .init || dispatch.kind == .reply) then
    .ok (processUninitialized gen actorBytes context)
  else
  orReturn (context.chargeForCodeMetadata gen actorBytes blockConfig) fun context =>
  -- the code is not loaded for each dispatch, so its length is charged as zero
  orReturn (context.chargeForInstrumentedCode gen actorBytes blockConfig 0) fun context =>
  match ctx.code with
  | none => .ok (processReinstrumentationError gen actorBytes context)
  | some (code, codeMetadata) => do
    let allocations ← expect (queryAllocations storage state.allocationsHash)
      .cannotGetAllocations
    orReturn (context.chargeForAllocations gen actorBytes blockConfig allocations.treeLen)
      fun context =>
    orReturn (context.chargeForModuleInstantiation gen actorBytes blockConfig
      ⟨allocations.inner, state.memoryInfix, ∅⟩ code.instantiatedSectionSizes codeMetadata)
      fun context => do
    let executionContext ← expect (ExecutionContext.new context code codeMetadata
      programState.balance) .intoFinalParts
    expect (process gen actorBytes executionContext.dispatch executionContext.programId
      (execute executionContext)) .systemExecutionError

end ProcessDispatch

/-! ## Every journal has the plan -/

section Shape

variable {H : Type} [DecidableEq H] [Gear.Memory.IntervalsTreeOps] (gen : IdGen MessageId)
  (actorBytes : ActorId → List UInt8) (storage : AllocationsStorage H) (execute : Executor)

omit [Gear.Memory.IntervalsTreeOps] in
theorem expect_eq_ok {α : Type} {o : Option α} {p : Panic} {a : α} :
    expect o p = .ok a ↔ o = some a := by
  cases o <;> simp [expect]

open ContextCharged in
omit [Gear.Memory.IntervalsTreeOps] in
/-- The rule of a stage: what holds of every journal that ends the message
within the bounds, and of whatever follows a context the stage returns, holds
of the result. -/
theorem orReturn_rule {s t : ChargedFor} {ctx : ContextCharged MessageId ActorId s}
    {gasLimit allowance : ℕ} {Q : List (JournalNote MessageId ActorId CodeId) → Prop}
    {r : Except (List (JournalNote MessageId ActorId CodeId)) (ContextCharged MessageId ActorId t)}
    {rest : ContextCharged MessageId ActorId t →
      Except Panic (List (JournalNote MessageId ActorId CodeId))}
    {j : List (JournalNote MessageId ActorId CodeId)} (hr : Keeps ctx gasLimit allowance r)
    (hjournal : ∀ j, EndsWithin ctx.dispatch gasLimit allowance j → Q j)
    (hrest : ∀ c : ContextCharged MessageId ActorId t, Conserves c gasLimit allowance →
      c.dispatch = ctx.dispatch → ∀ j, rest c = .ok j → Q j)
    (h : orReturn r rest = .ok j) : Q j := by
  cases r with
  | error journal =>
    cases h
    exact hjournal _ hr
  | ok c => exact hrest c hr.1 hr.2.1 j h

omit [Gear.Memory.IntervalsTreeOps] in
theorem ExecutionContext.new_eq_some {context : ContextCharged MessageId ActorId .moduleInstantiation}
    {instrumentedCode : InstrumentedCode} {codeMetadata : CodeMetadata} {balance : ℕ}
    {ec : ExecutionContext}
    (h : ExecutionContext.new context instrumentedCode codeMetadata balance = some ec) :
    ec.gasCounter = context.gasCounter ∧ ec.dispatch = context.dispatch ∧
      ec.programId = context.destinationId := by
  unfold ExecutionContext.new at h
  cases hp : context.intoFinalParts with
  | none => simp [hp] at h
  | some parts =>
    simp only [hp, Option.bind_eq_bind, Option.bind_some, Option.some.injEq] at h
    subst h
    simp only [ContextCharged.intoFinalParts, Option.bind_eq_bind, Option.bind_eq_some_iff,
      Option.some.injEq] at hp
    obtain ⟨_, -, _, -, rfl⟩ := hp
    exact ⟨rfl, rfl, rfl⟩

open ContextCharged in
/-- Every journal `process_dispatch` returns has the plan, with a gas burned
of at most the gas limit it gave the message: the gas the executable balance
buys, capped at the chunk's limit. -/
theorem processDispatch_shaped (hexec : execute.BurnsWithin) {dispatch : Dispatch}
    {blockConfig : BlockConfig} {programState : ProgramState H} {ctx : ProcessQueueContext}
    {j : List (JournalNote MessageId ActorId CodeId)}
    (h : processDispatch gen actorBytes storage execute dispatch blockConfig programState ctx =
      .ok j) :
    ∃ g, blockConfig.gasMultiplier.valueToGas programState.executableBalance = some g ∧
      ∃ burned, burned ≤ min g chunkProcessingGasLimit ∧
        Shaped dispatch.id dispatch.source burned j := by
  unfold processDispatch at h
  obtain ⟨g, hg, h⟩ := Except.bind_eq_ok.1 h
  rw [expect_eq_ok] at hg
  refine ⟨g, hg, ?_⟩
  -- the message, its gas limit and the allowance, fixed through the stages
  set gasLimit := min g chunkProcessingGasLimit
  set allowance := ctx.gasAllowance.value
  set d := dispatch.incoming gasLimit
  have h₀ := new_conserves ctx.programId d allowance (gasLimit_le_u64Max g)
    ctx.gasAllowance.value_le
  have hjournal : ∀ (s : ChargedFor) (c : ContextCharged MessageId ActorId s), c.dispatch = d →
      ∀ j : List (JournalNote MessageId ActorId CodeId), EndsWithin c.dispatch gasLimit allowance j →
        ∃ burned, burned ≤ gasLimit ∧ Shaped dispatch.id dispatch.source burned j := by
    rintro s c hc j ⟨burned, hb, -, hs⟩
    rw [hc] at hs
    exact ⟨burned, hb, hs⟩
  refine orReturn_rule (chargeGas_keeps gen actorBytes h₀ _ _) (hjournal _ _ rfl)
    (fun c₁ h₁ hd₁ j h => ?_) h
  -- the program's state decides whether the message goes on
  cases hp : programState.program with
  | terminated inheritor =>
    rw [hp] at h
    cases h
    exact hjournal _ c₁ hd₁ _ (processContextError_endsWithin gen actorBytes h₁ _)
  | exited inheritor =>
    rw [hp] at h
    cases h
    exact hjournal _ c₁ hd₁ _ (processContextError_endsWithin gen actorBytes h₁ _)
  | active state =>
    rw [hp] at h
    dsimp only at h
    split at h
    · cases h
    split at h
    · cases h
      exact hjournal _ c₁ hd₁ _ (processContextError_endsWithin gen actorBytes h₁ _)
    refine orReturn_rule (chargeGas_keeps gen actorBytes h₁ _ _) (hjournal _ _ hd₁)
      (fun c₂ h₂ hd₂ j h => ?_) h
    refine orReturn_rule (chargeGas_keeps gen actorBytes h₂ _ _) (hjournal _ _ (hd₂.trans hd₁))
      (fun c₃ h₃ hd₃ j h => ?_) h
    have hd₃' := hd₃.trans (hd₂.trans hd₁)
    cases hcode : ctx.code with
    | none =>
      rw [hcode] at h
      cases h
      exact hjournal _ c₃ hd₃' _ (processContextError_endsWithin gen actorBytes h₃ _)
    | some pair =>
      obtain ⟨code, codeMetadata⟩ := pair
      rw [hcode] at h
      obtain ⟨allocations, -, h⟩ := Except.bind_eq_ok.1 h
      refine orReturn_rule (chargeForAllocations_keeps gen actorBytes blockConfig _ h₃)
        (hjournal _ _ hd₃') (fun c₄ h₄ hd₄ j h => ?_) h
      refine orReturn_rule (chargeForModuleInstantiation_keeps gen actorBytes blockConfig _ _ _ h₄)
        (hjournal _ _ (hd₄.trans hd₃')) (fun c₅ h₅ hd₅ j h => ?_) h
      -- the execution burns within the counter the stages left
      obtain ⟨ec, hec, h⟩ := Except.bind_eq_ok.1 h
      rw [expect_eq_ok] at hec h
      obtain ⟨hgc, hdisp, -⟩ := ExecutionContext.new_eq_some hec
      have hs := process_shaped gen actorBytes _ _ _ h
      have hb := hexec ec
      rw [hgc, h₅.gas] at hb
      rw [hdisp, hd₅, hd₄, hd₃'] at hs
      exact ⟨_, hb, hs⟩

omit [Gear.Memory.IntervalsTreeOps] in
/-- An `expect` raises only its own panic. -/
theorem expect_avoids {α ε : Type} {bad : ε → Prop} {o : Option α} {p : ε} (hp : ¬ bad p) :
    Avoids bad (fun a => o = some a) (expect o p) := by
  cases o
  · exact hp
  · rfl

omit [Gear.Memory.IntervalsTreeOps] in
theorem avoids_expect {α : Type} {o : Option α} {p : Panic} (hp : ¬ Accounting p) :
    Avoids Accounting (fun _ => True) (expect o p) :=
  (expect_avoids hp).mono fun _ _ => trivial

omit [Gear.Memory.IntervalsTreeOps] in
theorem avoids_orReturn {α J : Type} {bad : Panic → Prop} {r : Except J α}
    {rest : α → Except Panic J} (hrest : ∀ a, Avoids bad (fun _ => True) (rest a)) :
    Avoids bad (fun _ => True) (orReturn r rest) := by
  cases r with
  | error journal => trivial
  | ok a => exact hrest a

/-- `process_dispatch` may panic, but never for the accounting: it reads the
balance and the allowance and leaves the charges to the handler. -/
theorem processDispatch_avoids {dispatch : Dispatch} {blockConfig : BlockConfig}
    {programState : ProgramState H} {ctx : ProcessQueueContext} :
    Avoids Accounting (fun _ => True)
      (processDispatch gen actorBytes storage execute dispatch blockConfig programState ctx) := by
  unfold processDispatch
  refine avoids_bind (avoids_expect (by simp [Accounting])) fun g _ =>
    avoids_orReturn fun context => ?_
  split
  · trivial
  · trivial
  · split
    · simp [Accounting]
    split
    · trivial
    refine avoids_orReturn fun context => avoids_orReturn fun context => ?_
    split
    · trivial
    · refine avoids_bind (avoids_expect (by simp [Accounting])) fun allocations _ =>
        avoids_orReturn fun context => avoids_orReturn fun context => ?_
      exact avoids_bind (avoids_expect (by simp [Accounting])) fun ec _ =>
        avoids_expect (by simp [Accounting])

/-- What `process_dispatch` gives the handler: a journal with the plan, of gas
that the executable balance buys, or a panic that is not of the accounting. -/
theorem processDispatch_accounts (hexec : execute.BurnsWithin) {dispatch : Dispatch}
    {blockConfig : BlockConfig} {programState : ProgramState H} {ctx : ProcessQueueContext} :
    Avoids Accounting (fun j =>
        ∃ g, blockConfig.gasMultiplier.valueToGas programState.executableBalance = some g ∧
          ∃ burned, burned ≤ min g chunkProcessingGasLimit ∧
            Shaped dispatch.id dispatch.source burned j)
      (processDispatch gen actorBytes storage execute dispatch blockConfig programState ctx) :=
  (processDispatch_avoids gen actorBytes storage execute).of_ok fun _ h =>
    processDispatch_shaped gen actorBytes storage execute hexec h

end Shape

end Gear.Ethexe.Runtime
