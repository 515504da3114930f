import Gear.Processor.Journal
import Gear.Processor.Reservations
import Gear.Memory.AllocationsSafety
import Gear.Lib.ExceptBind

/-!
# Charging a message before it runs — `precharge.rs`

Before a message runs, `ContextCharged` charges the gas of loading what it
runs: the program's data, the code metadata, the original or the instrumented
code, the instrumentation, the allocations, and the instantiation of six
sections of the module. The type parameter of `ContextCharged` marks what has
been charged, so that the stages can only be taken in their order; here it is
an index of the structure, and each stage has the type the source gives it.

Each stage is one `charge_gas`. The block's allowance is charged first: when it
does not cover the amount, the message goes back to its queue with the gas
burned so far (`process_allowance_exceed`). Then the message's own gas: when it
does not cover the amount, the message fails with `PreChargeGasLimitExceeded`
of the stage. A charge that does not fit changes neither counter.

`chargeGas_cases` says the three things a charge can do, and `Charged` what a
charge that fits leaves; every other result is read off these two. The
invariant of every context is `Conserves`: the gas left and the gas burned add
up to the message's gas limit, and the allowance left and the gas burned to
the allowance of the block. So the gas any journal of precharging reports is
at most both. `chargeList_first_failure` is the general law of a run of
charges: either all of them fit, and the counters move by their sum, or the
run stops at the first that does not, with the journal of that charge.
`charge_for_module_instantiation`, which charges its six sections in a row, is
such a run.

The processor's early journals (`process_failed_init`, `process_uninitialized`
and the others), which end a message whose program cannot run it, are one
`process_error` of the context's gas burned and are kept here with the context.

`gsys::GasMultiplier` converts between the gas and the value of an executable
balance. Its fields are private and its constructors leave one of the two
rates zero unless both are one, which the structure keeps as a field.
Converting a value to gas and gas back to value never gives more than the value
(`gasToValue_le_of_le_valueToGas`).
-/

namespace Gear.Processor

open Gear.Message (IdGen)
open Gear.Reservation (GasReservationMap)
open Gear.Memory (IntervalsTreeOps wasmPageUpper)
open Gear.Memory.IntervalsTreeOps (treeEnd)

/-! ## Costs and the block configuration -/

/-- `u128::MAX`. -/
def u128Max : ℕ := 2 ^ 128 - 1

/-- `CostOf::<CallsAmount>::with_bytes`: the cost of one and the per-byte cost
of the bytes, each saturating. -/
def withBytes (cost perByte amount : ℕ) : ℕ := min (cost + costFor perByte amount) u64Max

/-- `InstantiationCosts`. -/
structure InstantiationCosts where
  codeSectionPerByte : ℕ
  dataSectionPerByte : ℕ
  globalSectionPerByte : ℕ
  tableSectionPerByte : ℕ
  elementSectionPerByte : ℕ
  typeSectionPerByte : ℕ

/-- `DbCosts`: the two read costs. -/
structure DbCosts where
  read : ℕ
  readPerByte : ℕ

/-- `InstrumentationCosts`. -/
structure InstrumentationCosts where
  base : ℕ
  perByte : ℕ

/-- `ProcessCosts`, without the costs the execution itself charges. -/
structure ProcessCosts where
  instantiation : InstantiationCosts
  db : DbCosts
  instrumentation : InstrumentationCosts
  loadAllocationsPerInterval : ℕ

/-- `gsys::GasMultiplier`: what its constructors leave, one rate zero unless
both are one. -/
structure GasMultiplier where
  gasPerValue : ℕ
  valuePerGas : ℕ
  rates : gasPerValue = 0 ∨ valuePerGas = 0 ∨ (gasPerValue = 1 ∧ valuePerGas = 1)

namespace GasMultiplier

/-- `GasMultiplier::one`. -/
def one : GasMultiplier := ⟨1, 1, .inr (.inr ⟨rfl, rfl⟩)⟩

/-- `from_gas_per_value`. -/
def fromGasPerValue (gasPerValue : ℕ) : GasMultiplier :=
  if gasPerValue = 1 then one else ⟨gasPerValue, 0, .inr (.inl rfl)⟩

/-- `from_value_per_gas`. -/
def fromValuePerGas (valuePerGas : ℕ) : GasMultiplier :=
  if valuePerGas = 1 then one else ⟨0, valuePerGas, .inl rfl⟩

/-- `gas_to_value`: the `u64` gas times the value per gas, saturating in
`u128`, or divided by the gas per value and rounded up; a division by zero
panics. -/
def gasToValue (m : GasMultiplier) (gas : ℕ) : Option ℕ :=
  if m.valuePerGas ≠ 0 then some (min (gas * m.valuePerGas) u128Max)
  else if m.gasPerValue = 0 then none
  else some ((gas + m.gasPerValue - 1) / m.gasPerValue)

/-- `value_to_gas`: the `u128` value cast to `u64`, which keeps its low 64
bits, times the gas per value, saturating; or the value divided by the value
per gas, then cast to `u64`; a division by zero panics. -/
def valueToGas (m : GasMultiplier) (value : ℕ) : Option ℕ :=
  if m.gasPerValue ≠ 0 then some (min (value % 2 ^ 64 * m.gasPerValue) u64Max)
  else if m.valuePerGas = 0 then none
  else some (value / m.valuePerGas % 2 ^ 64)

/-- The gas a value buys costs at most that value: rounding and the casts only
ever lose gas. -/
theorem gasToValue_le_of_le_valueToGas (m : GasMultiplier) {value g gas : ℕ}
    (hg : m.valueToGas value = some g) (hle : gas ≤ g) :
    ∃ v, m.gasToValue gas = some v ∧ v ≤ value := by
  have hmod : value % 2 ^ 64 ≤ value := Nat.mod_le _ _
  unfold valueToGas at hg
  unfold gasToValue
  rcases m with ⟨gpv, vpg, hrates⟩
  dsimp only at hg ⊢
  rcases hrates with rfl | rfl | ⟨rfl, rfl⟩
  · -- value per gas: the division and the cast round down
    have hv : vpg ≠ 0 := by rintro rfl; simp at hg
    simp only [ne_eq, not_true_eq_false, if_false, hv, if_false, Option.some.injEq] at hg
    subst hg
    refine ⟨_, if_pos hv, (min_le_left _ _).trans ?_⟩
    calc gas * vpg ≤ value / vpg % 2 ^ 64 * vpg := Nat.mul_le_mul_right _ hle
      _ ≤ value / vpg * vpg := Nat.mul_le_mul_right _ (Nat.mod_le _ _)
      _ ≤ value := Nat.div_mul_le_self _ _
  · -- gas per value: the cast rounds down and the division back rounds up
    have hv : gpv ≠ 0 := by rintro rfl; simp at hg
    simp only [ne_eq, hv, not_false_eq_true, if_true, Option.some.injEq] at hg
    subst hg
    refine ⟨(gas + gpv - 1) / gpv, by simp [hv], ?_⟩
    have hlt : gas ≤ value % 2 ^ 64 * gpv := hle.trans (min_le_left _ _)
    have hpos : 0 < gpv := Nat.pos_of_ne_zero hv
    calc (gas + gpv - 1) / gpv ≤ (value % 2 ^ 64 * gpv + gpv - 1) / gpv :=
          Nat.div_le_div_right (by omega)
      _ = value % 2 ^ 64 := by
          rw [Nat.add_sub_assoc hpos, Nat.add_comm, Nat.add_mul_div_right _ _ hpos,
            Nat.div_eq_of_lt (by omega), Nat.zero_add]
      _ ≤ value := hmod
  · simp only [ne_eq, one_ne_zero, not_false_eq_true, if_true, Nat.mul_one,
      Option.some.injEq] at hg ⊢
    subst hg
    exact ⟨_, rfl, (min_le_left _ _).trans (hle.trans ((min_le_left _ _).trans hmod))⟩

/-- The rate of the ethexe runtime, a hundred units of value per gas: the gas
a value of a thousand buys costs it exactly. -/
theorem gasToValue_le_of_le_valueToGas_hundred :
    ∃ v, (fromValuePerGas 100).gasToValue 10 = some v ∧ v ≤ 1000 :=
  gasToValue_le_of_le_valueToGas (fromValuePerGas 100) (g := 10) rfl le_rfl

end GasMultiplier

/-- `BlockConfig`: the fields precharging and the runtimes read. -/
structure BlockConfig where
  gasMultiplier : GasMultiplier
  costs : ProcessCosts
  maxReservations : ℕ

/-! ## The charged context -/

/-- `CodeMetadata`: its static pages. -/
structure CodeMetadata where
  staticPages : ℕ

/-- `InstantiatedSectionSizes`. -/
structure InstantiatedSectionSizes where
  codeSection : ℕ
  dataSection : ℕ
  globalSection : ℕ
  tableSection : ℕ
  elementSection : ℕ
  typeSection : ℕ

/-- `ExecutableActorData`. -/
structure ExecutableActorData where
  allocations : {s : Finset ℕ // ∀ p ∈ s, p ≤ wasmPageUpper}
  memoryInfix : ℕ
  gasReservationMap : GasReservationMap

/-- `ReservationsAndMemorySize`. -/
structure ReservationsAndMemorySize where
  maxReservations : ℕ
  memorySize : ℕ

/-- The markers of `ContextCharged`: what the context has charged for. -/
inductive ChargedFor
  | nothing
  | program
  | codeMetadata
  | originalCode
  | instrumentedCode
  | allocations
  | moduleInstantiation
deriving DecidableEq, Repr

/-- `ContextCharged<For>`. -/
structure ContextCharged (M P : Type) (For : ChargedFor) where
  destinationId : P
  dispatch : IncomingDispatch M P
  gasCounter : GasCounter
  gasAllowanceCounter : GasAllowanceCounter
  actorData : Option ExecutableActorData
  reservationsAndMemorySize : Option ReservationsAndMemorySize

namespace ContextCharged

variable {M P : Type} {s t : ChargedFor}

/-- `ContextCharged::new`: the gas limit and the allowance are `u64`s. -/
def new (destinationId : P) (dispatch : IncomingDispatch M P) (gasAllowance : ℕ)
    (hlimit : dispatch.message.gasLimit ≤ u64Max) (hallowance : gasAllowance ≤ u64Max) :
    ContextCharged M P .nothing :=
  ⟨destinationId, dispatch, .new dispatch.message.gasLimit hlimit, .new gasAllowance hallowance,
    none, none⟩

/-- The context under another marker, rebuilt field by field as the source does. -/
def mark (ctx : ContextCharged M P s) : ContextCharged M P t :=
  ⟨ctx.destinationId, ctx.dispatch, ctx.gasCounter, ctx.gasAllowanceCounter, ctx.actorData,
    ctx.reservationsAndMemorySize⟩

/-- `into_parts`. -/
def intoParts (ctx : ContextCharged M P s) :
    P × IncomingDispatch M P × GasCounter × GasAllowanceCounter :=
  (ctx.destinationId, ctx.dispatch, ctx.gasCounter, ctx.gasAllowanceCounter)

/-- `gas_burned`. -/
def gasBurned (ctx : ContextCharged M P s) : ℕ := ctx.gasCounter.burned

/-- `gas_left`. -/
def gasLeft (ctx : ContextCharged M P s) : ℕ := ctx.gasCounter.left

/-- `into_final_parts`: the two `unwrap`s panic on a context whose actor data
was never set. -/
def intoFinalParts (ctx : ContextCharged M P .moduleInstantiation) :
    Option (P × IncomingDispatch M P × GasCounter × GasAllowanceCounter × ExecutableActorData ×
      ReservationsAndMemorySize) := do
  let actorData ← ctx.actorData
  let reservationsAndMemorySize ← ctx.reservationsAndMemorySize
  some (ctx.destinationId, ctx.dispatch, ctx.gasCounter, ctx.gasAllowanceCounter, actorData,
    reservationsAndMemorySize)

end ContextCharged

/-- The memory the execution creates: up to the last allocated page, or the
static pages when none is allocated. -/
def memorySizeOf [IntervalsTreeOps] (actorData : ExecutableActorData) (codeMetadata : CodeMetadata) :
    ℕ :=
  match treeEnd actorData.allocations.1 with
  | some page => page + 1
  | none => codeMetadata.staticPages

section Charging

variable {M P C : Type} (gen : IdGen M) (actorBytes : P → List UInt8) {s t : ChargedFor}

namespace ContextCharged

/-- `charge_gas`: the allowance first, then the message's gas. -/
def chargeGas (ctx : ContextCharged M P s) (operation : PreChargeGasOperation) (amount : ℕ) :
    Except (List (JournalNote M P C)) (ContextCharged M P t) :=
  match ctx.gasAllowanceCounter.chargeIfEnough amount with
  | (.notEnough, _) =>
    .error (processAllowanceExceed ctx.dispatch ctx.destinationId ctx.gasCounter.burned)
  | (.enough, gasAllowanceCounter) =>
    match ctx.gasCounter.chargeIfEnough amount with
    | (.notEnough, _) =>
      .error (processExecutionError gen actorBytes ctx.dispatch ctx.destinationId
        ctx.gasCounter.burned (.fromDispatch ctx.dispatch) (.preChargeGasLimitExceeded operation))
    | (.enough, gasCounter) =>
      .ok ⟨ctx.destinationId, ctx.dispatch, gasCounter, gasAllowanceCounter, ctx.actorData,
        ctx.reservationsAndMemorySize⟩

/-- `charge_for_program`. -/
def chargeForProgram (blockConfig : BlockConfig) (ctx : ContextCharged M P .nothing) :
    Except (List (JournalNote M P C)) (ContextCharged M P .program) :=
  ctx.chargeGas gen actorBytes .programData blockConfig.costs.db.read

/-- `charge_for_code_metadata`. -/
def chargeForCodeMetadata (blockConfig : BlockConfig) (ctx : ContextCharged M P .program) :
    Except (List (JournalNote M P C)) (ContextCharged M P .codeMetadata) :=
  ctx.chargeGas gen actorBytes .codeMetadata blockConfig.costs.db.read

/-- `charge_for_original_code`. -/
def chargeForOriginalCode (blockConfig : BlockConfig) (codeLenBytes : ℕ)
    (ctx : ContextCharged M P .codeMetadata) :
    Except (List (JournalNote M P C)) (ContextCharged M P .originalCode) :=
  ctx.chargeGas gen actorBytes .originalCode
    (withBytes blockConfig.costs.db.read blockConfig.costs.db.readPerByte codeLenBytes)

/-- `charge_for_instrumented_code`. -/
def chargeForInstrumentedCode (blockConfig : BlockConfig) (codeLenBytes : ℕ)
    (ctx : ContextCharged M P .codeMetadata) :
    Except (List (JournalNote M P C)) (ContextCharged M P .instrumentedCode) :=
  ctx.chargeGas gen actorBytes .instrumentedCode
    (withBytes blockConfig.costs.db.read blockConfig.costs.db.readPerByte codeLenBytes)

/-- `charge_for_instrumentation`. -/
def chargeForInstrumentation (blockConfig : BlockConfig) (originalCodeLenBytes : ℕ)
    (ctx : ContextCharged M P .originalCode) :
    Except (List (JournalNote M P C)) (ContextCharged M P .instrumentedCode) :=
  ctx.chargeGas gen actorBytes .moduleInstrumentation
    (withBytes blockConfig.costs.instrumentation.base blockConfig.costs.instrumentation.perByte
      originalCodeLenBytes)

/-- `charge_for_allocations`: nothing for a program with no intervals. -/
def chargeForAllocations (blockConfig : BlockConfig) (allocationsTreeLen : ℕ)
    (ctx : ContextCharged M P .instrumentedCode) :
    Except (List (JournalNote M P C)) (ContextCharged M P .allocations) :=
  if allocationsTreeLen = 0 then .ok ctx.mark
  else
    let amount := min (costFor blockConfig.costs.loadAllocationsPerInterval allocationsTreeLen +
      blockConfig.costs.db.read) u64Max
    ctx.chargeGas gen actorBytes .allocations amount

/-- `charge_gas_for_section_instantiation`; the sections it is not called for
are not in `SectionName` here. -/
def chargeGasForSectionInstantiation (costs : ProcessCosts) (sectionName : SectionName)
    (sectionLen : ℕ) (ctx : ContextCharged M P .allocations) :
    Except (List (JournalNote M P C)) (ContextCharged M P .allocations) :=
  let costPerByte :=
    match sectionName with
    | .function => costs.instantiation.codeSectionPerByte
    | .data => costs.instantiation.dataSectionPerByte
    | .global => costs.instantiation.globalSectionPerByte
    | .table => costs.instantiation.tableSectionPerByte
    | .element => costs.instantiation.elementSectionPerByte
    | .type => costs.instantiation.typeSectionPerByte
  ctx.chargeGas gen actorBytes (.moduleInstantiation sectionName) (costFor costPerByte sectionLen)

/-- `charge_for_module_instantiation`: the actor data and the memory size are
set, then the six sections are charged in turn. -/
def chargeForModuleInstantiation [IntervalsTreeOps] (blockConfig : BlockConfig)
    (actorData : ExecutableActorData)
    (sectionSizes : InstantiatedSectionSizes) (codeMetadata : CodeMetadata)
    (ctx : ContextCharged M P .allocations) :
    Except (List (JournalNote M P C)) (ContextCharged M P .moduleInstantiation) := do
  let ctx : ContextCharged M P .allocations :=
    { ctx with
      actorData := some actorData
      reservationsAndMemorySize :=
        some ⟨blockConfig.maxReservations, memorySizeOf actorData codeMetadata⟩ }
  let ctx ← ctx.chargeGasForSectionInstantiation gen actorBytes blockConfig.costs .function
    sectionSizes.codeSection
  let ctx ← ctx.chargeGasForSectionInstantiation gen actorBytes blockConfig.costs .data
    sectionSizes.dataSection
  let ctx ← ctx.chargeGasForSectionInstantiation gen actorBytes blockConfig.costs .global
    sectionSizes.globalSection
  let ctx ← ctx.chargeGasForSectionInstantiation gen actorBytes blockConfig.costs .table
    sectionSizes.tableSection
  let ctx ← ctx.chargeGasForSectionInstantiation gen actorBytes blockConfig.costs .element
    sectionSizes.elementSection
  let ctx ← ctx.chargeGasForSectionInstantiation gen actorBytes blockConfig.costs .type
    sectionSizes.typeSection
  .ok ctx.mark

end ContextCharged

/-! ## The journals of a program that cannot run the message -/

/-- The body of the early journals: `process_error` with the gas the context
burned and the system reservation of the dispatch. -/
def processContextError (context : ContextCharged M P s) (case : ProcessErrorCase P) :
    List (JournalNote M P C) :=
  let (destinationId, dispatch, gasCounter, _) := context.intoParts
  processError gen actorBytes dispatch destinationId gasCounter.burned
    (.fromDispatch dispatch) case

/-- `process_program_exited`. -/
def processProgramExited (context : ContextCharged M P .program) (inheritor : P) :
    List (JournalNote M P C) :=
  processContextError gen actorBytes context (.programExited inheritor)

/-- `process_failed_init`. -/
def processFailedInit (context : ContextCharged M P .program) : List (JournalNote M P C) :=
  processContextError gen actorBytes context .failedInit

/-- `process_uninitialized`. -/
def processUninitialized (context : ContextCharged M P .program) : List (JournalNote M P C) :=
  processContextError gen actorBytes context .uninitialized

/-- `process_code_not_exists`. -/
def processCodeNotExists (context : ContextCharged M P .program) : List (JournalNote M P C) :=
  processContextError gen actorBytes context .codeNotExists

/-- `process_reinstrumentation_error`. -/
def processReinstrumentationError (context : ContextCharged M P .instrumentedCode) :
    List (JournalNote M P C) :=
  processContextError gen actorBytes context .reinstrumentationFailed

/-- `process_instrumentation_failed`: the same case as a failed
re-instrumentation, from the context that charged for the code metadata. -/
def processInstrumentationFailed (context : ContextCharged M P .codeMetadata) :
    List (JournalNote M P C) :=
  processContextError gen actorBytes context .reinstrumentationFailed

end Charging

/-! ## What a charge does -/

namespace GasAllowanceCounter

variable {c : GasAllowanceCounter} {amount : ℕ}

theorem chargeIfEnough_of_le (h : amount ≤ c.value) :
    c.chargeIfEnough amount = (.enough, ⟨c.value - amount, (Nat.sub_le _ _).trans c.value_le⟩) :=
  if_pos h

theorem chargeIfEnough_of_lt (h : c.value < amount) : c.chargeIfEnough amount = (.notEnough, c) :=
  if_neg (Nat.not_le_of_lt h)

end GasAllowanceCounter

section Charges

variable {M P C : Type} (gen : IdGen M) (actorBytes : P → List UInt8) {s t u : ChargedFor}

namespace ContextCharged

/-- What a charge of `amount` that fits leaves: both counters lowered by it,
the gas burned raised by it, and the rest as it was. -/
structure Charged (ctx : ContextCharged M P s) (amount : ℕ) (ctx' : ContextCharged M P t) :
    Prop where
  left : ctx'.gasCounter.left + amount = ctx.gasCounter.left
  burned : ctx'.gasCounter.burned = ctx.gasCounter.burned + amount
  allowance : ctx'.gasAllowanceCounter.value + amount = ctx.gasAllowanceCounter.value
  destinationId : ctx'.destinationId = ctx.destinationId
  dispatch : ctx'.dispatch = ctx.dispatch
  actorData : ctx'.actorData = ctx.actorData
  reservationsAndMemorySize : ctx'.reservationsAndMemorySize = ctx.reservationsAndMemorySize

theorem Charged.refl (ctx : ContextCharged M P s) : Charged ctx 0 ctx :=
  ⟨rfl, rfl, rfl, rfl, rfl, rfl, rfl⟩

theorem Charged.mark (ctx : ContextCharged M P s) : Charged ctx 0 (ctx.mark (t := t)) :=
  ⟨rfl, rfl, rfl, rfl, rfl, rfl, rfl⟩

theorem Charged.trans {ctx : ContextCharged M P s} {ctx' : ContextCharged M P t}
    {ctx'' : ContextCharged M P u} {a b : ℕ} (h : Charged ctx a ctx') (h' : Charged ctx' b ctx'') :
    Charged ctx (a + b) ctx'' where
  left := by have := h.left; have := h'.left; omega
  burned := by rw [h'.burned, h.burned, Nat.add_assoc]
  allowance := by have := h.allowance; have := h'.allowance; omega
  destinationId := h'.destinationId.trans h.destinationId
  dispatch := h'.dispatch.trans h.dispatch
  actorData := h'.actorData.trans h.actorData
  reservationsAndMemorySize := h'.reservationsAndMemorySize.trans h.reservationsAndMemorySize

/-- The three things a charge can do: fit, or not fit the allowance, or fit
the allowance and not the message's gas. -/
theorem chargeGas_cases (ctx : ContextCharged M P s) (operation : PreChargeGasOperation)
    (amount : ℕ) :
    (∃ ctx' : ContextCharged M P t,
        ctx.chargeGas (C := C) gen actorBytes operation amount = .ok ctx' ∧
          Charged ctx amount ctx') ∨
      (ctx.gasAllowanceCounter.value < amount ∧
        ctx.chargeGas (C := C) (t := t) gen actorBytes operation amount =
          .error (processAllowanceExceed ctx.dispatch ctx.destinationId ctx.gasCounter.burned)) ∨
      (amount ≤ ctx.gasAllowanceCounter.value ∧ ctx.gasCounter.left < amount ∧
        ctx.chargeGas (C := C) (t := t) gen actorBytes operation amount =
          .error (processExecutionError gen actorBytes ctx.dispatch ctx.destinationId
            ctx.gasCounter.burned (.fromDispatch ctx.dispatch)
            (.preChargeGasLimitExceeded operation))) := by
  rcases Nat.lt_or_ge ctx.gasAllowanceCounter.value amount with ha | ha
  · refine .inr (.inl ⟨ha, ?_⟩)
    rw [chargeGas, GasAllowanceCounter.chargeIfEnough_of_lt ha]
  rcases Nat.lt_or_ge ctx.gasCounter.left amount with hg | hg
  · refine .inr (.inr ⟨ha, hg, ?_⟩)
    rw [chargeGas, GasAllowanceCounter.chargeIfEnough_of_le ha, GasCounter.chargeIfEnough_of_lt hg]
  · rw [chargeGas, GasAllowanceCounter.chargeIfEnough_of_le ha, GasCounter.chargeIfEnough_of_le hg]
    exact .inl ⟨_, rfl, Nat.sub_add_cancel hg, rfl, Nat.sub_add_cancel ha, rfl, rfl, rfl, rfl⟩

/-- Charges in turn, stopping at the first that does not fit: the run that
`charge_for_module_instantiation` makes of its sections. -/
def chargeList (ctx : ContextCharged M P t) :
    List (PreChargeGasOperation × ℕ) → Except (List (JournalNote M P C)) (ContextCharged M P t)
  | [] => .ok ctx
  | (operation, amount) :: rest => do
    let ctx' ← ctx.chargeGas gen actorBytes operation amount
    chargeList ctx' rest

/-- A run whose charges all fit moves the counters by their sum. -/
theorem chargeList_fits (ctx : ContextCharged M P t) (l : List (PreChargeGasOperation × ℕ))
    (hallowance : (l.map Prod.snd).sum ≤ ctx.gasAllowanceCounter.value)
    (hgas : (l.map Prod.snd).sum ≤ ctx.gasCounter.left) :
    ∃ ctx' : ContextCharged M P t, chargeList (C := C) gen actorBytes ctx l = .ok ctx' ∧
      Charged ctx (l.map Prod.snd).sum ctx' := by
  induction l generalizing ctx with
  | nil => exact ⟨_, rfl, Charged.refl ctx⟩
  | cons c rest ih =>
    obtain ⟨operation, amount⟩ := c
    simp only [List.map_cons, List.sum_cons] at hallowance hgas ⊢
    -- the first charge fits, since the whole run does
    rcases chargeGas_cases (C := C) (t := t) gen actorBytes ctx operation amount with
      ⟨ctx₁, h₁, hc₁⟩ | ⟨ha, -⟩ | ⟨-, hg, -⟩
    · have ha₁ := hc₁.allowance
      have hg₁ := hc₁.left
      obtain ⟨ctx', h', hc'⟩ := ih ctx₁ (by omega) (by omega)
      exact ⟨ctx', by rw [chargeList, h₁, Except.ok_bind, h'], hc₁.trans hc'⟩
    · omega
    · omega

/-- A run stops at its first charge that does not fit, with the journal of
that charge and the gas burned by the ones before it. -/
theorem chargeList_first_failure (ctx : ContextCharged M P t)
    (pre post : List (PreChargeGasOperation × ℕ)) (operation : PreChargeGasOperation) (amount : ℕ)
    (hallowance : (pre.map Prod.snd).sum ≤ ctx.gasAllowanceCounter.value)
    (hgas : (pre.map Prod.snd).sum ≤ ctx.gasCounter.left)
    (hfail : ctx.gasAllowanceCounter.value < (pre.map Prod.snd).sum + amount ∨
      ctx.gasCounter.left < (pre.map Prod.snd).sum + amount) :
    chargeList (C := C) gen actorBytes ctx (pre ++ (operation, amount) :: post) =
      .error (if ctx.gasAllowanceCounter.value < (pre.map Prod.snd).sum + amount then
          processAllowanceExceed ctx.dispatch ctx.destinationId
            (ctx.gasCounter.burned + (pre.map Prod.snd).sum)
        else processExecutionError gen actorBytes ctx.dispatch ctx.destinationId
          (ctx.gasCounter.burned + (pre.map Prod.snd).sum) (.fromDispatch ctx.dispatch)
          (.preChargeGasLimitExceeded operation)) := by
  induction pre generalizing ctx with
  | nil =>
    simp only [List.map_nil, List.sum_nil, Nat.zero_add, Nat.add_zero, List.nil_append] at hfail ⊢
    rcases chargeGas_cases (C := C) (t := t) gen actorBytes ctx operation amount with
      ⟨ctx₁, -, hc₁⟩ | ⟨ha, h⟩ | ⟨ha, hg, h⟩
    · have := hc₁.allowance
      have := hc₁.left
      omega
    · rw [chargeList, h, Except.error_bind, if_pos ha]
    · rw [chargeList, h, Except.error_bind, if_neg (Nat.not_lt_of_le ha)]
  | cons c pre ih =>
    obtain ⟨operation', amount'⟩ := c
    simp only [List.map_cons, List.sum_cons] at hallowance hgas hfail ⊢
    -- the charges before the failing one fit
    rcases chargeGas_cases (C := C) (t := t) gen actorBytes ctx operation' amount' with
      ⟨ctx₁, h₁, hc₁⟩ | ⟨ha, -⟩ | ⟨-, hg, -⟩
    · have ha₁ := hc₁.allowance
      have hg₁ := hc₁.left
      rw [List.cons_append, chargeList, h₁, Except.ok_bind,
        ih ctx₁ (by omega) (by omega) (by omega), hc₁.dispatch, hc₁.destinationId, hc₁.burned,
        Nat.add_assoc]
      by_cases hA : ctx.gasAllowanceCounter.value < amount' + (pre.map Prod.snd).sum + amount
      · rw [if_pos hA, if_pos (by omega)]
      · rw [if_neg hA, if_neg (by omega)]
    · omega
    · omega

/-! ## The counters account for every charge -/

/-- The counters of a context against the message's gas limit and the
block's allowance it started from: the gas left and the allowance left each
add up with the gas burned. -/
structure Conserves (ctx : ContextCharged M P s) (gasLimit allowance : ℕ) : Prop where
  gas : ctx.gasCounter.left + ctx.gasCounter.burned = gasLimit
  allowance : ctx.gasAllowanceCounter.value + ctx.gasCounter.burned = allowance

theorem new_conserves (destinationId : P) (dispatch : IncomingDispatch M P) (gasAllowance : ℕ)
    (hlimit : dispatch.message.gasLimit ≤ u64Max) (hallowance : gasAllowance ≤ u64Max) :
    Conserves (new destinationId dispatch gasAllowance hlimit hallowance)
      dispatch.message.gasLimit gasAllowance :=
  ⟨rfl, rfl⟩

theorem Conserves.charged {ctx : ContextCharged M P s} {ctx' : ContextCharged M P t}
    {gasLimit allowance amount : ℕ} (h : Conserves ctx gasLimit allowance)
    (hc : Charged ctx amount ctx') : Conserves ctx' gasLimit allowance where
  gas := by have := h.gas; have := hc.left; have := hc.burned; omega
  allowance := by have := h.allowance; have := hc.allowance; have := hc.burned; omega

theorem Conserves.burned_le {ctx : ContextCharged M P s} {gasLimit allowance : ℕ}
    (h : Conserves ctx gasLimit allowance) :
    ctx.gasCounter.burned ≤ gasLimit ∧ ctx.gasCounter.burned ≤ allowance :=
  ⟨by have := h.gas; omega, by have := h.allowance; omega⟩

/-- A journal that ends the processing of `dispatch` by the plan, with a gas
burned within the gas limit and the allowance. -/
def EndsWithin (dispatch : IncomingDispatch M P) (gasLimit allowance : ℕ)
    (j : List (JournalNote M P C)) : Prop :=
  ∃ burned, burned ≤ gasLimit ∧ burned ≤ allowance ∧ Shaped dispatch.id dispatch.source burned j

/-- What every stage of precharging keeps from a context that conserves the
counters: the context it returns conserves them too and carries the same
message, and a journal it returns ends the message within both bounds. -/
def Keeps (ctx : ContextCharged M P s) (gasLimit allowance : ℕ) :
    Except (List (JournalNote M P C)) (ContextCharged M P t) → Prop
  | .ok ctx' => Conserves ctx' gasLimit allowance ∧ ctx'.dispatch = ctx.dispatch ∧
      ctx'.destinationId = ctx.destinationId
  | .error j => EndsWithin ctx.dispatch gasLimit allowance j

theorem Keeps.of_charged {ctx : ContextCharged M P s} {ctx' : ContextCharged M P t}
    {gasLimit allowance amount : ℕ} (h : Conserves ctx gasLimit allowance)
    (hc : Charged ctx amount ctx') : Keeps (C := C) ctx gasLimit allowance (.ok ctx') :=
  ⟨h.charged hc, hc.dispatch, hc.destinationId⟩

theorem processAllowanceExceed_shaped (dispatch : IncomingDispatch M P) (programId : P)
    (gasBurned : ℕ) :
    Shaped dispatch.id dispatch.source gasBurned
      (processAllowanceExceed (C := C) dispatch programId gasBurned) :=
  .stop _ rfl

theorem chargeGas_keeps {ctx : ContextCharged M P s} {gasLimit allowance : ℕ}
    (h : Conserves ctx gasLimit allowance) (operation : PreChargeGasOperation) (amount : ℕ) :
    Keeps ctx gasLimit allowance
      (ctx.chargeGas (C := C) (t := t) gen actorBytes operation amount) := by
  have hb := h.burned_le
  rcases chargeGas_cases (C := C) (t := t) gen actorBytes ctx operation amount with
    ⟨ctx', h', hc⟩ | ⟨-, h'⟩ | ⟨-, -, h'⟩ <;> rw [h']
  · exact .of_charged h hc
  · exact ⟨_, hb.1, hb.2, processAllowanceExceed_shaped _ _ _⟩
  · exact ⟨_, hb.1, hb.2, processError_shaped gen actorBytes _ _ _ _ _⟩

theorem chargeList_keeps {ctx : ContextCharged M P t} {gasLimit allowance : ℕ}
    (h : Conserves ctx gasLimit allowance) (l : List (PreChargeGasOperation × ℕ)) :
    Keeps ctx gasLimit allowance (chargeList (C := C) gen actorBytes ctx l) := by
  induction l generalizing ctx with
  | nil => exact .of_charged h (Charged.refl ctx)
  | cons c rest ih =>
    obtain ⟨operation, amount⟩ := c
    have hstep := chargeGas_keeps (C := C) (t := t) gen actorBytes h operation amount
    rw [chargeList]
    -- the run goes on from the context the first charge returns
    cases hc : ctx.chargeGas (C := C) (t := t) gen actorBytes operation amount with
    | error j =>
      rw [hc] at hstep
      exact hstep
    | ok ctx₁ =>
      rw [hc] at hstep
      obtain ⟨h₁, hd, hdst⟩ := hstep
      have hrest := ih h₁
      rw [Except.ok_bind]
      cases hr : chargeList (C := C) gen actorBytes ctx₁ rest with
      | error j =>
        rw [hr] at hrest
        obtain ⟨b, hbL, hbA, hs⟩ := hrest
        exact ⟨b, hbL, hbA, hd ▸ hs⟩
      | ok ctx' =>
        rw [hr] at hrest
        exact ⟨hrest.1, hrest.2.1.trans hd, hrest.2.2.trans hdst⟩

theorem chargeForAllocations_keeps (blockConfig : BlockConfig) (allocationsTreeLen : ℕ)
    {ctx : ContextCharged M P .instrumentedCode} {gasLimit allowance : ℕ}
    (h : Conserves ctx gasLimit allowance) :
    Keeps ctx gasLimit allowance
      (ctx.chargeForAllocations (C := C) gen actorBytes blockConfig allocationsTreeLen) := by
  unfold chargeForAllocations
  split
  · exact .of_charged h (Charged.mark ctx)
  · exact chargeGas_keeps gen actorBytes h _ _

/-- The six charges of `charge_for_module_instantiation`, in its order. -/
def sectionCharges (costs : ProcessCosts) (sectionSizes : InstantiatedSectionSizes) :
    List (PreChargeGasOperation × ℕ) :=
  [(.moduleInstantiation .function,
      costFor costs.instantiation.codeSectionPerByte sectionSizes.codeSection),
    (.moduleInstantiation .data,
      costFor costs.instantiation.dataSectionPerByte sectionSizes.dataSection),
    (.moduleInstantiation .global,
      costFor costs.instantiation.globalSectionPerByte sectionSizes.globalSection),
    (.moduleInstantiation .table,
      costFor costs.instantiation.tableSectionPerByte sectionSizes.tableSection),
    (.moduleInstantiation .element,
      costFor costs.instantiation.elementSectionPerByte sectionSizes.elementSection),
    (.moduleInstantiation .type,
      costFor costs.instantiation.typeSectionPerByte sectionSizes.typeSection)]

/-- The context `charge_for_module_instantiation` charges, with the actor data
and the memory size set. -/
def withActorData [IntervalsTreeOps] (blockConfig : BlockConfig)
    (actorData : ExecutableActorData)
    (codeMetadata : CodeMetadata) (ctx : ContextCharged M P .allocations) :
    ContextCharged M P .allocations :=
  { ctx with
    actorData := some actorData
    reservationsAndMemorySize :=
      some ⟨blockConfig.maxReservations, memorySizeOf actorData codeMetadata⟩ }

theorem chargeForModuleInstantiation_eq [IntervalsTreeOps] (blockConfig : BlockConfig)
    (actorData : ExecutableActorData) (sectionSizes : InstantiatedSectionSizes)
    (codeMetadata : CodeMetadata) (ctx : ContextCharged M P .allocations) :
    ctx.chargeForModuleInstantiation (C := C) gen actorBytes blockConfig actorData sectionSizes
        codeMetadata =
      (chargeList gen actorBytes (withActorData blockConfig actorData codeMetadata ctx)
        (sectionCharges blockConfig.costs sectionSizes)) >>= fun ctx => .ok ctx.mark := by
  simp only [chargeForModuleInstantiation, chargeList, sectionCharges, withActorData, bind_assoc,
    chargeGasForSectionInstantiation, Except.ok_bind]

/-- `charge_for_module_instantiation` charges its six sections in their order.
When their total fits both counters, it returns the context with the actor
data and the memory size set and both counters moved by the total; otherwise
it returns the journal of the first section that does not fit, with the gas
burned before it: the message goes back to its queue when the allowance ran
out, and fails with `PreChargeGasLimitExceeded` of that section otherwise. -/
theorem chargeForModuleInstantiation_first_failure [IntervalsTreeOps] (blockConfig : BlockConfig)
    (actorData : ExecutableActorData) (sectionSizes : InstantiatedSectionSizes)
    (codeMetadata : CodeMetadata) (ctx : ContextCharged M P .allocations) :
    let charges := sectionCharges blockConfig.costs sectionSizes
    ((charges.map Prod.snd).sum ≤ ctx.gasAllowanceCounter.value →
      (charges.map Prod.snd).sum ≤ ctx.gasCounter.left →
      ∃ ctx', ctx.chargeForModuleInstantiation (C := C) gen actorBytes blockConfig actorData
          sectionSizes codeMetadata = .ok ctx' ∧
        Charged (withActorData blockConfig actorData codeMetadata ctx)
          (charges.map Prod.snd).sum ctx') ∧
    ∀ pre operation amount post, charges = pre ++ (operation, amount) :: post →
      (pre.map Prod.snd).sum ≤ ctx.gasAllowanceCounter.value →
      (pre.map Prod.snd).sum ≤ ctx.gasCounter.left →
      (ctx.gasAllowanceCounter.value < (pre.map Prod.snd).sum + amount ∨
        ctx.gasCounter.left < (pre.map Prod.snd).sum + amount) →
      ctx.chargeForModuleInstantiation (C := C) gen actorBytes blockConfig actorData sectionSizes
          codeMetadata =
        .error (if ctx.gasAllowanceCounter.value < (pre.map Prod.snd).sum + amount then
            processAllowanceExceed ctx.dispatch ctx.destinationId
              (ctx.gasCounter.burned + (pre.map Prod.snd).sum)
          else processExecutionError gen actorBytes ctx.dispatch ctx.destinationId
            (ctx.gasCounter.burned + (pre.map Prod.snd).sum) (.fromDispatch ctx.dispatch)
            (.preChargeGasLimitExceeded operation)) := by
  intro charges
  have hcharges : sectionCharges blockConfig.costs sectionSizes = charges := rfl
  rw [chargeForModuleInstantiation_eq, hcharges]
  refine ⟨fun hallowance hgas => ?_,
    fun pre operation amount post hsplit hallowance hgas hfail => ?_⟩
  · -- the counters of the context with the actor data are those of `ctx`
    obtain ⟨c, hc, hcharged⟩ := chargeList_fits (C := C) gen actorBytes
      (withActorData blockConfig actorData codeMetadata ctx) charges hallowance hgas
    exact ⟨c.mark, by rw [hc, Except.ok_bind], hcharged.trans (Charged.mark c)⟩
  · rw [hsplit, chargeList_first_failure gen actorBytes
      (withActorData blockConfig actorData codeMetadata ctx) pre post operation amount hallowance
      hgas hfail, Except.error_bind]
    rfl

/-- Six sections of one byte each at one gas a byte fit a context with a
hundred of each. -/
theorem chargeForModuleInstantiation_fits_six :
    let blockConfig : BlockConfig :=
      ⟨GasMultiplier.one, ⟨⟨1, 1, 1, 1, 1, 1⟩, ⟨1, 1⟩, ⟨1, 1⟩, 1⟩, 0⟩
    let actorData : ExecutableActorData := ⟨⟨∅, by simp⟩, 0, ∅⟩
    let ctx : ContextCharged ℕ ℕ .allocations :=
      ⟨2, ⟨.handle, ⟨0, 1, [], 100, 0, none⟩, none⟩, ⟨100, 0, by decide⟩, ⟨100, by decide⟩,
        none, none⟩
    ∃ ctx', ctx.chargeForModuleInstantiation (C := ℕ) ⟨fun m n => m + n, fun m => m + 1⟩
        (fun _ => []) blockConfig actorData ⟨1, 1, 1, 1, 1, 1⟩ ⟨0⟩ = .ok ctx' ∧
      Charged (withActorData blockConfig actorData ⟨0⟩ ctx) 6 ctx' := by
  intro blockConfig actorData ctx
  exact (chargeForModuleInstantiation_first_failure _ _ blockConfig actorData _ _ ctx).1
    (by decide) (by decide)

/-- The same sections with two gas left: the code and data sections fit, and
the global section fails with `PreChargeGasLimitExceeded`, two gas burned. -/
theorem chargeForModuleInstantiation_fails_global :
    let blockConfig : BlockConfig :=
      ⟨GasMultiplier.one, ⟨⟨1, 1, 1, 1, 1, 1⟩, ⟨1, 1⟩, ⟨1, 1⟩, 1⟩, 0⟩
    let actorData : ExecutableActorData := ⟨⟨∅, by simp⟩, 0, ∅⟩
    let gen : IdGen ℕ := ⟨fun m n => m + n, fun m => m + 1⟩
    let ctx : ContextCharged ℕ ℕ .allocations :=
      ⟨2, ⟨.handle, ⟨0, 1, [], 100, 0, none⟩, none⟩, ⟨2, 0, by decide⟩, ⟨100, by decide⟩,
        none, none⟩
    ctx.chargeForModuleInstantiation (C := ℕ) gen (fun _ => []) blockConfig actorData
        ⟨1, 1, 1, 1, 1, 1⟩ ⟨0⟩ =
      .error (processExecutionError gen (fun _ => []) ctx.dispatch ctx.destinationId 2
        (.fromDispatch ctx.dispatch) (.preChargeGasLimitExceeded (.moduleInstantiation .global))) := by
  intro blockConfig actorData gen ctx
  have h := (chargeForModuleInstantiation_first_failure (C := ℕ) gen (fun _ => []) blockConfig
    actorData ⟨1, 1, 1, 1, 1, 1⟩ ⟨0⟩ ctx).2
    [(.moduleInstantiation .function, 1), (.moduleInstantiation .data, 1)]
    (.moduleInstantiation .global) 1
    [(.moduleInstantiation .table, 1), (.moduleInstantiation .element, 1),
      (.moduleInstantiation .type, 1)] rfl (by decide) (by decide) (.inr (by decide))
  -- the allowance has room: the failure is the gas counter's
  rw [if_neg (by decide)] at h
  exact h

/-- A run of charges that returns a context moved the counters by its sum. -/
theorem chargeList_eq_ok {ctx ctx' : ContextCharged M P t} {l : List (PreChargeGasOperation × ℕ)}
    (h : chargeList (C := C) gen actorBytes ctx l = .ok ctx') :
    Charged ctx (l.map Prod.snd).sum ctx' := by
  induction l generalizing ctx with
  | nil =>
    cases h
    exact Charged.refl _
  | cons c rest ih =>
    obtain ⟨operation, amount⟩ := c
    rw [chargeList] at h
    obtain ⟨ctx₁, h₁, hrest⟩ := Except.bind_eq_ok.1 h
    -- the first charge returned a context, so it fit
    rcases chargeGas_cases (C := C) (t := t) gen actorBytes ctx operation amount with
      ⟨ctx₂, h₂, hc₂⟩ | ⟨-, h₂⟩ | ⟨-, -, h₂⟩ <;> rw [h₂] at h₁ <;> cases h₁
    rw [List.map_cons, List.sum_cons]
    exact hc₂.trans (ih hrest)

theorem chargeForModuleInstantiation_keeps [IntervalsTreeOps] (blockConfig : BlockConfig)
    (actorData : ExecutableActorData) (sectionSizes : InstantiatedSectionSizes)
    (codeMetadata : CodeMetadata) {ctx : ContextCharged M P .allocations} {gasLimit allowance : ℕ}
    (h : Conserves ctx gasLimit allowance) :
    Keeps ctx gasLimit allowance (ctx.chargeForModuleInstantiation (C := C) gen actorBytes
      blockConfig actorData sectionSizes codeMetadata) := by
  rw [chargeForModuleInstantiation_eq]
  -- the actor data leave the counters and the message as they are
  have h₀ : Conserves (withActorData blockConfig actorData codeMetadata ctx) gasLimit allowance :=
    ⟨h.gas, h.allowance⟩
  have hrun := chargeList_keeps (C := C) gen actorBytes h₀
    (sectionCharges blockConfig.costs sectionSizes)
  cases hr : chargeList (C := C) gen actorBytes
      (withActorData blockConfig actorData codeMetadata ctx)
      (sectionCharges blockConfig.costs sectionSizes) with
  | error j =>
    rw [hr] at hrun
    exact hrun
  | ok c =>
    rw [hr] at hrun
    obtain ⟨hc, hd, hdst⟩ := hrun
    exact ⟨⟨hc.gas, hc.allowance⟩, hd, hdst⟩

/-- After `charge_for_module_instantiation` the actor data and the memory
size are set, so the `unwrap`s of `into_final_parts` do not panic. -/
theorem chargeForModuleInstantiation_intoFinalParts [IntervalsTreeOps] (blockConfig : BlockConfig)
    (actorData : ExecutableActorData) (sectionSizes : InstantiatedSectionSizes)
    (codeMetadata : CodeMetadata) {ctx : ContextCharged M P .allocations}
    {ctx' : ContextCharged M P .moduleInstantiation}
    (h : ctx.chargeForModuleInstantiation (C := C) gen actorBytes blockConfig actorData sectionSizes
      codeMetadata = .ok ctx') :
    ctx'.intoFinalParts = some (ctx'.destinationId, ctx'.dispatch, ctx'.gasCounter,
      ctx'.gasAllowanceCounter, actorData,
      ⟨blockConfig.maxReservations, memorySizeOf actorData codeMetadata⟩) := by
  rw [chargeForModuleInstantiation_eq] at h
  obtain ⟨c, hc, hmark⟩ := Except.bind_eq_ok.1 h
  cases hmark
  have hcharged := chargeList_eq_ok gen actorBytes hc
  simp only [intoFinalParts, mark, hcharged.actorData, hcharged.reservationsAndMemorySize,
    withActorData]
  rfl

end ContextCharged

open ContextCharged in
theorem processContextError_endsWithin {context : ContextCharged M P s} {gasLimit allowance : ℕ}
    (h : Conserves context gasLimit allowance) (case : ProcessErrorCase P) :
    EndsWithin context.dispatch gasLimit allowance
      (processContextError (C := C) gen actorBytes context case) :=
  ⟨_, h.burned_le.1, h.burned_le.2, processError_shaped gen actorBytes _ _ _ _ _⟩

end Charges

/-! ## The memory of the next execution -/

section MemorySize

open Gear.Memory

variable [tree : IntervalsTreeOps]

/-- The checks of `validate_memory_params` pass when what they check holds:
the converse of `validateMemoryParams_ok`. -/
theorem validateMemoryParams_of (htree : tree.Spec) {memorySize staticPages maxPages : ℕ} {S : Finset ℕ}
    {stackEnd : Option ℕ} (hmax : memorySize ≤ maxPages) (hstatic : staticPages ≤ memorySize)
    (hstack : ∀ e ∈ stackEnd, e ≤ staticPages)
    (hpages : ∀ p ∈ S, staticPages ≤ p ∧ p < memorySize) :
    validateMemoryParams memorySize S staticPages stackEnd maxPages = .ok () := by
  have hstart : validateMemoryParams.validateStart memorySize S staticPages = .ok () := by
    unfold validateMemoryParams.validateStart
    split
    · rename_i page hs
      rw [if_neg (Nat.not_lt_of_le (hpages page (htree.treeStart_some S page hs).1).1)]
    · rfl
  have hallocations :
      validateMemoryParams.validateAllocations memorySize S staticPages = .ok () := by
    unfold validateMemoryParams.validateAllocations
    split
    · rename_i page he
      rw [if_neg (Nat.not_le_of_lt (hpages page (htree.treeEnd_some S page he).1).2), hstart]
    · exact hstart
  unfold validateMemoryParams
  rw [if_neg (Nat.not_lt_of_le hmax), if_neg (Nat.not_lt_of_le hstatic)]
  cases stackEnd with
  | none => exact hallocations
  | some e => exact (if_neg (Nat.not_lt_of_le (hstack e rfl))).trans hallocations

/-- `try_new` accepts the stack end it was built with. -/
theorem tryNew_stackEnd {memorySize staticPages maxPages : ℕ} {S : Finset ℕ}
    {stackEnd : Option ℕ} {ctx : AllocationsContext}
    (h : tryNew memorySize S staticPages stackEnd maxPages = .ok ctx) :
    ∀ e ∈ stackEnd, e ≤ staticPages := by
  intro e he
  rw [Option.mem_def] at he
  subst he
  unfold tryNew at h
  split at h
  · cases h
  · rename_i hv
    unfold validateMemoryParams at hv
    dsimp only at hv
    -- a stack end past the static pages is an error
    split_ifs at hv with h₁ h₂ h₃
    omega

/-- The memory size precharging computes from pages that lie in the heap of a
memory: at least the static pages, at most the memory, and past every page. -/
theorem memorySizeOf_bounds (htree : tree.Spec) (actorData : ExecutableActorData) (codeMetadata : CodeMetadata)
    {memorySize : ℕ} (hstatic : codeMetadata.staticPages ≤ memorySize)
    (hpages : ∀ p ∈ actorData.allocations.1, codeMetadata.staticPages ≤ p ∧ p < memorySize) :
    codeMetadata.staticPages ≤ memorySizeOf actorData codeMetadata ∧
      memorySizeOf actorData codeMetadata ≤ memorySize ∧
      ∀ p ∈ actorData.allocations.1, p < memorySizeOf actorData codeMetadata := by
  unfold memorySizeOf
  split
  · rename_i page he
    obtain ⟨hmem, hlast⟩ := htree.treeEnd_some _ page he
    have hp := hpages page hmem
    exact ⟨by omega, by omega, fun p hp' => Nat.lt_succ_of_le (hlast p hp')⟩
  · rename_i he
    refine ⟨le_rfl, hstatic, fun p hp => ?_⟩
    rw [htree.treeEnd_none _ he] at hp
    cases hp

/-- The allocations a program's execution leaves never make the memory setup
of its next execution fail: after any run of `alloc`, `free` and `free_range`
from a context `try_new` built, the memory size precharging computes from the
pages the run leaves is one `try_new` accepts, with the same static pages,
stack end and page limit. -/
theorem next_memory_size_accepted (htree : tree.Spec) {staticPages maxPages memorySize : ℕ} {allocations : Finset ℕ}
    {stackEnd : Option ℕ} {ctx : AllocationsContext} (hmax : maxPages ≤ wasmPagesAmountUpper)
    (hnew : tryNew memorySize allocations staticPages stackEnd maxPages = .ok ctx)
    (calls : List AllocCall) (actorData : ExecutableActorData) (codeMetadata : CodeMetadata)
    (hdata : actorData.allocations.1 = (allocRun (ctx, memorySize) calls).1.allocations)
    (hcode : codeMetadata.staticPages = staticPages) :
    ∃ ctx', tryNew (memorySizeOf actorData codeMetadata) actorData.allocations.1 staticPages
      stackEnd maxPages = .ok ctx' := by
  have hI := allocRun_inv htree calls (tryNew_inv htree hnew) hmax
  subst hcode
  obtain ⟨hlow, hle, hpast⟩ := memorySizeOf_bounds htree actorData codeMetadata hI.static_le
    (hdata ▸ hI.pages)
  have hvalid := validateMemoryParams_of htree (hle.trans hI.mem_le) hlow (tryNew_stackEnd hnew)
    (S := actorData.allocations.1) fun p hp => ⟨(hI.pages p (hdata ▸ hp)).1, hpast p hp⟩
  exact ⟨_, by rw [tryNew, hvalid]⟩

end MemorySize

/-- Two pages allocated in a memory of one static page: the next execution's
memory of three pages is accepted. -/
theorem next_memory_size_accepted_alloc :
    let actorData : ExecutableActorData := ⟨⟨{1, 2}, by decide⟩, 0, ∅⟩
    ∃ ctx', Gear.Memory.tryNew (memorySizeOf actorData ⟨1⟩) actorData.allocations.1 1 none 4 =
      .ok ctx' := by
  intro actorData
  exact next_memory_size_accepted Gear.Memory.finsetTree_spec (by decide)
    (show Gear.Memory.tryNew 1 ∅ 1 none 4 = .ok ⟨∅, false, some (1, 3), 1⟩ from rfl)
    [.alloc 2 (fun _ => .ok ())] actorData ⟨1⟩ (by decide) rfl

end Gear.Processor
