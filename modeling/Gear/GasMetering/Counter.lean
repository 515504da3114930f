import Mathlib

/-!
# Gas metering of a function body

`inject_counter` (`wasm-instrument/src/gas_metering/mod.rs`) divides a function
body into metered blocks and inserts, at the start of each, calls to the gas
function that charge the block's cost. `determine_metered_blocks` finds the
blocks with a `Counter`: a stack of control blocks, one per open `block`,
`loop` and `if` (the function body at the bottom), each with its active
metered block and the lowest forward branch target seen inside it.
`insert_metering_calls` then splices `I32Const cost; Call gas` pairs in before
the blocks' first instructions.

Instructions are the control instructions the counter distinguishes, calls,
`i32.const` (its argument read as a `u32`, as the gas function reads it) and
`unreachable`; every other instruction is `other`, with an opcode for the
rules to price. Costs are `u32`s, kept as naturals below `2 ^ 32`; the
`overflows` field of `BlockCostCounter`, a saturating `usize`, is a natural
(its documentation explains why its saturation does not matter). The
finalised blocks are sorted by start position; the positions are distinct,
so the source's unstable sort gives the same list.
-/

namespace Gear.GasMetering

/-- `u32::MAX`, the largest argument of a gas call. -/
def u32Max : ℕ := 2 ^ 32 - 1

/-- The instructions of a function body, as metering distinguishes them. -/
inductive Instruction
  | block
  | loop
  | if_
  | else_
  | end_
  | br (relativeDepth : ℕ)
  | brIf (relativeDepth : ℕ)
  | brTable (targets : List ℕ) (default : ℕ)
  | return_
  | call (function : ℕ)
  | i32Const (value : ℕ)
  | unreachable
  | other (opcode : ℕ)
deriving DecidableEq, Repr

/-- `Rules`: a price for each instruction (`none` forbids it) and a price per
local. -/
structure Rules where
  instructionCost : Instruction → Option ℕ
  callPerLocalCost : ℕ
  instructionCost_lt : ∀ i c, instructionCost i = some c → c < 2 ^ 32
  callPerLocalCost_lt : callPerLocalCost < 2 ^ 32

/-- `CounterError`. -/
inductive CounterError
  | stackLast
  | stackPop
  | stackGet
deriving DecidableEq, Repr

/-- `GasMeteringError`, as far as `inject_counter` returns it. -/
inductive GasMeteringError
  | counter (e : CounterError)
  | localsInitCost
  | noActiveControlBlock
  | missingInstructionRule (instruction : Instruction)
  | activeIndexRelativeDepthUnderflow
  | unusedBlock
  | activeIndexLabelUnderflow
deriving DecidableEq, Repr

/-! ## Block costs -/

/-- `BlockCostCounter`: whole `u32::MAX` charges and a remainder. -/
structure BlockCostCounter where
  overflows : ℕ
  accumulator : ℕ
deriving DecidableEq, Repr

namespace BlockCostCounter

/-- `BlockCostCounter::zero`. -/
def zero : BlockCostCounter := ⟨0, 0⟩

/-- `BlockCostCounter::increment`: on a `u32` overflow one more `u32::MAX`
charge, and the rest in the accumulator. -/
def increment (b : BlockCostCounter) (val : ℕ) : BlockCostCounter :=
  if b.accumulator + val < 2 ^ 32 then { b with accumulator := b.accumulator + val }
  else ⟨b.overflows + 1, val - (u32Max - b.accumulator)⟩

/-- `BlockCostCounter::add`. -/
def add (b c : BlockCostCounter) : BlockCostCounter :=
  increment { b with overflows := b.overflows + c.overflows } c.accumulator

/-- The derived order's `cost > zero`: some charge is due. -/
def isPositive (b : BlockCostCounter) : Bool := b.overflows != 0 || b.accumulator != 0

/-- The total a counter charges. -/
def total (b : BlockCostCounter) : ℕ := b.overflows * u32Max + b.accumulator

/-- `BlockCostCounter::costs_num`: the gas calls charging the counter. -/
def costsNum (b : BlockCostCounter) : ℕ := if b.accumulator ≠ 0 then b.overflows + 1 else b.overflows

end BlockCostCounter

/-- `MeteredBlock`. -/
structure MeteredBlock where
  startPos : ℕ
  cost : BlockCostCounter
deriving DecidableEq, Repr

/-- `ControlBlock`. -/
structure ControlBlock where
  lowestForwardBrTarget : ℕ
  activeMeteredBlock : MeteredBlock
  isLoop : Bool
deriving DecidableEq, Repr

/-- `Counter`: the control stack, bottom first, and the finalised blocks. -/
structure Counter where
  stack : List ControlBlock
  finalizedBlocks : List MeteredBlock
deriving DecidableEq, Repr

namespace Counter

/-- Replace the top of the stack. -/
def setTop (c : Counter) (top : ControlBlock) : Counter :=
  { c with stack := c.stack.dropLast ++ [top] }

/-- `Counter::begin_control_block`. -/
def beginControlBlock (c : Counter) (cursor : ℕ) (isLoop : Bool) : Counter :=
  { c with stack := c.stack ++ [⟨c.stack.length, ⟨cursor, .zero⟩, isLoop⟩] }

/-- `Counter::finalize_metered_block`: the top's active metered block is
replaced by an empty one after `cursor`; the closed one is merged into the
one below if they start together, and finalised otherwise if it costs
anything. -/
def finalizeMeteredBlock (c : Counter) (cursor : ℕ) : Except CounterError Counter :=
  match c.stack.getLast? with
  | none => .error .stackLast
  | some top =>
    let closing := top.activeMeteredBlock
    let c := c.setTop { top with activeMeteredBlock := ⟨cursor + 1, .zero⟩ }
    let lastIndex := c.stack.length - 1
    -- the block below exists: `last_index > 0`
    match lastIndex, c.stack[lastIndex - 1]? with
    | _ + 1, some prev =>
      if closing.startPos = prev.activeMeteredBlock.startPos then
        .ok { c with
          stack := c.stack.set (lastIndex - 1)
            { prev with activeMeteredBlock :=
                { prev.activeMeteredBlock with cost := prev.activeMeteredBlock.cost.add closing.cost } } }
      else if closing.cost.isPositive then .ok { c with finalizedBlocks := c.finalizedBlocks ++ [closing] }
      else .ok c
    | _, _ =>
      if closing.cost.isPositive then .ok { c with finalizedBlocks := c.finalizedBlocks ++ [closing] }
      else .ok c

/-- `Counter::finalize_control_block`: close the top metered block, pop the
control block, pass its lowest forward target down, and close the metered
block below too if a branch may have left the popped one forwards. -/
def finalizeControlBlock (c : Counter) (cursor : ℕ) : Except CounterError Counter := do
  let c ← c.finalizeMeteredBlock cursor
  let some closing := c.stack.getLast? | throw .stackPop
  let c := { c with stack := c.stack.dropLast }
  let closingControlIndex := c.stack.length
  let some top := c.stack.getLast? | return c
  let c := c.setTop
    { top with lowestForwardBrTarget := min top.lowestForwardBrTarget closing.lowestForwardBrTarget }
  if closing.lowestForwardBrTarget < closingControlIndex then c.finalizeMeteredBlock cursor
  else return c

/-- One target of `Counter::branch`: a forward target lowers the top's
lowest forward target; a loop is skipped. -/
def branchTarget (c : Counter) (index : ℕ) : Except CounterError Counter :=
  match c.stack[index]? with
  | none => .error .stackGet
  | some target =>
    if target.isLoop then .ok c
    else match c.stack.getLast? with
      | none => .error .stackLast
      | some top =>
        .ok (c.setTop { top with lowestForwardBrTarget := min top.lowestForwardBrTarget index })

/-- `Counter::branch`. -/
def branch (c : Counter) (cursor : ℕ) (indices : List ℕ) : Except CounterError Counter := do
  let c ← c.finalizeMeteredBlock cursor
  indices.foldlM branchTarget c

/-- `Counter::active_control_block_index`. -/
def activeControlBlockIndex (c : Counter) : Option ℕ :=
  match c.stack.length with
  | 0 => none
  | n + 1 => some n

/-- `Counter::increment`: add to the top's active metered block. -/
def increment (c : Counter) (val : ℕ) : Except CounterError Counter :=
  match c.stack.getLast? with
  | none => .error .stackLast
  | some top =>
    .ok (c.setTop { top with activeMeteredBlock :=
      { top.activeMeteredBlock with cost := top.activeMeteredBlock.cost.increment val } })

end Counter

/-! ## Determining the metered blocks -/

/-- A counter error as a metering error. -/
def liftCounter {α : Type} (r : Except CounterError α) : Except GasMeteringError α :=
  r.mapError .counter

/-- The body of the loop of `determine_metered_blocks`: one instruction at
`cursor`, already priced at `cost`. -/
def stepInstruction (c : Counter) (cursor cost : ℕ) :
    Instruction → Except GasMeteringError Counter
  | .block => do
    let c ← liftCounter (c.increment cost)
    -- the block's metered block starts with the one it sits in, to merge into it
    let some top := c.stack.getLast? | throw (.counter .stackLast)
    return c.beginControlBlock top.activeMeteredBlock.startPos false
  | .if_ => do
    let c ← liftCounter (c.increment cost)
    return c.beginControlBlock (cursor + 1) false
  | .loop => do
    let c ← liftCounter (c.increment cost)
    return c.beginControlBlock (cursor + 1) true
  | .end_ => liftCounter (c.finalizeControlBlock cursor)
  | .else_ => liftCounter (c.finalizeMeteredBlock cursor)
  | .br relativeDepth | .brIf relativeDepth => do
    let c ← liftCounter (c.increment cost)
    let some activeIndex := c.activeControlBlockIndex | throw .noActiveControlBlock
    if relativeDepth > activeIndex then throw .activeIndexRelativeDepthUnderflow
    liftCounter (c.branch cursor [activeIndex - relativeDepth])
  | .brTable targets default => do
    let c ← liftCounter (c.increment cost)
    let some activeIndex := c.activeControlBlockIndex | throw .noActiveControlBlock
    let labels := default :: targets
    if labels.any (· > activeIndex) then throw .activeIndexLabelUnderflow
    liftCounter (c.branch cursor (labels.map (activeIndex - ·)))
  | .return_ => do
    let c ← liftCounter (c.increment cost)
    liftCounter (c.branch cursor [0])
  | _ => liftCounter (c.increment cost)

/-- The loop of `determine_metered_blocks` from position `cursor` on. -/
def countInstructions (rules : Rules) : Counter → ℕ → List Instruction → Except GasMeteringError Counter
  | c, _, [] => .ok c
  | c, cursor, instruction :: rest =>
    match rules.instructionCost instruction with
    | none => .error (.missingInstructionRule instruction)
    | some cost => do
      let c ← stepInstruction c cursor cost instruction
      countInstructions rules c (cursor + 1) rest

/-- `determine_metered_blocks`. -/
def determineMeteredBlocks (instructions : List Instruction) (rules : Rules) (localsCount : ℕ) :
    Except GasMeteringError (List MeteredBlock) := do
  let c := Counter.beginControlBlock ⟨[], []⟩ 0 false
  let localsInitCost := rules.callPerLocalCost * localsCount
  if localsInitCost ≥ 2 ^ 32 then throw .localsInitCost
  let c ← liftCounter (c.increment localsInitCost)
  let c ← countInstructions rules c 0 instructions
  -- `sort_unstable_by_key(|block| block.start_pos)`: any sort by start
  -- position is one the source may produce
  return c.finalizedBlocks.insertionSort fun a b => a.startPos ≤ b.startPos

/-! ## Inserting the gas calls -/

/-- `insert_gas_call`: one `u32::MAX` charge per overflow, then the
remainder if it is not zero. -/
def insertGasCall (block : MeteredBlock) (gasFunc : ℕ) : List Instruction :=
  (List.replicate block.cost.overflows [.i32Const u32Max, .call gasFunc]).flatten ++
    if block.cost.accumulator ≠ 0 then [.i32Const block.cost.accumulator, .call gasFunc] else []

/-- The loop of `insert_metering_calls` from original position `pos` on: a
block that starts here gets its calls in front of the instruction. -/
def insertCalls (gasFunc : ℕ) :
    ℕ → List Instruction → List MeteredBlock → Except GasMeteringError (List Instruction)
  | _, [], [] => .ok []
  | _, [], _ :: _ => .error .unusedBlock
  | pos, instruction :: rest, [] =>
    (instruction :: ·) <$> insertCalls gasFunc (pos + 1) rest []
  | pos, instruction :: rest, block :: blocks =>
    if block.startPos = pos then
      (insertGasCall block gasFunc ++ instruction :: ·) <$> insertCalls gasFunc (pos + 1) rest blocks
    else (instruction :: ·) <$> insertCalls gasFunc (pos + 1) rest (block :: blocks)

/-- `insert_metering_calls`. -/
def insertMeteringCalls (instructions : List Instruction) (blocks : List MeteredBlock)
    (gasFunc : ℕ) : Except GasMeteringError (List Instruction) :=
  insertCalls gasFunc 0 instructions blocks

/-- `inject_counter`. -/
def injectCounter (instructions : List Instruction) (rules : Rules) (localsCount gasFunc : ℕ) :
    Except GasMeteringError (List Instruction) := do
  let blocks ← determineMeteredBlocks instructions rules localsCount
  insertMeteringCalls instructions blocks gasFunc

end Gear.GasMetering
