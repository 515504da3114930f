import Gear.StackLimiter.Module
import Gear.Lib.ExceptBind

/-!
# The maximal stack height of a function

`MaxStackHeightCounter` of `stack_limiter::max_height` walks a function body
once, keeping the height of the value stack (starting at
`ACTIVATION_FRAME_COST`) and a stack of control frames, and returns the
largest height it saw before any instruction in a frame that is not
polymorphic. `compute_stack_cost` adds the locals to it; the stack limiter
charges that sum on every call.

Every function of the counter returns its errors, with the source's texts.
-/

namespace Gear.StackLimiter

/-- `ACTIVATION_FRAME_COST`. -/
def activationFrameCost : ℕ := 2

/-! ## The call instrumentation -/

/-- `stack_limit as i32`. -/
def asI32 (n : ℕ) : Int := if n < 2 ^ 31 then (n : Int) else (n : Int) - 2 ^ 32

/-- `generate_preamble`: add the callee's cost to the stack height global and
run `bodyOfCondition` if it exceeds the limit. -/
def generatePreamble (calleeStackCost : Int) (stackHeightGlobalIdx stackLimit : ℕ)
    (bodyOfCondition : List Instruction) : List Instruction :=
  [.globalGet stackHeightGlobalIdx, .i32Const calleeStackCost, .i32Add,
    .globalSet stackHeightGlobalIdx, .globalGet stackHeightGlobalIdx,
    .i32Const (asI32 stackLimit), .i32GtU, .if_ .empty] ++ bodyOfCondition ++ [.end_]

/-- `generate_postamble`: subtract the callee's cost again. -/
def generatePostamble (calleeStackCost : Int) (stackHeightGlobalIdx : ℕ) : List Instruction :=
  [.globalGet stackHeightGlobalIdx, .i32Const calleeStackCost, .i32Sub,
    .globalSet stackHeightGlobalIdx]

/-- `instrument_call`: the preamble, the arguments, the call and the postamble. -/
def instrumentCall (calleeIdx : ℕ) (calleeStackCost : Int) (stackHeightGlobalIdx stackLimit : ℕ)
    (bodyOfCondition arguments : List Instruction) : List Instruction :=
  generatePreamble calleeStackCost stackHeightGlobalIdx stackLimit bodyOfCondition ++
    arguments ++ .call calleeIdx :: generatePostamble calleeStackCost stackHeightGlobalIdx

/-! ## The counter -/

/-- `MaxStackHeightCounterContext`: the module, the number of its imported
functions and its function, code and type sections. -/
structure MaxStackHeightCounterContext where
  module : Module
  funcImports : ℕ
  funcSection : List ℕ
  codeSection : List Function
  typeSection : List FuncType

/-- `MaxStackHeightCounterContext::new`: the three sections must exist. -/
def MaxStackHeightCounterContext.new (module : Module) :
    Except String MaxStackHeightCounterContext := do
  let funcImports := module.importCount TypeRef.isFunc
  if 2 ^ 32 ≤ funcImports then throw "Can't convert func imports count to u32"
  let some funcSection := module.functionSection | throw "No function section"
  let some codeSection := module.codeSection | throw "No code section"
  let some typeSection := module.typeSection | throw "No type section"
  return ⟨module, funcImports, funcSection, codeSection, typeSection⟩

/-- A control frame. -/
structure Frame where
  isPolymorphic : Bool
  endArity : ℕ
  branchArity : ℕ
  startHeight : ℕ
deriving DecidableEq, Repr

/-- The value stack's height and the control stack, top first. -/
structure Stack where
  height : ℕ
  controlStack : List Frame
deriving DecidableEq, Repr

namespace Stack

/-- `Stack::new`. -/
def new : Stack := ⟨activationFrameCost, []⟩

/-- `Stack::frame`: the frame `relDepth` below the top. -/
def frame (s : Stack) (relDepth : ℕ) : Except String Frame :=
  match s.controlStack with
  | [] => .error "control stack is empty"
  | _ :: _ =>
    match s.controlStack[relDepth]? with
    | some f => .ok f
    | none => .error "control stack out-of-bounds"

/-- `Stack::mark_unreachable`: the top frame becomes polymorphic. -/
def markUnreachable (s : Stack) : Except String Stack :=
  match s.controlStack with
  | [] => .error "stack must be non-empty"
  | top :: rest => .ok { s with controlStack := { top with isPolymorphic := true } :: rest }

/-- `Stack::push_frame`. -/
def pushFrame (s : Stack) (f : Frame) : Stack := { s with controlStack := f :: s.controlStack }

/-- `Stack::pop_frame`. -/
def popFrame (s : Stack) : Except String (Frame × Stack) :=
  match s.controlStack with
  | [] => .error "stack must be non-empty"
  | f :: rest => .ok (f, { s with controlStack := rest })

/-- `Stack::trunc`. -/
def trunc (s : Stack) (newHeight : ℕ) : Stack := { s with height := newHeight }

/-- `Stack::push_values`, with the `u32` overflow check. -/
def pushValues (s : Stack) (valueCount : ℕ) : Except String Stack :=
  if s.height + valueCount < 2 ^ 32 then .ok { s with height := s.height + valueCount }
  else .error "stack overflow"

/-- `Stack::pop_values`: popping below the top frame's start is an error,
unless the frame is polymorphic, when the height stays. -/
def popValues (s : Stack) (valueCount : ℕ) : Except String Stack :=
  if valueCount = 0 then .ok s
  else do
    let top ← s.frame 0
    if s.height = top.startHeight then
      if top.isPolymorphic then .ok s else .error "trying to pop more values than pushed"
    else if valueCount ≤ s.height then .ok { s with height := s.height - valueCount }
    else .error "stack underflow"

end Stack

/-- The arities of the `br_table` targets all equal the default's. -/
def checkArities (s : Stack) (arityOfDefault : ℕ) : List ℕ → Except String Unit
  | [] => .ok ()
  | target :: rest => do
    let f ← s.frame target
    if f.branchArity ≠ arityOfDefault then throw "Arity of all jump-targets must be equal"
    checkArities s arityOfDefault rest

/-- The effect of one instruction on the stack: the `match opcode` of
`process_instruction`. -/
def effect (context : MaxStackHeightCounterContext) (funcArity : ℕ) (stack : Stack) :
    Instruction → Except String Stack
  | .nop => .ok stack
  | .block ty => .ok (stack.pushFrame ⟨false, ty.arity, ty.arity, stack.height⟩)
  -- a branch to a loop's header takes no values
  | .loop ty => .ok (stack.pushFrame ⟨false, ty.arity, 0, stack.height⟩)
  | .if_ ty => do
    let stack ← stack.popValues 1
    return stack.pushFrame ⟨false, ty.arity, ty.arity, stack.height⟩
  -- the frame on top was pushed by `if`, and is left as it is: height and flag
  | .else_ => .ok stack
  | .end_ => do
    let (frame, stack) ← stack.popFrame
    (stack.trunc frame.startHeight).pushValues frame.endArity
  | .unreachable => stack.markUnreachable
  | .br relativeDepth => do
    let target ← stack.frame relativeDepth
    let stack ← stack.popValues target.branchArity
    stack.markUnreachable
  | .brIf relativeDepth => do
    let target ← stack.frame relativeDepth
    let stack ← stack.popValues target.branchArity
    let stack ← stack.popValues 1
    stack.pushValues target.branchArity
  | .brTable targets default => do
    let arityOfDefault := (← stack.frame default).branchArity
    checkArities stack arityOfDefault targets
    let stack ← stack.popValues arityOfDefault
    stack.markUnreachable
  | .return_ => do
    let stack ← stack.popValues funcArity
    stack.markUnreachable
  | .call functionIndex => do
    let ty ← resolveFuncType context.module functionIndex
    let stack ← stack.popValues ty.params.length
    stack.pushValues ty.results.length
  | .callIndirect typeIndex => do
    let ty ← match context.typeSection[typeIndex]? with
      | some ty => pure ty
      | none => throw "Type not found"
    let stack ← stack.popValues 1
    let stack ← stack.popValues ty.params.length
    stack.pushValues ty.results.length
  | .drop => stack.popValues 1
  | .select => do
    let stack ← stack.popValues 2
    let stack ← stack.popValues 1
    stack.pushValues 1
  | .localGet _ | .globalGet _ | .memorySize | .i32Const _ | .i64Const _ => stack.pushValues 1
  | .localSet _ | .globalSet _ => stack.popValues 1
  | .localTee _ | .load | .memoryGrow | .eqz | .unary | .convert | .extend => do
    let stack ← stack.popValues 1
    stack.pushValues 1
  | .store => stack.popValues 2
  | .compare | .i32GtU | .i32Add | .i32Sub | .binary => do
    let stack ← stack.popValues 2
    stack.pushValues 1

/-- The counter's state: the stack and the largest height seen. -/
structure CounterState where
  stack : Stack
  maxHeight : ℕ
deriving DecidableEq, Repr

/-- The counter at the start of a function: its implicit frame, whose start
height is `0` although the height starts at `ACTIVATION_FRAME_COST`. -/
def CounterState.initial (funcArity : ℕ) : CounterState :=
  ⟨Stack.new.pushFrame ⟨false, funcArity, funcArity, 0⟩, 0⟩

/-- The height recorded before an instruction: the current height, if it is
higher and the top frame is not polymorphic. The frame is only looked up
when the height is higher, as the `&&` of the source does. -/
def recordHeight (st : CounterState) : Except String ℕ :=
  if st.stack.height > st.maxHeight then do
    let top ← st.stack.frame 0
    return if !top.isPolymorphic then st.stack.height else st.maxHeight
  else .ok st.maxHeight

/-- `process_instruction`. -/
def processInstruction (context : MaxStackHeightCounterContext) (funcArity : ℕ) (st : CounterState)
    (opcode : Instruction) : Except String CounterState := do
  let maxHeight ← recordHeight st
  let stack ← effect context funcArity st.stack opcode
  return ⟨stack, maxHeight⟩

/-- The loop of `compute_for_raw_func` over the instructions it processes. -/
def processInstructions (context : MaxStackHeightCounterContext) (funcArity : ℕ) :
    CounterState → List Instruction → Except String CounterState
  | st, [] => .ok st
  | st, opcode :: rest => do
    let st ← processInstruction context funcArity st opcode
    processInstructions context funcArity st rest

/-- What `compute_for_raw_func` processes for one instruction of the body: a
call of a defined function is measured as instrumented, with zero costs,
when `count_instrumented_calls` is set. -/
def measured (context : MaxStackHeightCounterContext) (countInstrumentedCalls : Bool)
    (injectionFn : FuncType → List Instruction) (funcSignature : FuncType) :
    Instruction → List Instruction
  | .call functionIndex =>
    if countInstrumentedCalls ∧ context.funcImports ≤ functionIndex then
      instrumentCall functionIndex 0 0 0 (injectionFn funcSignature) []
    else [.call functionIndex]
  | instruction => [instruction]

/-- `compute_for_raw_func`: the function's own frame, from height `0`, then
every instruction. -/
def computeForRawFunc (context : MaxStackHeightCounterContext) (countInstrumentedCalls : Bool)
    (injectionFn : FuncType → List Instruction) (funcSignature : FuncType)
    (instructions : List Instruction) : Except String ℕ := do
  let st ← processInstructions context funcSignature.results.length
    (CounterState.initial funcSignature.results.length)
    (instructions.flatMap (measured context countInstrumentedCalls injectionFn funcSignature))
  return st.maxHeight

/-- `compute_for_defined_func`: `funcIdx` is an index of the function and code
sections. -/
def computeForDefinedFunc (context : MaxStackHeightCounterContext) (countInstrumentedCalls : Bool)
    (injectionFn : FuncType → List Instruction) (funcIdx : ℕ) : Except String ℕ := do
  let some funcSigIdx := context.funcSection[funcIdx]? | throw "Function is not found in func section"
  let some funcSignature := context.typeSection[funcSigIdx]?
    | throw "Function is not found in func section"
  let some body := context.codeSection[funcIdx]? | throw "Function body for the index isn't found"
  computeForRawFunc context countInstrumentedCalls injectionFn funcSignature body.instructions

/-! ## What the counter measures

The counter records a height only before an instruction whose top frame is
not polymorphic. Along every run, the result bounds each height seen at such
a point, and nothing else: a height inside a polymorphic frame can exceed it.
-/

/-- Whether the height before the next instruction is recorded: the top frame
exists and is not polymorphic. -/
def Stack.measures (s : Stack) : Bool :=
  match s.controlStack with
  | f :: _ => !f.isPolymorphic
  | [] => false

theorem Stack.frame_zero_of_cons {s : Stack} {f : Frame} {rest : List Frame}
    (h : s.controlStack = f :: rest) : s.frame 0 = .ok f := by
  simp [Stack.frame, h]

theorem recordHeight_ge {st : CounterState} {m : ℕ} (h : recordHeight st = .ok m) :
    st.maxHeight ≤ m := by
  unfold recordHeight at h
  split at h
  · cases hf : st.stack.frame 0 with
    | error e => rw [hf] at h; cases h
    | ok top =>
      rw [hf] at h
      simp only [bind, Except.bind, pure, Except.pure, Except.ok.injEq] at h
      split at h <;> omega
  · cases h
    exact Nat.le_refl _

theorem recordHeight_measures {st : CounterState} {m : ℕ} (h : recordHeight st = .ok m)
    (hm : st.stack.measures) : st.stack.height ≤ m := by
  obtain ⟨f, rest, hs, hf⟩ : ∃ f rest, st.stack.controlStack = f :: rest ∧ f.isPolymorphic = false := by
    unfold Stack.measures at hm
    split at hm
    · rename_i f rest hs
      exact ⟨f, rest, hs, by simpa using hm⟩
    · cases hm
  unfold recordHeight at h
  split at h
  · rw [Stack.frame_zero_of_cons hs] at h
    simp only [bind, Except.bind, pure, Except.pure, Except.ok.injEq, hf] at h
    simp at h
    omega
  · cases h
    omega

/-- One instruction: the largest height never decreases, and the height before
the instruction is recorded if the top frame is not polymorphic. -/
theorem processInstruction_maxHeight {context : MaxStackHeightCounterContext} {funcArity : ℕ} {st st' : CounterState}
    {opcode : Instruction} (h : processInstruction context funcArity st opcode = .ok st') :
    st.maxHeight ≤ st'.maxHeight ∧ (st.stack.measures → st.stack.height ≤ st'.maxHeight) := by
  unfold processInstruction at h
  cases hr : recordHeight st with
  | error e => rw [hr] at h; cases h
  | ok m =>
    rw [hr] at h
    cases he : effect context funcArity st.stack opcode with
    | error e => simp only [bind, Except.bind, he] at h; cases h
    | ok stack =>
      simp only [bind, Except.bind, he, pure, Except.pure, Except.ok.injEq] at h
      subst h
      exact ⟨recordHeight_ge hr, recordHeight_measures hr⟩

theorem processInstructions_cons_ok {context : MaxStackHeightCounterContext} {funcArity : ℕ} {st st' : CounterState}
    {opcode : Instruction} {rest : List Instruction}
    (h : processInstructions context funcArity st (opcode :: rest) = .ok st') :
    ∃ s, processInstruction context funcArity st opcode = .ok s ∧
      processInstructions context funcArity s rest = .ok st' := by
  simp only [processInstructions] at h
  cases hs : processInstruction context funcArity st opcode with
  | error e => rw [hs] at h; cases h
  | ok s =>
    rw [hs] at h
    exact ⟨s, rfl, h⟩

/-- The largest height never decreases along a run. -/
theorem processInstructions_mono {context : MaxStackHeightCounterContext} {funcArity : ℕ} :
    ∀ {st st' : CounterState} {l : List Instruction},
      processInstructions context funcArity st l = .ok st' → st.maxHeight ≤ st'.maxHeight := by
  intro st st' l
  induction l generalizing st with
  | nil => intro h; cases h; exact Nat.le_refl _
  | cons opcode rest ih =>
    intro h
    obtain ⟨s, hs, hrest⟩ := processInstructions_cons_ok h
    exact Nat.le_trans (processInstruction_maxHeight hs).1 (ih hrest)

theorem processInstructions_append_ok {context : MaxStackHeightCounterContext} {funcArity : ℕ} :
    ∀ {st st' : CounterState} {l₁ l₂ : List Instruction},
      processInstructions context funcArity st (l₁ ++ l₂) = .ok st' →
      ∃ s, processInstructions context funcArity st l₁ = .ok s ∧
        processInstructions context funcArity s l₂ = .ok st' := by
  intro st st' l₁ l₂
  induction l₁ generalizing st with
  | nil => intro h; exact ⟨st, rfl, h⟩
  | cons opcode rest ih =>
    intro h
    obtain ⟨s, hs, hrest⟩ := processInstructions_cons_ok h
    obtain ⟨s', hs', hrest'⟩ := ih hrest
    refine ⟨s', ?_, hrest'⟩
    simp only [processInstructions, hs, bind, Except.bind]
    exact hs'

/-- Along a run, the largest height bounds the height before every
instruction whose top frame is not polymorphic. -/
theorem processInstructions_measured {context : MaxStackHeightCounterContext} {funcArity : ℕ} {st st' : CounterState}
    {l : List Instruction} (h : processInstructions context funcArity st l = .ok st')
    (k : ℕ) (hk : k < l.length) (s : CounterState)
    (hs : processInstructions context funcArity st (l.take k) = .ok s) (hm : s.stack.measures) :
    s.stack.height ≤ st'.maxHeight := by
  -- split the run at the `k`-th instruction
  have hsplit : l = l.take k ++ l[k] :: l.drop (k + 1) := by simp
  rw [hsplit] at h
  obtain ⟨s₁, hs₁, hrest⟩ := processInstructions_append_ok h
  rw [hs] at hs₁
  cases hs₁
  obtain ⟨s₂, hstep, hafter⟩ := processInstructions_cons_ok hrest
  calc s.stack.height ≤ s₂.maxHeight := (processInstruction_maxHeight hstep).2 hm
    _ ≤ st'.maxHeight := processInstructions_mono hafter

/-- What `compute_for_raw_func` returns bounds the height before every
processed instruction whose top frame is not polymorphic. -/
theorem computeForRawFunc_measured {context : MaxStackHeightCounterContext} {countInstrumentedCalls : Bool}
    {injectionFn : FuncType → List Instruction} {funcSignature : FuncType}
    {instructions : List Instruction} {m : ℕ}
    (h : computeForRawFunc context countInstrumentedCalls injectionFn funcSignature instructions =
      .ok m)
    (k : ℕ) (hk : k < (instructions.flatMap
      (measured context countInstrumentedCalls injectionFn funcSignature)).length)
    (s : CounterState)
    (hs : processInstructions context funcSignature.results.length
      (CounterState.initial funcSignature.results.length)
      ((instructions.flatMap
        (measured context countInstrumentedCalls injectionFn funcSignature)).take k) = .ok s)
    (hm : s.stack.measures) : s.stack.height ≤ m := by
  unfold computeForRawFunc at h
  cases hrun : processInstructions context funcSignature.results.length
      (CounterState.initial funcSignature.results.length)
      (instructions.flatMap (measured context countInstrumentedCalls injectionFn funcSignature)) with
  | error e => rw [hrun] at h; cases h
  | ok st =>
    rw [hrun] at h
    simp only [bind, Except.bind, pure, Except.pure, Except.ok.injEq] at h
    subst h
    exact processInstructions_measured hrun k hk s hs hm

end Gear.StackLimiter
