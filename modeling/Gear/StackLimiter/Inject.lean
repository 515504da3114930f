import Gear.StackLimiter.Heights

/-!
# The stack limiter

`inject_with_config` adds a mutable `i32` global for the stack height, gives
each defined function its stack cost (`compute_stack_costs`), wraps each call
of a function of non-zero cost in a preamble that adds the cost and traps
past the limit and a postamble that subtracts it (`instrument_functions`),
and routes exports, table elements and the start function through thunks
that do the same around their entry (`generate_thunks`).

The global's index comes from `ModuleBuilder::push_global`, which counts the
global section only; Wasm numbers imported globals first. In a module that
imports a global, every preamble and postamble, and the export of the stack
height, address the imported global (`stack_height_global_imported`).
-/

namespace Gear.StackLimiter

/-! ## Stack costs -/

/-- `generate_stack_height_global`: a mutable `i32` global starting at `0`,
exported under the given name. -/
def generateStackHeightGlobal (module : Module) (stackHeightExportName : Option String) :
    Module × ℕ :=
  let (module, stackHeightGlobalIdx) := module.pushGlobal ⟨⟨.i32, true⟩, [.i32Const 0]⟩
  match stackHeightExportName with
  | some name => (module.pushExport ⟨name, .global, stackHeightGlobalIdx⟩, stackHeightGlobalIdx)
  | none => (module, stackHeightGlobalIdx)

/-- The loop summing the local groups of `compute_stack_cost`, in `u32`. -/
def countLocals : ℕ → List ℕ → Except String ℕ
  | count, [] => .ok count
  | count, group :: rest =>
    if 2 ^ 32 ≤ count + group then .error "Overflow in local count"
    else countLocals (count + group) rest

/-- `compute_stack_cost`: the locals of a defined function and its maximal
stack height, instrumented calls counted. -/
def computeStackCost (context : MaxStackHeightCounterContext) (funcIdx : ℕ)
    (injectionFn : FuncType → List Instruction) : Except String ℕ := do
  if funcIdx < context.funcImports then throw "This should be a index of a defined function"
  let definedFuncIdx := funcIdx - context.funcImports
  let some body := context.codeSection[definedFuncIdx]? | throw "Function body is out of bounds"
  let localsCount ← countLocals 0 body.locals
  let maxStackHeight ← computeForDefinedFunc context true injectionFn definedFuncIdx
  if 2 ^ 32 ≤ localsCount + maxStackHeight then
    throw "Overflow in adding locals_count and max_stack_height"
  return localsCount + maxStackHeight

/-- `compute_stack_costs`: a cost for each function of the index space, `0`
for the imported ones. -/
def computeStackCosts (module : Module) (injectionFn : FuncType → List Instruction) :
    Except String (List ℕ) := do
  let functionsSpace := module.functionsSpace
  if 2 ^ 32 ≤ functionsSpace then throw "Can't convert functions space to u32"
  if functionsSpace = 0 then return []
  let context ← MaxStackHeightCounterContext.new module
  (List.range functionsSpace).mapM fun funcIdx =>
    if funcIdx < context.funcImports then pure 0
    else computeStackCost context funcIdx injectionFn

/-- `i32.const 0; if; unreachable; else; i32.const 1; i32.const 2; drop; drop;
end; end`. -/
def elseAfterUnreachable : List Instruction :=
  [.i32Const 0, .if_ .empty, .unreachable, .else_, .i32Const 1, .i32Const 2, .drop, .drop,
    .end_, .end_]

/-- A module with one function, without parameters or results, of body
`elseAfterUnreachable`. -/
def elseAfterUnreachableModule : Module :=
  ⟨some [⟨[], []⟩], none, some [0], none, none, none, none, some [⟨[], elseAfterUnreachable⟩]⟩

/-- The function's stack cost is `3`, the activation frame and the condition of
the `if`. The condition is `0`, so the execution takes the `else` arm and
holds two values there: the function needs `ACTIVATION_FRAME_COST + 2`. -/
theorem else_arm_unmeasured :
    computeStackCosts elseAfterUnreachableModule (fun _ => [.unreachable]) = .ok [3] ∧
      runHeights elseAfterUnreachableModule ⟨[], []⟩ elseAfterUnreachable 20 [0] =
        ([1, 0, 1, 2, 1, 0, 0, 0], .normal) ∧
      3 < activationFrameCost + 2 := by
  refine ⟨?_, ?_, ?_⟩ <;> decide

/-! ## Instrumenting the calls -/

/-- The stack limiter's `Context`. -/
structure Context where
  stackHeightGlobalIdx : ℕ
  funcStackCosts : List ℕ
  stackLimit : ℕ

/-- `Context::stack_cost`. -/
def Context.stackCost (ctx : Context) (funcIdx : ℕ) : Option ℕ := ctx.funcStackCosts[funcIdx]?

/-- `instrument_function`: every call of a function of non-zero cost is
replaced by its instrumented form. The source collects the calls first and
then rebuilds the body, failing if a call is left over, which cannot
happen; this is the same body. -/
def instrumentFunction (ctx : Context) (func : List Instruction) (signature : FuncType)
    (injectionFn : FuncType → List Instruction) : List Instruction :=
  func.flatMap fun
    | .call functionIndex =>
      match ctx.stackCost functionIndex with
      | some cost =>
        if 0 < cost then
          instrumentCall functionIndex (asI32 cost) ctx.stackHeightGlobalIdx ctx.stackLimit
            (injectionFn signature) []
        else [.call functionIndex]
      | none => [.call functionIndex]
    | instruction => [instruction]

/-- The loop of `instrument_functions` over the code section from `funcIdx`
on. The source indexes the function and type sections, which panics past
their ends; here that is an error. -/
def instrumentBodies (ctx : Context) (types : List FuncType) (functions : List ℕ)
    (injectionFn : FuncType → List Instruction) : ℕ → List Function → Except String (List Function)
  | _, [] => .ok []
  | funcIdx, body :: rest => do
    let some signatureIndex := functions[funcIdx]? | throw "index out of bounds"
    let some signature := types[signatureIndex]? | throw "index out of bounds"
    let rest ← instrumentBodies ctx types functions injectionFn (funcIdx + 1) rest
    return { body with
      instructions := instrumentFunction ctx body.instructions signature injectionFn } :: rest

/-- `instrument_functions`. -/
def instrumentFunctions (ctx : Context) (module : Module)
    (injectionFn : FuncType → List Instruction) : Except String Module := do
  if ctx.funcStackCosts = [] then return module
  match module.codeSection with
  | none => return module
  | some code =>
    let code ← instrumentBodies ctx (module.typeSection.getD []) (module.functionSection.getD [])
      injectionFn 0 code
    return { module with codeSection := some code }

/-! ## Thunks -/

/-- `CALLEE_STACK_COST_PLACEHOLDER`. -/
def calleeStackCostPlaceholder : Int := 1248163264

/-- A thunk: the signature of the function it stands for, and its body. -/
structure Thunk where
  signature : FuncType
  body : List Instruction
deriving DecidableEq, Repr

/-- `thunk_function_indexes`: the exported functions, the functions of the
element segments and the start function, in that order. -/
def thunkFunctionIndexes (module : Module) : List ℕ :=
  ((module.exportSection.getD []).filterMap fun entry =>
      if entry.kind = .func then some entry.index else none) ++
    (module.elementSection.getD []).flatten ++ module.startSection.toList

/-- The body of the loop of `generate_thunks` for one function: no thunk for a
function of cost `0`; otherwise the instrumented call with the function's
arguments, whose cost placeholder becomes the function's cost plus the
thunk's own. -/
def makeThunk (ctx : Context) (module : Module) (injectionFn : FuncType → List Instruction)
    (funcIdx : ℕ) : Except String (Option Thunk) := do
  let some calleeStackCost := ctx.stackCost funcIdx | throw "function index isn't found"
  if calleeStackCost = 0 then return none
  let signature ← resolveFuncType module funcIdx
  let arguments := (List.range signature.params.length).map Instruction.localGet
  let thunkBody := instrumentCall funcIdx calleeStackCostPlaceholder ctx.stackHeightGlobalIdx
    ctx.stackLimit (injectionFn signature) arguments ++ [.end_]
  let context ← MaxStackHeightCounterContext.new module
  let thunkCost ← computeForRawFunc context false injectionFn signature thunkBody
  if 2 ^ 32 ≤ calleeStackCost + thunkCost then
    throw "overflow during callee_stack_cost calculation"
  let calleeStackCost := calleeStackCost + thunkCost
  return some ⟨signature, thunkBody.map fun instruction =>
    if instruction = .i32Const calleeStackCostPlaceholder then .i32Const (asI32 calleeStackCost)
    else instruction⟩

/-- `BTreeMap::insert` on a map kept as a list sorted by key. -/
def insertSorted {α : Type} (key : ℕ) (value : α) : List (ℕ × α) → List (ℕ × α)
  | [] => [(key, value)]
  | (k, v) :: rest =>
    if key < k then (key, value) :: (k, v) :: rest
    else if key = k then (key, value) :: rest
    else (k, v) :: insertSorted key value rest

/-- The replacement map of `generate_thunks`, by function index. -/
def replacementMap (ctx : Context) (module : Module) (injectionFn : FuncType → List Instruction) :
    List ℕ → List (ℕ × Thunk) → Except String (List (ℕ × Thunk))
  | [], map => .ok map
  | funcIdx :: rest, map => do
    match ← makeThunk ctx module injectionFn funcIdx with
    | some thunk => replacementMap ctx module injectionFn rest (insertSorted funcIdx thunk map)
    | none => replacementMap ctx module injectionFn rest map

/-- Add the thunks in key order, the first at index `nextFuncIdx`: the module
and, for each replaced function, its thunk's index. -/
def addThunks (module : Module) (nextFuncIdx : ℕ) :
    List (ℕ × Thunk) → Module × List (ℕ × ℕ)
  | [] => (module, [])
  | (funcIdx, thunk) :: rest =>
    let module := (module.addFunc thunk.signature ⟨[], thunk.body⟩).1
    let (module, indices) := addThunks module (nextFuncIdx + 1) rest
    (module, (funcIdx, nextFuncIdx) :: indices)

/-- The fixup of `generate_thunks`: a replaced function's index becomes its
thunk's. -/
def fixup (thunkIndices : List (ℕ × ℕ)) (functionIdx : ℕ) : ℕ :=
  (thunkIndices.lookup functionIdx).getD functionIdx

/-- `generate_thunks`. -/
def generateThunks (ctx : Context) (module : Module) (injectionFn : FuncType → List Instruction) :
    Except String Module := do
  let map ← replacementMap ctx module injectionFn (thunkFunctionIndexes module) []
  let (module, thunkIndices) := addThunks module module.functionsSpace map
  return { module with
    exportSection := module.exportSection.map fun exports => exports.map fun entry =>
      if entry.kind = .func then { entry with index := fixup thunkIndices entry.index } else entry
    elementSection := module.elementSection.map fun segments =>
      segments.map fun funcs => funcs.map (fixup thunkIndices)
    startSection := module.startSection.map (fixup thunkIndices) }

/-! ## Injection -/

/-- `InjectionConfig`. -/
structure InjectionConfig where
  stackLimit : ℕ
  injectionFn : FuncType → List Instruction
  stackHeightExportName : Option String

/-- `inject_with_config`. -/
def injectWithConfig (module : Module) (injectionConfig : InjectionConfig) :
    Except String Module := do
  let (module, stackHeightGlobalIdx) :=
    generateStackHeightGlobal module injectionConfig.stackHeightExportName
  let funcStackCosts ← computeStackCosts module injectionConfig.injectionFn
  let ctx : Context := ⟨stackHeightGlobalIdx, funcStackCosts, injectionConfig.stackLimit⟩
  let module ← instrumentFunctions ctx module injectionConfig.injectionFn
  generateThunks ctx module injectionConfig.injectionFn

/-- `inject`: trap past the limit, and export no stack height. -/
def inject (module : Module) (stackLimit : ℕ) : Except String Module :=
  injectWithConfig module ⟨stackLimit, fun _ => [.unreachable], none⟩

/-! ## A module that imports a global -/

/-- A module that imports a mutable `i32` global and exports its one function,
`nop; end`, as `main`. -/
def importsGlobal : Module :=
  ⟨some [⟨[], []⟩], some [.global ⟨.i32, true⟩], some [0], none, some [⟨"main", .func, 0⟩], none,
    none, some [⟨[], [.nop, .end_]⟩]⟩

/-- The stack height global is the second global of the instrumented module,
after the imported one, but the export of the stack height and the thunk of
`main` (function `1`) address global `0`, and nothing addresses global `1`: the
stack height stays `0` while `main` runs, and the limit is checked against the
imported global. -/
theorem stack_height_global_imported :
    ∃ instrumented,
      injectWithConfig importsGlobal ⟨1024, fun _ => [.unreachable], some "stack_height"⟩ =
        .ok instrumented ∧
      instrumented.globalsSpace = 2 ∧
      instrumented.globalSection = some [⟨⟨.i32, true⟩, [.i32Const 0]⟩] ∧
      instrumented.exportSection =
        some [⟨"main", .func, 1⟩, ⟨"stack_height", .global, 0⟩] ∧
      (∀ f ∈ instrumented.codeSection.getD [],
        .globalGet 1 ∉ f.instructions ∧ .globalSet 1 ∉ f.instructions) ∧
      ((instrumented.codeSection.getD [])[1]?.map Function.instructions).getD [] =
        instrumentCall 0 6 0 1024 [.unreachable] [] ++ [.end_] := by
  refine ⟨⟨some [⟨[], []⟩], some [.global ⟨.i32, true⟩], some [0, 0],
    some [⟨⟨.i32, true⟩, [.i32Const 0]⟩], some [⟨"main", .func, 1⟩, ⟨"stack_height", .global, 0⟩],
    none, none, some [⟨[], [.nop, .end_]⟩, ⟨[], instrumentCall 0 6 0 1024 [.unreachable] [] ++
      [.end_]⟩]⟩, ?_, ?_, ?_, ?_, ?_, ?_⟩ <;> decide

end Gear.StackLimiter
