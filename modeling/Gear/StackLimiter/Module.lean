import Mathlib

/-!
# Wasm modules as the stack limiter reads them

The sections of `module::Module` that the stack limiter reads or writes, each
`None` when the module has no such section, and the `ModuleBuilder`
operations it uses. What it never reads is left out: the import's module and
field names, table, memory, data, name and custom sections, the kind of an
element segment and the types of the locals.

The instructions are those the limiter distinguishes. Groups of opcodes it
treats alike are one constructor each (`load` for every `I*Load*`, `binary`
for every binary operator), except `I32Add`, `I32Sub` and `I32GtU`, which
`instrument_call` itself emits. The value types are those of Wasm 1 without
floats (`GEAR_SUPPORTED_FEATURES`); a block type is empty or one value.
-/

namespace Gear.StackLimiter

/-- The value types. -/
inductive ValType
  | i32
  | i64
deriving DecidableEq, Repr

/-- `FuncType`. -/
structure FuncType where
  params : List ValType
  results : List ValType
deriving DecidableEq, Repr

/-- The block type of `block`, `loop` and `if`. -/
inductive BlockType
  | empty
  | value
deriving DecidableEq, Repr

/-- The values a block leaves: `if *blockty == BlockType::Empty { 0 } else { 1 }`. -/
def BlockType.arity : BlockType → ℕ
  | .empty => 0
  | .value => 1

/-- The instructions of a function body. -/
inductive Instruction
  | nop
  | block (ty : BlockType)
  | loop (ty : BlockType)
  | if_ (ty : BlockType)
  | else_
  | end_
  | unreachable
  | br (relativeDepth : ℕ)
  | brIf (relativeDepth : ℕ)
  | brTable (targets : List ℕ) (default : ℕ)
  | return_
  | call (functionIndex : ℕ)
  | callIndirect (typeIndex : ℕ)
  | drop
  | select
  | localGet (index : ℕ)
  | localSet (index : ℕ)
  | localTee (index : ℕ)
  | globalGet (index : ℕ)
  | globalSet (index : ℕ)
  /-- `I32Load` to `I64Load32U`. -/
  | load
  /-- `I32Store` to `I64Store32`. -/
  | store
  | memorySize
  | memoryGrow
  | i32Const (value : Int)
  | i64Const (value : Int)
  /-- `I32Eqz` and `I64Eqz`. -/
  | eqz
  /-- The comparisons other than `I32GtU`. -/
  | compare
  | i32GtU
  /-- `Clz`, `Ctz` and `Popcnt`. -/
  | unary
  | i32Add
  | i32Sub
  /-- The binary operators other than `I32Add` and `I32Sub`. -/
  | binary
  /-- `I32WrapI64`, `I64ExtendI32S` and `I64ExtendI32U`. -/
  | convert
  /-- The sign extensions `I32Extend8S` to `I64Extend32S`. -/
  | extend
deriving DecidableEq, Repr

/-- `GlobalType`. -/
structure GlobalType where
  contentType : ValType
  mutable : Bool
deriving DecidableEq, Repr

/-- `Global`: its type and its initialiser, a constant expression. -/
structure Global where
  ty : GlobalType
  initExpr : List Instruction
deriving DecidableEq, Repr

/-- What an import provides. -/
inductive TypeRef
  | func (typeIndex : ℕ)
  | table
  | memory
  | global (ty : GlobalType)
deriving DecidableEq, Repr

/-- `ExternalKind`. -/
inductive ExternalKind
  | func
  | table
  | memory
  | global
deriving DecidableEq, Repr

/-- `Export`. -/
structure Export where
  name : String
  kind : ExternalKind
  index : ℕ
deriving DecidableEq, Repr

/-- `Function`: the count of each group of locals, and the instructions. -/
structure Function where
  locals : List ℕ
  instructions : List Instruction
deriving DecidableEq, Repr

/-- `Module`, with the sections the stack limiter uses; an element segment is
its list of function indices. -/
structure Module where
  typeSection : Option (List FuncType)
  importSection : Option (List TypeRef)
  functionSection : Option (List ℕ)
  globalSection : Option (List Global)
  exportSection : Option (List Export)
  startSection : Option ℕ
  elementSection : Option (List (List ℕ))
  codeSection : Option (List Function)
deriving DecidableEq, Repr

/-- An imported function. -/
def TypeRef.isFunc : TypeRef → Bool
  | .func _ => true
  | _ => false

/-- An imported global. -/
def TypeRef.isGlobal : TypeRef → Bool
  | .global _ => true
  | _ => false

namespace Module

/-- `Module::import_count`. -/
def importCount (module : Module) (pred : TypeRef → Bool) : ℕ :=
  (module.importSection.getD []).countP pred

/-- The type indices of the imported functions, in order. -/
def funcImportTypes (module : Module) : List ℕ :=
  (module.importSection.getD []).filterMap fun
    | .func typeIndex => some typeIndex
    | _ => none

/-- `Module::functions_space`: imported functions first, then the defined ones. -/
def functionsSpace (module : Module) : ℕ :=
  module.importCount TypeRef.isFunc + (module.functionSection.getD []).length

/-- `Module::globals_space`: imported globals first, then the defined ones. -/
def globalsSpace (module : Module) : ℕ :=
  module.importCount TypeRef.isGlobal + (module.globalSection.getD []).length

/-! ### `ModuleBuilder` -/

/-- `ModuleBuilder::push_type`: the index of an equal type if there is one,
otherwise of the type appended. -/
def pushType (module : Module) (ty : FuncType) : Module × ℕ :=
  let types := module.typeSection.getD []
  match types.idxOf? ty with
  | some pos => (module, pos)
  | none => ({ module with typeSection := some (types ++ [ty]) }, types.length)

/-- `ModuleBuilder::add_func`: the index returned is in the function section,
not in the function index space. -/
def addFunc (module : Module) (ty : FuncType) (function : Function) : Module × ℕ :=
  let (module, typeIdx) := module.pushType ty
  let funcs := module.functionSection.getD []
  ({ module with
      functionSection := some (funcs ++ [typeIdx])
      codeSection := some (module.codeSection.getD [] ++ [function]) },
    funcs.length)

/-- `ModuleBuilder::push_global`: the index returned is in the global section,
not in the global index space. -/
def pushGlobal (module : Module) (global : Global) : Module × ℕ :=
  let globals := module.globalSection.getD []
  ({ module with globalSection := some (globals ++ [global]) }, globals.length)

/-- `ModuleBuilder::push_export`. -/
def pushExport (module : Module) (entry : Export) : Module :=
  { module with exportSection := some (module.exportSection.getD [] ++ [entry]) }

end Module

/-- `resolve_func_type`: the type of a function of the function index space,
imports first. -/
def resolveFuncType (module : Module) (funcIdx : ℕ) : Except String FuncType := do
  let types := module.typeSection.getD []
  let functions := module.functionSection.getD []
  let funcImports := module.importCount TypeRef.isFunc
  let sigIdx ← if funcIdx < funcImports then
      match module.funcImportTypes[funcIdx]? with
      | some sigIdx => pure sigIdx
      -- the source's `expect`: there are `funcImports` function imports
      | none => throw "nth function import must be Some"
    else
      match functions[funcIdx - funcImports]? with
      | some sigIdx => pure sigIdx
      | none => throw "Function at the specified index is not defined"
  match types[sigIdx]? with
  | some ty => pure ty
  | none => throw "The signature as specified by a function isn't defined"

end Gear.StackLimiter
