import Gear.StackLimiter.MaxHeight
import Gear.Lib.Nesting

/-!
# The heights an execution reaches

What the counter is for: a bound on the value stack of every execution of the
function. `exec` follows a body's structured control flow, taking the
decisions of `if`, `br_if` and `br_table` from a list, and records the height
of the function's value stack after each instruction it executes. Heights
come from Wasm's typing of each instruction, not from the counter: a block
starts at the height it was entered at, an `end` leaves its start height plus
its results, and a branch leaves the target's start height plus what the
target takes, whatever stood on the stack before. The `else` arm of an `if`
starts from the `if`'s height.

The counter does not reset the height at `else`, and keeps the `if` frame's
polymorphic flag. After a `then` arm that ends in `unreachable`, `br`,
`br_table` or `return`, it measures nothing of the `else` arm
(`else_arm_unmeasured` in `Inject`).
-/

namespace Gear.StackLimiter

open Nesting (Ending)

/-- How each instruction nests. -/
def bracket : Instruction → Nesting.Bracket
  | .block _ | .loop _ | .if_ _ => .opens
  | .else_ => .separates
  | .end_ => .closes
  | _ => .neither

/-- The values an instruction that does not transfer control pops and then
pushes, by its Wasm type; `none` for the control instructions and for a call
of a function or type the module does not have. -/
def valueEffect (module : Module) : Instruction → Option (ℕ × ℕ)
  | .call f =>
    match resolveFuncType module f with
    | .ok ty => some (ty.params.length, ty.results.length)
    | .error _ => none
  | .callIndirect t =>
    ((module.typeSection.getD [])[t]?).map fun ty => (ty.params.length + 1, ty.results.length)
  | .nop => some (0, 0)
  | .drop => some (1, 0)
  | .select => some (3, 1)
  | .localGet _ | .globalGet _ | .memorySize | .i32Const _ | .i64Const _ => some (0, 1)
  | .localSet _ | .globalSet _ => some (1, 0)
  | .localTee _ | .load | .memoryGrow | .eqz | .unary | .convert | .extend => some (1, 1)
  | .store => some (2, 0)
  | .compare | .i32GtU | .i32Add | .i32Sub | .binary => some (2, 1)
  | _ => none

/-- A label of the control stack: where a branch to it continues, and the
height it leaves. -/
structure Label where
  isLoop : Bool
  start : ℕ
  endPos : ℕ
  height : ℕ
  branchArity : ℕ
  endArity : ℕ
deriving DecidableEq, Repr

/-- A branch to the label at depth `d`: the position, labels and height it
continues with, `some none` if it leaves the function, `none` if there is no
such label. -/
def branch (labels : List Label) (d : ℕ) : Option (Option (ℕ × List Label × ℕ)) :=
  match labels[d]? with
  | none => none
  | some target =>
    if target.isLoop then
      some (some (target.start, labels.drop d, target.height + target.branchArity))
    else match labels.drop (d + 1) with
      | [] => some none
      | rest => some (some (target.endPos + 1, rest, target.height + target.branchArity))

/-- Follow `body` from `pc` at `height` for at most `fuel` instructions,
deciding the conditionals by `choices`: the height after each executed
instruction, and how the path ends. -/
def exec (module : Module) (body : List Instruction) :
    ℕ → List ℕ → ℕ → List Label → ℕ → List ℕ × Ending
  | 0, _, _, _, _ => ([], .stuck)
  | fuel + 1, choices, pc, labels, height =>
    -- `after h r`: the instruction leaves height `h`, and the path goes on as `r`
    let after (h : ℕ) (r : List ℕ × Ending) : List ℕ × Ending := (h :: r.1, r.2)
    -- a branch taken: on at the target, with the target's height
    let taken (cs : List ℕ) : Option (Option (ℕ × List Label × ℕ)) → List ℕ × Ending
      | some (some (pc', labels', h')) => after h' (exec module body fuel cs pc' labels' h')
      | some none => ([height], .normal)
      | none => ([], .stuck)
    match body[pc]? with
    | none => ([], .stuck)
    | some (.block ty) =>
      match Nesting.matchingEnd bracket body pc with
      | some e =>
        after height (exec module body fuel choices (pc + 1)
          (⟨false, 0, e, height, ty.arity, ty.arity⟩ :: labels) height)
      | none => ([], .stuck)
    | some (.loop ty) =>
      match Nesting.matchingEnd bracket body pc with
      | some e =>
        after height (exec module body fuel choices (pc + 1)
          (⟨true, pc + 1, e, height, 0, ty.arity⟩ :: labels) height)
      | none => ([], .stuck)
    | some (.if_ ty) =>
      match Nesting.matchingEnd bracket body pc, choices with
      | some e, c :: cs =>
        let label : Label := ⟨false, 0, e, height - 1, ty.arity, ty.arity⟩
        -- the `else` arm, or the `end` if there is none, starts at the `if`'s height
        let next := if c ≠ 0 then pc + 1
          else (Nesting.matchingElse bracket body pc).elim e (· + 1)
        after (height - 1) (exec module body fuel cs next (label :: labels) (height - 1))
      | _, _ => ([], .stuck)
    | some .else_ =>
      -- the end of the `then` arm: on to the `if`'s `end`
      match labels with
      | l :: _ => after height (exec module body fuel choices l.endPos labels height)
      | [] => ([], .stuck)
    | some .end_ =>
      match labels with
      | [l] => ([l.height + l.endArity], .normal)
      | l :: rest =>
        after (l.height + l.endArity)
          (exec module body fuel choices (pc + 1) rest (l.height + l.endArity))
      | [] => ([], .stuck)
    | some (.br d) => taken choices (branch labels d)
    | some (.brIf d) =>
      match choices with
      | c :: cs =>
        if c ≠ 0 then taken cs (branch labels d)
        else after (height - 1) (exec module body fuel cs (pc + 1) labels (height - 1))
      | [] => ([], .stuck)
    | some (.brTable targets default) =>
      match choices with
      | c :: cs => taken cs (branch labels (targets[c]?.getD default))
      | [] => ([], .stuck)
    | some .return_ => ([height], .normal)
    | some .unreachable => ([height], .trap)
    | some instruction =>
      match valueEffect module instruction with
      | some (pops, pushes) =>
        after (height - pops + pushes)
          (exec module body fuel choices (pc + 1) labels (height - pops + pushes))
      | none => ([], .stuck)

/-- An execution from the function's entry, at height `0`: the function's own
label ends at its final `end` and leaves its results. -/
def runHeights (module : Module) (funcSignature : FuncType) (body : List Instruction)
    (fuel : ℕ) (choices : List ℕ) : List ℕ × Ending :=
  exec module body fuel choices 0
    [⟨false, 0, body.length - 1, 0, funcSignature.results.length, funcSignature.results.length⟩] 0

end Gear.StackLimiter
