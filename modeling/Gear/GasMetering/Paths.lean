import Gear.GasMetering.Counter
import Gear.Lib.Nesting

/-!
# Paths through a metered body

A path through a function body is what its structured control flow can do
when every `if`, `br_if` and `br_table` decision is left open: `walk` follows
the body from its first instruction, taking the decisions from a list, and
records the instructions executed. A `br` to a `block` or an `if` continues
after the target's `end`; one to a `loop` continues at the loop's first
instruction, where metering put the loop's gas call; a branch to the
function's own label, `return` and the function's final `end` end the path
normally, and `unreachable` traps.

Running the instrumented body and the original on the same decisions gives
the gas that the path charges and the cost of the instructions it executes.
The insertion itself is exact: removing the inserted `I32Const; Call gas`
pairs gives the original body back (`strip_injectCounter`). The blocks
are not: inside a loop, a `block` merged into the loop's metered block that
branches back to the loop leaves the instructions after the `block` charged at
the loop's start, so an iteration that takes the branch pays for them without
executing them (`loop_back_edge_overcharged`). The module documentation of
`inject` promises the opposite: instructions that are not executed are not
charged for unless execution traps.
-/

namespace Gear.GasMetering

open Nesting (Ending)

/-! ## The structure of a body -/

/-- How each instruction nests: `block`, `loop` and `if` open a block, `else`
separates the arms of an `if`, `end` closes. -/
def bracket : Instruction → Nesting.Bracket
  | .block | .loop | .if_ => .opens
  | .else_ => .separates
  | .end_ => .closes
  | _ => .neither

/-- The `end` of the block opened at `pos`. -/
def matchingEnd (body : List Instruction) (pos : ℕ) : Option ℕ :=
  Nesting.matchingEnd bracket body pos

/-- The `else` of the `if` at `pos`, if it has one. -/
def matchingElse (body : List Instruction) (pos : ℕ) : Option ℕ :=
  Nesting.matchingElse bracket body pos

/-- A label of the control stack: where a branch to it continues. -/
structure Label where
  isLoop : Bool
  start : ℕ
  endPos : ℕ
deriving DecidableEq, Repr

/-- A branch to the label at depth `d`: the position and labels it continues
with, `some none` if it leaves the function, `none` if there is no such
label. -/
def jump (labels : List Label) (d : ℕ) : Option (Option (ℕ × List Label)) :=
  match labels[d]? with
  | none => none
  | some target =>
    if target.isLoop then some (some (target.start, labels.drop d))
    else match labels.drop (d + 1) with
      | [] => some none
      | rest => some (some (target.endPos + 1, rest))

/-- Follow `body` from `pc` for at most `fuel` instructions, deciding the
conditionals by `choices`: the instructions executed, and how the path ends. -/
def walk (body : List Instruction) : ℕ → List ℕ → ℕ → List Label → List Instruction × Ending
  | 0, _, _, _ => ([], .stuck)
  | fuel + 1, choices, pc, labels =>
    match body[pc]? with
    | none => ([], .stuck)
    | some instruction =>
      let next : List Instruction × Ending :=
        match instruction with
        | .block =>
          match matchingEnd body pc with
          | some e => walk body fuel choices (pc + 1) (⟨false, 0, e⟩ :: labels)
          | none => ([], .stuck)
        | .loop =>
          match matchingEnd body pc with
          | some e => walk body fuel choices (pc + 1) (⟨true, pc + 1, e⟩ :: labels)
          | none => ([], .stuck)
        | .if_ =>
          match matchingEnd body pc, choices with
          | some e, c :: cs =>
            if c ≠ 0 then walk body fuel cs (pc + 1) (⟨false, 0, e⟩ :: labels)
            else match matchingElse body pc with
              | some el => walk body fuel cs (el + 1) (⟨false, 0, e⟩ :: labels)
              | none => walk body fuel cs e (⟨false, 0, e⟩ :: labels)
          | _, _ => ([], .stuck)
        | .else_ =>
          -- the end of the `then` arm: on to the `if`'s `end`
          match labels with
          | l :: _ => walk body fuel choices l.endPos labels
          | [] => ([], .stuck)
        | .end_ =>
          match labels with
          | [_] => ([], .normal)
          | _ :: rest => walk body fuel choices (pc + 1) rest
          | [] => ([], .stuck)
        | .br d =>
          match jump labels d with
          | some (some (pc', labels')) => walk body fuel choices pc' labels'
          | some none => ([], .normal)
          | none => ([], .stuck)
        | .brIf d =>
          match choices with
          | c :: cs =>
            if c ≠ 0 then
              match jump labels d with
              | some (some (pc', labels')) => walk body fuel cs pc' labels'
              | some none => ([], .normal)
              | none => ([], .stuck)
            else walk body fuel cs (pc + 1) labels
          | [] => ([], .stuck)
        | .brTable targets default =>
          match choices with
          | c :: cs =>
            match jump labels (targets[c]?.getD default) with
            | some (some (pc', labels')) => walk body fuel cs pc' labels'
            | some none => ([], .normal)
            | none => ([], .stuck)
          | [] => ([], .stuck)
        | .return_ => ([], .normal)
        | .unreachable => ([], .trap)
        | _ => walk body fuel choices (pc + 1) labels
      (instruction :: next.1, next.2)

/-- A path from the function's entry: the function's own label ends at its
final `end`. -/
def runPath (body : List Instruction) (fuel : ℕ) (choices : List ℕ) : List Instruction × Ending :=
  walk body fuel choices 0 [⟨false, 0, body.length - 1⟩]

/-- The gas a sequence of executed instructions charges: the arguments of the
`I32Const; Call gas` pairs. -/
def gasCharged (gasFunc : ℕ) : List Instruction → ℕ
  | .i32Const c :: .call f :: rest =>
    if f = gasFunc then c + gasCharged gasFunc rest else gasCharged gasFunc (.call f :: rest)
  | _ :: rest => gasCharged gasFunc rest
  | [] => 0

/-- What the rules price a sequence of executed instructions at. -/
def actualCost (rules : Rules) (executed : List Instruction) : ℕ :=
  (executed.map fun i => (rules.instructionCost i).getD 0).sum

/-! ## Removing the gas calls -/

/-- The body without its `I32Const; Call gas` pairs. -/
def strip (gasFunc : ℕ) : List Instruction → List Instruction
  | .i32Const c :: .call f :: rest =>
    if f = gasFunc then strip gasFunc rest else .i32Const c :: strip gasFunc (.call f :: rest)
  | i :: rest => i :: strip gasFunc rest
  | [] => []

theorem strip_gasCall_append (gasFunc c : ℕ) (l : List Instruction) :
    strip gasFunc (.i32Const c :: .call gasFunc :: l) = strip gasFunc l := by
  simp [strip]

theorem strip_insertGasCall_append (block : MeteredBlock) (gasFunc : ℕ) (l : List Instruction) :
    strip gasFunc (insertGasCall block gasFunc ++ l) = strip gasFunc l := by
  unfold insertGasCall
  rw [List.append_assoc]
  -- the `u32::MAX` charges first, one pair each, then the remainder's pair
  have hrem : strip gasFunc ((if block.cost.accumulator ≠ 0 then
      [.i32Const block.cost.accumulator, .call gasFunc] else []) ++ l) = strip gasFunc l := by
    split
    · exact strip_gasCall_append gasFunc _ l
    · rfl
  induction block.cost.overflows with
  | zero => simpa using hrem
  | succ n ih =>
    rw [List.replicate_succ, List.flatten_cons, List.append_assoc]
    simpa [strip_gasCall_append] using ih

/-- An instruction that is not a gas call stays in front of the rest, if the
rest does not start with a gas call. -/
theorem strip_cons {gasFunc : ℕ} {i : Instruction} {l : List Instruction}
    (hi : i ≠ .call gasFunc) (hl : l.head? ≠ some (.call gasFunc)) :
    strip gasFunc (i :: l) = i :: strip gasFunc l := by
  cases i with
  | i32Const c =>
    cases l with
    | nil => rfl
    | cons j l =>
      cases j with
      | call f =>
        have hf : f ≠ gasFunc := fun h => hl (by rw [h]; rfl)
        simp [strip, hf]
      | _ => rfl
  | call f =>
    cases l with
    | nil => rfl
    | cons j l => rfl
  | _ => cases l <;> rfl

theorem insertGasCall_head (block : MeteredBlock) (gasFunc : ℕ) (l : List Instruction)
    (hl : l.head? ≠ some (.call gasFunc)) :
    (insertGasCall block gasFunc ++ l).head? ≠ some (.call gasFunc) := by
  unfold insertGasCall
  cases h : block.cost.overflows with
  | zero =>
    simp only [List.replicate_zero, List.flatten_nil, List.nil_append]
    split
    · simp
    · simpa using hl
  | succ n => simp [List.replicate_succ]

/-- Removing the inserted pairs gives the original body back, and the output
never starts with a gas call. -/
theorem strip_insertCalls {gasFunc : ℕ} :
    ∀ (pos : ℕ) (body : List Instruction) (blocks : List MeteredBlock) (out : List Instruction),
      (∀ i ∈ body, i ≠ .call gasFunc) → insertCalls gasFunc pos body blocks = .ok out →
      strip gasFunc out = body ∧ out.head? ≠ some (.call gasFunc) := by
  intro pos body
  induction body generalizing pos with
  | nil =>
    intro blocks out _ h
    cases blocks with
    | nil =>
      cases h
      exact ⟨rfl, by simp⟩
    | cons b bs => cases h
  | cons i rest ih =>
    intro blocks out hbody h
    have hi : i ≠ .call gasFunc := hbody i List.mem_cons_self
    have hrest : ∀ j ∈ rest, j ≠ .call gasFunc := fun j hj => hbody j (List.mem_cons_of_mem i hj)
    -- the tail is instrumented the same way, whether or not a block starts here
    have hcons : ∀ bs out', insertCalls gasFunc (pos + 1) rest bs = .ok out' →
        strip gasFunc (i :: out') = i :: rest ∧ (i :: out').head? ≠ some (.call gasFunc) := by
      intro bs out' h'
      obtain ⟨hs, hh⟩ := ih (pos + 1) bs out' hrest h'
      exact ⟨by rw [strip_cons hi hh, hs], by simpa using hi⟩
    cases blocks with
    | nil =>
      simp only [insertCalls] at h
      cases h' : insertCalls gasFunc (pos + 1) rest [] with
      | error e => rw [h'] at h; cases h
      | ok out' =>
        rw [h'] at h
        cases h
        exact hcons [] out' h'
    | cons b bs =>
      simp only [insertCalls] at h
      split at h
      · cases h' : insertCalls gasFunc (pos + 1) rest bs with
        | error e => rw [h'] at h; cases h
        | ok out' =>
          rw [h'] at h
          cases h
          obtain ⟨hs, hh⟩ := hcons bs out' h'
          exact ⟨by rw [strip_insertGasCall_append, hs], insertGasCall_head b gasFunc _ hh⟩
      · cases h' : insertCalls gasFunc (pos + 1) rest (b :: bs) with
        | error e => rw [h'] at h; cases h
        | ok out' =>
          rw [h'] at h
          cases h
          exact hcons (b :: bs) out' h'

/-- `inject_counter` only inserts gas calls: removing them gives the
original body, if it did not call the gas function itself. -/
theorem strip_injectCounter {body out : List Instruction} {rules : Rules} {localsCount gasFunc : ℕ}
    (hbody : ∀ i ∈ body, i ≠ .call gasFunc)
    (h : injectCounter body rules localsCount gasFunc = .ok out) : strip gasFunc out = body := by
  unfold injectCounter at h
  cases hb : determineMeteredBlocks body rules localsCount with
  | error e => rw [hb] at h; cases h
  | ok blocks =>
    rw [hb] at h
    exact (strip_insertCalls 0 body blocks out hbody h).1

/-! ## A branch back to the loop from a merged block -/

/-- Every instruction at `1`, except `else` and `end`, which metering never
charges for. -/
def unitCostRules : Rules where
  instructionCost i := match i with
    | .else_ | .end_ => some 0
    | _ => some 1
  callPerLocalCost := 0
  instructionCost_lt i c h := by cases i <;> simp at h <;> omega
  callPerLocalCost_lt := by decide

/-- The body of a function of one `i32` parameter:
`loop (block (local.get 0) (br_if 1) end) nop end end`, with `local.get 0` as
`other 0` and `nop` as `other 1`. -/
def continueFromBlock : List Instruction :=
  [.loop, .block, .other 0, .brIf 1, .end_, .other 1, .end_, .end_]

/-- The path that branches back to the loop once and then leaves it executes
eight priced instructions and is charged nine: the `nop` after the `block`
was merged into the loop's metered block, which the back edge charges again. -/
theorem loop_back_edge_overcharged :
    ∃ out, injectCounter continueFromBlock unitCostRules 0 7 = .ok out ∧
      (runPath continueFromBlock 20 [1, 0]).2 = .normal ∧ (runPath out 20 [1, 0]).2 = .normal ∧
      strip 7 (runPath out 20 [1, 0]).1 = (runPath continueFromBlock 20 [1, 0]).1 ∧
      actualCost unitCostRules (runPath continueFromBlock 20 [1, 0]).1 = 8 ∧
      gasCharged 7 (runPath out 20 [1, 0]).1 = 9 := by
  refine ⟨[.i32Const 1, .call 7, .loop, .i32Const 4, .call 7, .block, .other 0, .brIf 1, .end_,
    .other 1, .end_, .end_], ?_, ?_, ?_, ?_, ?_, ?_⟩ <;> decide

end Gear.GasMetering
