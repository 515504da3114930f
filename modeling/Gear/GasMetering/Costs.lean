import Gear.GasMetering.Counter

/-!
# Block costs are exact

`BlockCostCounter` sums the cost of a metered block in `u32` pieces: a count of
whole `u32::MAX` charges and a `u32` remainder. `increment` adds a `u32` cost
and, when the remainder would overflow, moves one `u32::MAX` into the count;
`add` merges the counter of an inner block. Nothing is lost on the way:

> `total_increment`, `total_add`: the value the counter represents grows by
> exactly what is added, and the remainder stays a `u32`.

`insert_gas_call` then charges a block with `costs_num` calls of the gas
function, one of `u32::MAX` per overflow and one for a non-zero remainder,
whose arguments sum to the represented value (`insertGasCall_eq_gasCalls`).

The count of overflows is a natural here (`Gear.GasMetering.Counter`); the
source's `usize` saturates, which its documentation rules out for any module
that can be allocated.
-/

namespace Gear.GasMetering

namespace BlockCostCounter

/-- A counter whose remainder is a `u32`, as the source's field is. -/
def Fits (b : BlockCostCounter) : Prop := b.accumulator < 2 ^ 32

instance : DecidablePred Fits := fun b => inferInstanceAs (Decidable (b.accumulator < 2 ^ 32))

theorem fits_zero : zero.Fits := by decide

@[simp] theorem total_zero : zero.total = 0 := rfl

/-- The wrap-around branch keeps the value: `val - (u32::MAX - accumulator)` is
what is left of the sum once one `u32::MAX` is counted. -/
theorem total_increment {b : BlockCostCounter} (hb : b.Fits) (val : ℕ) :
    (b.increment val).total = b.total + val := by
  unfold Fits at hb
  unfold increment total u32Max
  split
  · dsimp only
    omega
  · next hover =>
    -- `checked_add` failed, so `val` is larger than `u32::MAX - accumulator`
    dsimp only
    rw [Nat.succ_mul]
    omega

theorem fits_increment (b : BlockCostCounter) {val : ℕ} (hval : val < 2 ^ 32) :
    (b.increment val).Fits := by
  unfold increment Fits
  split
  · assumption
  · dsimp only
    omega

theorem total_add {b : BlockCostCounter} (hb : b.Fits) (c : BlockCostCounter) :
    (b.add c).total = b.total + c.total := by
  unfold add
  have hb' : Fits { b with overflows := b.overflows + c.overflows } := hb
  rw [total_increment hb']
  unfold total
  dsimp only
  rw [Nat.add_mul]
  omega

theorem fits_add (b : BlockCostCounter) {c : BlockCostCounter} (hc : c.Fits) :
    (b.add c).Fits :=
  fits_increment _ hc

end BlockCostCounter

/-! ## Runs of the counter -/

/-- A call on the counter of a block: `increment` by a cost, or `add` of an
inner block's counter. -/
inductive CostCall
  | increment (val : ℕ)
  | add (counter : BlockCostCounter)
deriving DecidableEq, Repr

namespace CostCall

/-- The call on a counter. -/
def apply (b : BlockCostCounter) : CostCall → BlockCostCounter
  | increment val => b.increment val
  | add c => b.add c

/-- What the call adds: the cost, or the value the other counter represents. -/
def amount : CostCall → ℕ
  | increment val => val
  | add c => c.total

/-- The call's argument is of the source's type: a `u32` cost, or a counter
with a `u32` remainder. -/
def Fits : CostCall → Prop
  | increment val => val < 2 ^ 32
  | add c => c.Fits

instance : DecidablePred Fits
  | increment val => inferInstanceAs (Decidable (val < 2 ^ 32))
  | add c => inferInstanceAs (Decidable c.Fits)

theorem total_apply {b : BlockCostCounter} (hb : b.Fits) (call : CostCall) :
    (apply b call).total = b.total + call.amount := by
  cases call with
  | increment val => exact BlockCostCounter.total_increment hb val
  | add c => exact BlockCostCounter.total_add hb c

theorem fits_apply (b : BlockCostCounter) {call : CostCall} (hcall : call.Fits) :
    (apply b call).Fits := by
  cases call with
  | increment val => exact BlockCostCounter.fits_increment b hcall
  | add c => exact BlockCostCounter.fits_add b hcall

/-- Over a run of calls with `u32` arguments the counter stays a `u32`
remainder and represents what it started with plus every call's amount. -/
theorem foldl_apply {b : BlockCostCounter} (hb : b.Fits) :
    ∀ {calls : List CostCall}, (∀ call ∈ calls, call.Fits) →
      (calls.foldl apply b).Fits ∧ (calls.foldl apply b).total = b.total + (calls.map amount).sum
  | [], _ => ⟨hb, by simp⟩
  | call :: calls, hcalls => by
    have hcall : call.Fits := hcalls call List.mem_cons_self
    have ih := foldl_apply (fits_apply b hcall) fun c hc => hcalls c (List.mem_cons_of_mem _ hc)
    rw [List.foldl_cons, List.map_cons, List.sum_cons, ih.2, total_apply hb]
    exact ⟨ih.1, by omega⟩

end CostCall

/-! ## The gas calls of a block -/

/-- The code of a sequence of calls of the gas function with the given
arguments. -/
def gasCalls (gasFunc : ℕ) (args : List ℕ) : List Instruction :=
  (args.map fun a => [.i32Const a, .call gasFunc]).flatten

/-- `insert_gas_call` emits the gas calls of the `u32::MAX` charges, then of
the remainder if it is not zero. -/
theorem insertGasCall_eq_gasCalls (block : MeteredBlock) (gasFunc : ℕ) :
    insertGasCall block gasFunc =
      gasCalls gasFunc (List.replicate block.cost.overflows u32Max ++
        if block.cost.accumulator ≠ 0 then [block.cost.accumulator] else []) := by
  unfold insertGasCall gasCalls
  rw [List.map_append, List.flatten_append, List.map_replicate]
  split <;> rfl

/-- A block is charged with `costs_num` gas calls of `u32` arguments, which sum
to the value its counter represents. -/
theorem insertGasCall_charges (block : MeteredBlock) (gasFunc : ℕ) (hb : block.cost.Fits) :
    ∃ args : List ℕ, insertGasCall block gasFunc = gasCalls gasFunc args ∧
      args.length = block.cost.costsNum ∧ args.sum = block.cost.total ∧ ∀ a ∈ args, a < 2 ^ 32 := by
  refine ⟨_, insertGasCall_eq_gasCalls block gasFunc, ?_, ?_, ?_⟩
  · unfold BlockCostCounter.costsNum
    split <;> simp [*]
  · unfold BlockCostCounter.total
    split
    · simp [Nat.mul_comm]
    · next h => simp [not_not.1 h, Nat.mul_comm]
  · intro a ha
    simp only [List.mem_append, List.mem_replicate] at ha
    rcases ha with ⟨-, rfl⟩ | ha
    · decide
    · split at ha
      · rw [List.mem_singleton.1 ha]
        exact hb
      · simp at ha

/-- The counter of a block, built from `BlockCostCounter::zero()` by any calls
of `increment` with `u32` costs and of `add` with counters of `u32` remainders,
represents exactly the sum of what was added, and `insert_gas_call` charges it
with `costs_num` gas calls whose `u32` arguments sum to that. -/
theorem block_cost_counter_exact (calls : List CostCall) (hcalls : ∀ call ∈ calls, call.Fits)
    (startPos gasFunc : ℕ) :
    let b := calls.foldl CostCall.apply .zero
    b.overflows * u32Max + b.accumulator = (calls.map CostCall.amount).sum ∧ b.accumulator < 2 ^ 32 ∧
      ∃ args : List ℕ, insertGasCall ⟨startPos, b⟩ gasFunc = gasCalls gasFunc args ∧
        args.length = b.costsNum ∧ args.sum = (calls.map CostCall.amount).sum ∧
        ∀ a ∈ args, a < 2 ^ 32 := by
  intro b
  obtain ⟨hfits, htotal⟩ := CostCall.foldl_apply BlockCostCounter.fits_zero hcalls
  rw [BlockCostCounter.total_zero, Nat.zero_add] at htotal
  obtain ⟨args, hcode, hlen, hsum, hargs⟩ := insertGasCall_charges ⟨startPos, b⟩ gasFunc hfits
  exact ⟨htotal, hfits, args, hcode, hlen, hsum.trans htotal, hargs⟩

/-- The source's `cost_overflow` test: three instructions of cost
`u32::MAX / 2` in one block are one `u32::MAX` charge and a remainder of
`u32::MAX / 2 - 1`. -/
theorem block_cost_counter_exact_cost_overflow :
    (∀ call ∈ List.replicate 3 (CostCall.increment 2147483647), call.Fits) ∧
    let b := (List.replicate 3 (CostCall.increment 2147483647)).foldl CostCall.apply .zero
    b.overflows * u32Max + b.accumulator =
        ((List.replicate 3 (CostCall.increment 2147483647)).map CostCall.amount).sum ∧
      b.accumulator < 2 ^ 32 ∧
      ∃ args : List ℕ, insertGasCall ⟨0, b⟩ 0 = gasCalls 0 args ∧
        args.length = b.costsNum ∧
        args.sum = ((List.replicate 3 (CostCall.increment 2147483647)).map CostCall.amount).sum ∧
        ∀ a ∈ args, a < 2 ^ 32 :=
  have h : ∀ call ∈ List.replicate 3 (CostCall.increment 2147483647), call.Fits := by decide
  ⟨h, block_cost_counter_exact _ h 0 0⟩

example : (List.replicate 3 (CostCall.increment 2147483647)).foldl CostCall.apply .zero =
    ⟨1, 2147483646⟩ := by decide

end Gear.GasMetering
