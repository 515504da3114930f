import Mathlib

/-!
# The gas counters of an execution

`GasCounter` and `GasAllowanceCounter` (`gear_core::gas`) count down the gas
of the message and the gas the block still allows. The processor's `Ext` also
keeps which of the two the program's gas global stands for, the current
counter, and keeps the counters in step with the global through
`CountersOwner`: after each syscall `define_current_counter` returns the
smaller of the two, which the backend writes to the global; Wasm code only
lowers the global; at the start of the next syscall
`decrease_current_counter_to` charges both counters with what the global
lost.

Both counters are `u64`s, kept as naturals with their bound as a field.
`GasAllowanceCounter` holds a `u128`, but it is built from a `u64` and only
ever charged, so it stays within `u64` and the cast of `left` is the identity.
The gas burned is a natural: nothing here reads it, and its overflow is not
modelled.

The backend's side (`FuncsHandler::execute`, `MemoryCallerContext::run_any`)
is a step relation on the counters and the global: Wasm execution lowers the
global; a syscall is a decrease to the global, a body that may change the
counters in any way, and a definition of the current counter, which the
global then takes. The invariant is that the current counter is the smaller
one (`CurrentIsSmaller`): a definition makes it so, and a decrease charges
both counters alike. Along every run no decrease reaches one of its three
`unreachable!` branches, and each charges both counters with exactly what
the global lost (`backend_decrease_exact`).
-/

namespace Gear.Processor

/-- `u64::MAX`. -/
def u64Max : ℕ := 2 ^ 64 - 1

/-- `u64::checked_sub`. -/
def checkedSub (a b : ℕ) : Option ℕ := if b ≤ a then some (a - b) else none

/-- `ChargeResult`. -/
inductive ChargeResult
  | enough
  | notEnough
deriving DecidableEq, Repr

/-- `ChargeError`. -/
inductive ChargeError
  | gasLimitExceeded
  | gasAllowanceExceeded
deriving DecidableEq, Repr

/-! ## The two counters -/

/-- `GasCounter`: the gas left, a `u64`, and the gas burned. -/
structure GasCounter where
  left : ℕ
  burned : ℕ
  left_le : left ≤ u64Max

namespace GasCounter

/-- `GasCounter::new`. -/
def new (initialAmount : ℕ) (h : initialAmount ≤ u64Max) : GasCounter := ⟨initialAmount, 0, h⟩

/-- `charge`: saturating; when the gas left does not suffice, all of it is
burned. -/
def charge (c : GasCounter) (amount : ℕ) : ChargeResult × GasCounter :=
  if amount ≤ c.left then
    (.enough, ⟨c.left - amount, c.burned + amount, (Nat.sub_le _ _).trans c.left_le⟩)
  else (.notEnough, ⟨0, c.burned + c.left, Nat.zero_le _⟩)

/-- `charge_if_enough`: nothing happens when the gas left does not suffice. -/
def chargeIfEnough (c : GasCounter) (amount : ℕ) : ChargeResult × GasCounter :=
  if amount ≤ c.left then
    (.enough, ⟨c.left - amount, c.burned + amount, (Nat.sub_le _ _).trans c.left_le⟩)
  else (.notEnough, c)

/-- `increase`: `checked_add` on the gas left; the gas burned stays. -/
def increase (c : GasCounter) (amount : ℕ) : Bool × GasCounter :=
  if h : c.left + amount ≤ u64Max then (true, ⟨c.left + amount, c.burned, h⟩) else (false, c)

/-- `reduce`: the gas left only, as gas sent or reserved is not burned. -/
def reduce (c : GasCounter) (amount : ℕ) : ChargeResult × GasCounter :=
  if amount ≤ c.left then
    (.enough, ⟨c.left - amount, c.burned, (Nat.sub_le _ _).trans c.left_le⟩)
  else (.notEnough, c)

variable {c : GasCounter} {amount : ℕ}

theorem charge_of_le (h : amount ≤ c.left) :
    c.charge amount =
      (.enough, ⟨c.left - amount, c.burned + amount, (Nat.sub_le _ _).trans c.left_le⟩) :=
  if_pos h

theorem charge_of_lt (h : c.left < amount) :
    c.charge amount = (.notEnough, ⟨0, c.burned + c.left, Nat.zero_le _⟩) :=
  if_neg (Nat.not_le_of_lt h)

theorem chargeIfEnough_of_le (h : amount ≤ c.left) :
    c.chargeIfEnough amount =
      (.enough, ⟨c.left - amount, c.burned + amount, (Nat.sub_le _ _).trans c.left_le⟩) :=
  if_pos h

theorem chargeIfEnough_of_lt (h : c.left < amount) : c.chargeIfEnough amount = (.notEnough, c) :=
  if_neg (Nat.not_le_of_lt h)

theorem reduce_of_le (h : amount ≤ c.left) :
    c.reduce amount = (.enough, ⟨c.left - amount, c.burned, (Nat.sub_le _ _).trans c.left_le⟩) :=
  if_pos h

theorem reduce_of_lt (h : c.left < amount) : c.reduce amount = (.notEnough, c) :=
  if_neg (Nat.not_le_of_lt h)

theorem increase_of_le (h : c.left + amount ≤ u64Max) :
    c.increase amount = (true, ⟨c.left + amount, c.burned, h⟩) :=
  dif_pos h

/-- A `reduce` that succeeds takes the amount off the gas left. -/
theorem reduce_eq_enough {c' : GasCounter} (h : c.reduce amount = (.enough, c')) :
    amount ≤ c.left ∧ c'.left = c.left - amount ∧ c'.burned = c.burned := by
  unfold reduce at h
  split_ifs at h with hle
  · cases h
    exact ⟨hle, rfl, rfl⟩
  · cases h

/-- A `charge_if_enough` that succeeds takes the amount off the gas left and
burns it. -/
theorem chargeIfEnough_eq_enough {c' : GasCounter} (h : c.chargeIfEnough amount = (.enough, c')) :
    amount ≤ c.left ∧ c'.left = c.left - amount ∧ c'.burned = c.burned + amount := by
  unfold chargeIfEnough at h
  split_ifs at h with hle
  · cases h
    exact ⟨hle, rfl, rfl⟩
  · cases h

/-- A `charge` that succeeds takes the amount off the gas left and burns it. -/
theorem charge_eq_enough {c' : GasCounter} (h : c.charge amount = (.enough, c')) :
    amount ≤ c.left ∧ c'.left = c.left - amount ∧ c'.burned = c.burned + amount := by
  unfold charge at h
  split_ifs at h with hle
  · cases h
    exact ⟨hle, rfl, rfl⟩
  · cases h

theorem charge_left_le (c : GasCounter) (amount : ℕ) : (c.charge amount).2.left ≤ c.left := by
  unfold charge
  split_ifs
  · exact Nat.sub_le _ _
  · exact Nat.zero_le _

theorem chargeIfEnough_left_le (c : GasCounter) (amount : ℕ) :
    (c.chargeIfEnough amount).2.left ≤ c.left := by
  unfold chargeIfEnough
  split_ifs
  · exact Nat.sub_le _ _
  · exact le_rfl

end GasCounter

/-- `GasAllowanceCounter`, within `u64` (see the module doc). -/
structure GasAllowanceCounter where
  value : ℕ
  value_le : value ≤ u64Max

namespace GasAllowanceCounter

/-- `GasAllowanceCounter::new`. -/
def new (initialAmount : ℕ) (h : initialAmount ≤ u64Max) : GasAllowanceCounter := ⟨initialAmount, h⟩

/-- `left`. -/
def left (c : GasAllowanceCounter) : ℕ := c.value

/-- `charge`: saturating at zero. -/
def charge (c : GasAllowanceCounter) (amount : ℕ) : ChargeResult × GasAllowanceCounter :=
  if amount ≤ c.value then (.enough, ⟨c.value - amount, (Nat.sub_le _ _).trans c.value_le⟩)
  else (.notEnough, ⟨0, Nat.zero_le _⟩)

/-- `charge_if_enough`. -/
def chargeIfEnough (c : GasAllowanceCounter) (amount : ℕ) : ChargeResult × GasAllowanceCounter :=
  if amount ≤ c.value then (.enough, ⟨c.value - amount, (Nat.sub_le _ _).trans c.value_le⟩)
  else (.notEnough, c)

variable {c : GasAllowanceCounter} {amount : ℕ}

theorem charge_of_le (h : amount ≤ c.left) :
    c.charge amount = (.enough, ⟨c.value - amount, (Nat.sub_le _ _).trans c.value_le⟩) :=
  if_pos h

theorem chargeIfEnough_eq_enough {c' : GasAllowanceCounter}
    (h : c.chargeIfEnough amount = (.enough, c')) : amount ≤ c.left ∧ c'.left = c.left - amount := by
  unfold chargeIfEnough at h
  split_ifs at h with hle
  · cases h
    exact ⟨hle, rfl⟩
  · cases h

end GasAllowanceCounter

/-! ## The counters of `Ext` -/

/-- `CounterType`: what the gas global stands for. -/
inductive CounterType
  | gasLimit
  | gasAllowance
deriving DecidableEq, Repr

/-- The fields of `Ext` that `CountersOwner` reads and writes. -/
structure Counters where
  gasCounter : GasCounter
  gasAllowanceCounter : GasAllowanceCounter
  currentCounter : CounterType

namespace Counters

/-- `Ext::new`: the current counter is the smaller one, the gas counter on a
tie. -/
def new (gasCounter : GasCounter) (gasAllowanceCounter : GasAllowanceCounter) : Counters :=
  ⟨gasCounter, gasAllowanceCounter,
    if gasCounter.left ≤ gasAllowanceCounter.left then .gasLimit else .gasAllowance⟩

/-- `gas_left`. -/
def gasLeft (c : Counters) : ℕ × ℕ := (c.gasCounter.left, c.gasAllowanceCounter.left)

/-- `current_counter_value`. -/
def currentCounterValue (c : Counters) : ℕ :=
  match c.currentCounter with
  | .gasLimit => c.gasLeft.1
  | .gasAllowance => c.gasLeft.2

/-- `charge_gas_for_token`: both counters charged, each saturating, and the
first that does not suffice named. -/
def chargeGasForToken (c : Counters) (amount : ℕ) : Except ChargeError Unit × Counters :=
  let common := c.gasCounter.charge amount
  let allowance := c.gasAllowanceCounter.charge amount
  let c' := { c with gasCounter := common.2, gasAllowanceCounter := allowance.2 }
  match common.1, allowance.1 with
  | .notEnough, _ => (.error .gasLimitExceeded, c')
  | .enough, .notEnough => (.error .gasAllowanceExceeded, c')
  | .enough, .enough => (.ok (), c')

/-- `charge_gas_if_enough`: the gas counter, then the allowance; the gas
counter stays charged when the allowance does not suffice. -/
def chargeGasIfEnough (c : Counters) (amount : ℕ) : Except ChargeError Unit × Counters :=
  let common := c.gasCounter.chargeIfEnough amount
  match common.1 with
  | .notEnough => (.error .gasLimitExceeded, { c with gasCounter := common.2 })
  | .enough =>
    let allowance := c.gasAllowanceCounter.chargeIfEnough amount
    match allowance.1 with
    | .notEnough => (.error .gasAllowanceExceeded, { c with gasCounter := common.2 })
    | .enough => (.ok (), { c with gasCounter := common.2, gasAllowanceCounter := allowance.2 })

/-- The difference `decrease_current_counter_to` computes: `checked_sub` on
the current counter. -/
def currentDiff (c : Counters) (amount : ℕ) : Option ℕ :=
  match c.currentCounter with
  | .gasLimit => checkedSub c.gasLeft.1 amount
  | .gasAllowance => checkedSub c.gasLeft.2 amount

/-- The three `unreachable!` branches of `decrease_current_counter_to`. -/
inductive DecreasePanic
  | checkedSubOverflowed
  | gasLimitBigger
  | gasAllowanceBigger
deriving DecidableEq, Repr

/-- `decrease_current_counter_to`: nothing when the current counter is
already at most the amount; otherwise both counters are charged with what
the current one exceeds it by. -/
def decreaseCurrentCounterTo (c : Counters) (amount : ℕ) : Except DecreasePanic Counters :=
  if c.currentCounterValue ≤ amount then .ok c
  else
    match c.currentDiff amount with
    | none => .error .checkedSubOverflowed
    | some diff =>
      let common := c.gasCounter.charge diff
      if common.1 = .notEnough then .error .gasLimitBigger
      else
        let allowance := c.gasAllowanceCounter.charge diff
        if allowance.1 = .notEnough then .error .gasAllowanceBigger
        else .ok { c with gasCounter := common.2, gasAllowanceCounter := allowance.2 }

/-- `define_current_counter`: the smaller counter becomes the current one,
the gas counter on a tie, and its value is returned. -/
def defineCurrentCounter (c : Counters) : ℕ × Counters :=
  if c.gasLeft.1 ≤ c.gasLeft.2 then (c.gasLeft.1, { c with currentCounter := .gasLimit })
  else (c.gasLeft.2, { c with currentCounter := .gasAllowance })

/-- `charge_gas_for_token` charges the gas counter, whatever it returns. -/
theorem chargeGasForToken_gasCounter (c : Counters) (amount : ℕ) :
    (c.chargeGasForToken amount).2.gasCounter = (c.gasCounter.charge amount).2 := by
  unfold chargeGasForToken
  dsimp only
  split <;> rfl

/-- `charge_gas_if_enough` charges the gas counter when it suffices. -/
theorem chargeGasIfEnough_gasCounter (c : Counters) (amount : ℕ) :
    (c.chargeGasIfEnough amount).2.gasCounter = (c.gasCounter.chargeIfEnough amount).2 := by
  unfold chargeGasIfEnough
  dsimp only
  split
  · rfl
  · split <;> rfl

/-- A `charge_gas_if_enough` that succeeds takes the amount off both
counters and keeps the current counter. -/
theorem chargeGasIfEnough_ok {c c' : Counters} {amount : ℕ}
    (h : c.chargeGasIfEnough amount = (.ok (), c')) :
    c'.gasCounter.left + amount = c.gasCounter.left ∧
      c'.gasAllowanceCounter.left + amount = c.gasAllowanceCounter.left ∧
      c'.currentCounter = c.currentCounter := by
  unfold chargeGasIfEnough at h
  dsimp only at h
  split at h
  · cases h
  · rename_i hgas
    split at h
    · cases h
    · rename_i hall
      cases h
      obtain ⟨hle, hleft, -⟩ := GasCounter.chargeIfEnough_eq_enough (Prod.ext hgas rfl)
      obtain ⟨hle', hleft'⟩ := GasAllowanceCounter.chargeIfEnough_eq_enough (Prod.ext hall rfl)
      exact ⟨by rw [hleft]; omega, by rw [hleft']; omega, rfl⟩

/-- A decrease that does not panic charges the gas counter with at most what
it had. -/
theorem decreaseCurrentCounterTo_left_le {c c' : Counters} {amount : ℕ}
    (h : c.decreaseCurrentCounterTo amount = .ok c') : c'.gasCounter.left ≤ c.gasCounter.left := by
  unfold decreaseCurrentCounterTo at h
  split_ifs at h
  · cases h
    exact le_rfl
  · cases hd : c.currentDiff amount with
    | none =>
      rw [hd] at h
      cases h
    | some diff =>
      rw [hd] at h
      dsimp only at h
      split_ifs at h
      cases h
      exact GasCounter.charge_left_le _ _

/-! ## The current counter is the smaller one -/

/-- What `Ext::new` and `define_current_counter` establish. -/
def CurrentIsSmaller (c : Counters) : Prop :=
  match c.currentCounter with
  | .gasLimit => c.gasCounter.left ≤ c.gasAllowanceCounter.left
  | .gasAllowance => c.gasAllowanceCounter.left ≤ c.gasCounter.left

/-- The current counter is the smaller one: its value is the minimum. -/
theorem CurrentIsSmaller.value_eq {c : Counters} (h : CurrentIsSmaller c) :
    c.currentCounterValue = min c.gasCounter.left c.gasAllowanceCounter.left := by
  unfold CurrentIsSmaller at h
  unfold currentCounterValue gasLeft
  split at h
  · exact (min_eq_left h).symm
  · exact (min_eq_right h).symm

theorem currentIsSmaller_new (gasCounter : GasCounter) (gasAllowanceCounter : GasAllowanceCounter) :
    CurrentIsSmaller (new gasCounter gasAllowanceCounter) := by
  unfold CurrentIsSmaller new
  split_ifs with h
  · exact h
  · exact (Nat.lt_of_not_le h).le

/-- `define_current_counter` returns the minimum and makes its counter the
current one. -/
theorem defineCurrentCounter_spec (c : Counters) :
    c.defineCurrentCounter.1 = min c.gasCounter.left c.gasAllowanceCounter.left ∧
      c.defineCurrentCounter.2.gasCounter = c.gasCounter ∧
      c.defineCurrentCounter.2.gasAllowanceCounter = c.gasAllowanceCounter ∧
      CurrentIsSmaller c.defineCurrentCounter.2 := by
  unfold defineCurrentCounter gasLeft
  split_ifs with h
  · exact ⟨(min_eq_left h).symm, rfl, rfl, h⟩
  · exact ⟨(min_eq_right (Nat.lt_of_not_le h).le).symm, rfl, rfl, (Nat.lt_of_not_le h).le⟩

/-- With the current counter the smaller one, `decrease_current_counter_to`
never panics: it charges both counters with what the current one exceeds the
amount by, nothing when it does not, and keeps the current counter the
smaller. -/
theorem decreaseCurrentCounterTo_spec {c : Counters} (h : CurrentIsSmaller c) (amount : ℕ) :
    ∃ c', c.decreaseCurrentCounterTo amount = .ok c' ∧
      c'.gasCounter.left = c.gasCounter.left - (c.currentCounterValue - amount) ∧
      c'.gasCounter.burned = c.gasCounter.burned + (c.currentCounterValue - amount) ∧
      c'.gasAllowanceCounter.left = c.gasAllowanceCounter.left - (c.currentCounterValue - amount) ∧
      c'.currentCounter = c.currentCounter ∧ CurrentIsSmaller c' := by
  have hmin := h.value_eq
  by_cases hle : c.currentCounterValue ≤ amount
  · -- the global is not below the current counter: skipped
    have hzero : c.currentCounterValue - amount = 0 := Nat.sub_eq_zero_of_le hle
    refine ⟨c, if_pos hle, ?_, ?_, ?_, rfl, h⟩ <;> rw [hzero] <;> rfl
  · -- the difference fits in the smaller counter, and so in both
    have hlt : amount < c.currentCounterValue := Nat.lt_of_not_le hle
    have hdiff : c.currentDiff amount = checkedSub c.currentCounterValue amount := by
      unfold currentDiff currentCounterValue
      split <;> rfl
    have hgas : c.currentCounterValue - amount ≤ c.gasCounter.left := by omega
    have hall : c.currentCounterValue - amount ≤ c.gasAllowanceCounter.left := by omega
    refine ⟨{ c with
        gasCounter := (c.gasCounter.charge (c.currentCounterValue - amount)).2
        gasAllowanceCounter := (c.gasAllowanceCounter.charge (c.currentCounterValue - amount)).2 },
      ?_, ?_, ?_, ?_, rfl, ?_⟩
    · rw [decreaseCurrentCounterTo, if_neg hle]
      dsimp only
      rw [hdiff, checkedSub, if_pos hlt.le]
      dsimp only
      rw [GasCounter.charge_of_le hgas, GasAllowanceCounter.charge_of_le hall]
      rfl
    · rw [GasCounter.charge_of_le hgas]
    · rw [GasCounter.charge_of_le hgas]
    · rw [GasAllowanceCounter.charge_of_le hall]
      rfl
    · -- the same amount off both keeps their order
      unfold CurrentIsSmaller at h ⊢
      rw [GasCounter.charge_of_le hgas, GasAllowanceCounter.charge_of_le hall]
      show match c.currentCounter with
        | .gasLimit => c.gasCounter.left - _ ≤ c.gasAllowanceCounter.value - _
        | .gasAllowance => c.gasAllowanceCounter.value - _ ≤ c.gasCounter.left - _
      split at h <;> simp only [GasAllowanceCounter.left] at h <;> omega

end Counters

/-! ## What the syscalls do to the counters -/

/-- What a syscall that goes on does to the counters alone: the charges, the
reductions of gas sent or reserved, and the synchronisation with the gas
global. -/
inductive CountersStep : Counters → Counters → Prop
  | chargeGasForToken {c c' : Counters} (amount : ℕ)
      (h : c.chargeGasForToken amount = (.ok (), c')) : CountersStep c c'
  | chargeGasIfEnough {c c' : Counters} (amount : ℕ)
      (h : c.chargeGasIfEnough amount = (.ok (), c')) : CountersStep c c'
  | reduceGas {c : Counters} {g : GasCounter} (amount : ℕ)
      (h : c.gasCounter.reduce amount = (.enough, g)) : CountersStep c { c with gasCounter := g }
  | decreaseCurrentCounterTo {c c' : Counters} (amount : ℕ)
      (h : c.decreaseCurrentCounterTo amount = .ok c') : CountersStep c c'
  | defineCurrentCounter (c : Counters) : CountersStep c c.defineCurrentCounter.2

/-- No step on the counters alone raises the gas left. -/
theorem CountersStep.left_le {c c' : Counters} (h : CountersStep c c') :
    c'.gasCounter.left ≤ c.gasCounter.left := by
  cases h with
  | chargeGasForToken amount h =>
    have hc := Counters.chargeGasForToken_gasCounter c amount
    rw [h] at hc
    rw [hc]
    exact GasCounter.charge_left_le _ _
  | chargeGasIfEnough amount h =>
    have hc := Counters.chargeGasIfEnough_gasCounter c amount
    rw [h] at hc
    rw [hc]
    exact GasCounter.chargeIfEnough_left_le _ _
  | reduceGas amount h =>
    rw [(GasCounter.reduce_eq_enough h).2.1]
    exact Nat.sub_le _ _
  | decreaseCurrentCounterTo amount h => exact Counters.decreaseCurrentCounterTo_left_le h
  | defineCurrentCounter => exact (congrArg GasCounter.left (Counters.defineCurrentCounter_spec c).2.1).le

/-! ## The backend's runs -/

/-- What the backend does between two readings of the gas global. -/
inductive BackendEvent
  /-- Wasm code runs and its gas charges lower the global. -/
  | wasm (spent : ℕ)
  /-- A syscall: the counters decreased to the global, a body that may change
  them in any way, and the current counter defined again. -/
  | syscall (body : Counters → Counters)

/-- One event on the counters and the global. A syscall whose decrease
panics does not continue. -/
inductive BackendStep : Counters × ℕ → Counters × ℕ → Prop
  | wasm (c : Counters) (global spent : ℕ) : BackendStep (c, global) (c, global - spent)
  | syscall {c c₁ : Counters} {global : ℕ} (body : Counters → Counters)
      (h : c.decreaseCurrentCounterTo global = .ok c₁) :
      BackendStep (c, global) ((body c₁).defineCurrentCounter.2, (body c₁).defineCurrentCounter.1)

/-- Every event keeps the current counter the smaller one. -/
theorem BackendStep.currentIsSmaller {p q : Counters × ℕ} (hs : BackendStep p q)
    (h : Counters.CurrentIsSmaller p.1) : Counters.CurrentIsSmaller q.1 := by
  cases hs with
  | wasm => exact h
  | syscall body _ => exact (Counters.defineCurrentCounter_spec _).2.2.2

/-- Along every run that starts where the backend starts, with the global
set by `define_current_counter`, every decrease to the global succeeds: it
reaches none of its `unreachable!` branches, and it charges both counters
with exactly what the current counter exceeds the global by, nothing when it
does not. -/
theorem backend_decrease_exact (c₀ : Counters) {c : Counters} {global : ℕ}
    (hrun : Relation.ReflTransGen BackendStep
      (c₀.defineCurrentCounter.2, c₀.defineCurrentCounter.1) (c, global)) :
    ∃ c', c.decreaseCurrentCounterTo global = .ok c' ∧
      c'.gasCounter.left = c.gasCounter.left - (c.currentCounterValue - global) ∧
      c'.gasAllowanceCounter.left = c.gasAllowanceCounter.left - (c.currentCounterValue - global) := by
  -- the invariant holds after the first definition and along every event
  have hinv : Counters.CurrentIsSmaller c := by
    have h := Relation.ReflTransGen.head_induction_on (motive := fun p _ =>
      Counters.CurrentIsSmaller p.1 → Counters.CurrentIsSmaller c) hrun id
      (fun hs _ ih h => ih (hs.currentIsSmaller h))
    exact h (Counters.defineCurrentCounter_spec c₀).2.2.2
  obtain ⟨c', hok, hgas, -, hall, -⟩ := Counters.decreaseCurrentCounterTo_spec hinv global
  exact ⟨c', hok, hgas, hall⟩

/-- Gas 100 and allowance 50: the global stands for the allowance, and Wasm
code that spends 20 of it has both counters charged with 20. -/
theorem backend_decrease_exact_after_wasm :
    let c₀ := Counters.new (GasCounter.new 100 (by decide)) (GasAllowanceCounter.new 50 (by decide))
    ∃ c', c₀.defineCurrentCounter.2.decreaseCurrentCounterTo 30 = .ok c' ∧
      c'.gasCounter.left = 80 ∧ c'.gasAllowanceCounter.left = 30 := by
  intro c₀
  obtain ⟨c', hok, hgas, hall⟩ := backend_decrease_exact c₀
    (.single (.wasm c₀.defineCurrentCounter.2 c₀.defineCurrentCounter.1 20))
  exact ⟨c', hok, hgas.trans (by decide), hall.trans (by decide)⟩

end Gear.Processor
