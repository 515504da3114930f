import Mathlib

/-!
# Hold bounds of the waitlist — `HoldBound` of `pallet-gear/src/internal.rs`

A message in the waitlist pays rent per block. `wait_dispatch` bounds its stay
by a `HoldBound`: the block its task is expected at. The longest bound a gas
amount pays for (`maximum_for`) ends `reserve_for` blocks before the block the
gas runs out at, since a task may run that late; a requested duration is cut
to it (`min`, by expected block). The gas locked for the hold pays for the
blocks up to the deadline, `reserve_for` after the expected block, and
`charge_for_hold` later spends the rent of the blocks actually held, at most
what its lock released.

Block numbers are natural numbers: the chain's are `u32`s that its lifetime
keeps far from the bound, so their saturating additions are additions. The
saturating subtractions are those of `ℕ`. Gas is `ℕ` too; where a product
could pass `u64::MAX`, the statements about it bound it by a gas amount.
-/

namespace Gear.Waitlist

/-- `CostsPerBlock` of the waitlist: the rent of one block, and `reserve_for`,
the blocks a task may run late by. -/
structure CostsPerBlock where
  waitlist : ℕ
  reserveFor : ℕ
deriving DecidableEq, Repr

/-- `HoldBound` of the waitlist: the block its task is expected at. The cost is
the waitlist's and the lock is the waitlist's. -/
structure HoldBound where
  expected : ℕ
deriving DecidableEq, Repr

namespace HoldBoundBuilder

variable (c : CostsPerBlock) (now : ℕ)

/-- `HoldBoundBuilder::deadline`: the bound whose deadline is the given block. -/
def deadline (deadline : ℕ) : HoldBound := ⟨deadline - c.reserveFor⟩

/-- `HoldBoundBuilder::duration`. -/
def duration (duration : ℕ) : HoldBound := ⟨now + duration⟩

/-- `HoldBoundBuilder::maximum_for`: the longest bound `gas` pays for. -/
def maximumFor (gas : ℕ) : HoldBound := deadline c (now + gas / max c.waitlist 1)

end HoldBoundBuilder

namespace HoldBound

variable (c : CostsPerBlock) (now : ℕ)

/-- `Ord::min` of hold bounds, which are ordered by expected block. -/
def min (a b : HoldBound) : HoldBound := if a.expected ≤ b.expected then a else b

/-- `expected_duration`. -/
def expectedDuration (h : HoldBound) : ℕ := h.expected - now

/-- `deadline`: `reserve_for` blocks after the expected one. -/
def deadline (h : HoldBound) : ℕ := h.expected + c.reserveFor

/-- `deadline_duration`. -/
def deadlineDuration (h : HoldBound) : ℕ := h.deadline c - now

/-- `lock_amount`: the rent of the blocks up to the deadline. -/
def lockAmount (h : HoldBound) : ℕ := h.deadlineDuration c now * c.waitlist

end HoldBound

/-- The hold `wait_dispatch` takes at block `now` for a message whose gas limit
is `gasLimit`: the requested duration cut to the maximal bound, or the maximal
bound. -/
def waitHold (c : CostsPerBlock) (now gasLimit : ℕ) (duration : Option ℕ) : HoldBound :=
  let maximalHold := HoldBoundBuilder.maximumFor c now gasLimit
  match duration with
  | some d => (HoldBoundBuilder.duration now d).min maximalHold
  | none => maximalHold

/-- The gas `charge_for_hold` spends at block `now` for a hold that began at
`start` and was expected at `finish`, when its lock released `prepaid`. -/
def chargeForHold (c : CostsPerBlock) (now start finish prepaid : ℕ) : ℕ :=
  let deadline := finish + c.reserveFor
  let paidUntil := Nat.min now deadline
  Nat.min prepaid ((paidUntil - start) * c.waitlist)

end Gear.Waitlist
