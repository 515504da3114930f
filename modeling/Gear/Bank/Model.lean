import Gear.Lib.AListSum
import Gear.GasTree.Node

/-!
# Gear bank — `pallets/gear-bank/src/lib.rs`

The bank holds the funds bought for gas and the value attached to messages
on one address, the bank address, and keeps a ledger of who owns what:

* `Bank` — per account, the balance locked for gas and for value;
* `UnusedValue` — value that could not be paid out because the receiver
  would be below the existential deposit;
* `OnFinalizeTransfers` / `OnFinalizeValue` — payouts deferred to the end
  of the block, and their sum.

The currency is `pallet_balances`, which is not part of the repository. It
is modelled as a balance map `bal : A → ℕ` with an existential deposit `ed`
and a ceiling `bmax` (`Balance::MAX`): a transfer moves exactly its amount,
is a no-op from an account to itself or of zero, and is refused when the
sender lacks the amount, when a `KeepAlive` sender would fall below `ed`, or
when the receiver would overflow or stay below `ed`; `can_deposit` reports
the same overflow and minimum; the reducible balance of an account without
freezes is its balance.

Each public call returns `none` when the source panics (`unreachable!`, or
`unimplemented!` for a `GasPerValue` multiplier), `some (.error e)` on an
error, which every call returns before writing, and `some (.ok s)`
otherwise.
-/

namespace Gear.Bank

open Gear.GasTree (saturatingAdd)

/-- `BankAccount`: the balance of an account locked for gas purchase and for
future transfer. -/
structure BankAccount where
  gas : ℕ
  value : ℕ
deriving DecidableEq, Repr

/-- `BankAccount::is_zero`. -/
def BankAccount.isZero (d : BankAccount) : Bool := d.gas == 0 && d.value == 0

/-- `Error<T>` of the pallet. -/
inductive BankError where
  | insufficientBalance
  | insufficientGasBalance
  | insufficientValueBalance
  | insufficientBankBalance
  | insufficientDeposit
  | overflow
deriving DecidableEq, Repr

/-- The outcomes of `fungible::Inspect::can_deposit` that the currency model
produces. -/
inductive DepositConsequence where
  | belowMinimum
  | overflow
  | success
deriving DecidableEq, Repr

/-- `GasMultiplier`: value per unit of gas, or gas per unit of value. -/
inductive GasMultiplier where
  | valuePerGas (m : ℕ)
  | gasPerValue (m : ℕ)
deriving DecidableEq, Repr

/-- `GasMultiplier::gas_to_value`: a saturating product; the other arm is
`unimplemented!` (`none`). -/
def GasMultiplier.gasToValue (bmax : ℕ) : GasMultiplier → ℕ → Option ℕ
  | .valuePerGas m, gas => some (min (gas * m) bmax)
  | .gasPerValue _, _ => none

/-- The multiplier whose conversion is `unimplemented!`. -/
def GasMultiplier.isGasPerValue : GasMultiplier → Bool
  | .valuePerGas _ => false
  | .gasPerValue _ => true

/-- `sp_arithmetic::Percent`: a number of parts out of a hundred. -/
structure Percent where
  parts : ℕ
  le_hundred : parts ≤ 100

/-- `Percent * Balance`: the share rounded to the nearest unit, ties down
(`Rounding::NearestPrefDown`). -/
def Percent.mul (p : Percent) (v : ℕ) : ℕ := (p.parts * v + 49) / 100

/-- A share is never more than the whole. -/
theorem Percent.mul_le (p : Percent) (v : ℕ) : p.mul v ≤ v := by
  unfold Percent.mul
  have hp : p.parts * v ≤ 100 * v := Nat.mul_le_mul_right v p.le_hundred
  omega

/-- The pallet's configuration: the currency's existential deposit and
ceiling, the bank address (`PalletId` truncated into an account), the
treasury and its share of spent gas, and the gas multiplier of
`deposit_gas`. -/
structure Config (A : Type) where
  ed : ℕ
  bmax : ℕ
  bankAddress : A
  treasuryAddress : A
  treasuryGasFeeShare : Percent
  gasMultiplier : GasMultiplier

/-- The storage the pallet touches: the currency's balances and the
pallet's four storage items. -/
structure BankState (A : Type) [DecidableEq A] where
  bal : A → ℕ
  bank : AList (fun _ : A => BankAccount)
  unusedValue : ℕ
  onFinalizeTransfers : AList (fun _ : A => ℕ)
  onFinalizeValue : ℕ

/-- Storage at genesis: the pallet's maps are empty and only the currency's
balances are set (the chain spec endows the bank address with the
existential deposit). -/
def BankState.genesis {A : Type} [DecidableEq A] (bal : A → ℕ) : BankState A :=
  ⟨bal, ∅, 0, ∅, 0⟩

variable {A : Type} [DecidableEq A] (c : Config A)

/-! ## The currency -/

/-- `can_deposit`: zero always fits; otherwise the receiver must neither
overflow nor stay below the existential deposit. -/
def canDeposit (bal : A → ℕ) (who : A) (v : ℕ) : DepositConsequence :=
  if v = 0 then .success
  else if c.bmax < bal who + v then .overflow
  else if bal who + v < c.ed then .belowMinimum
  else .success

/-- `Currency::transfer` with `KeepAlive` (`keepAlive = true`) or
`AllowDeath`. -/
def transfer (bal : A → ℕ) (src dst : A) (v : ℕ) (keepAlive : Bool) : Option (A → ℕ) :=
  if v = 0 ∨ src = dst then some bal
  else if bal src < v then none
  else if keepAlive ∧ bal src - v < c.ed then none
  else if canDeposit c bal dst v ≠ .success then none
  else some (Function.update (Function.update bal src (bal src - v)) dst (bal dst + v))

/-! ## The pallet's private functions -/

/-- `deposit`: move `value` from `who` to the bank address. -/
def deposit (s : BankState A) (who : A) (value : ℕ) (keepAlive : Bool) :
    Except BankError (A → ℕ) :=
  match canDeposit c s.bal c.bankAddress value with
  | .belowMinimum => .error .insufficientDeposit
  | .overflow => .error .overflow
  | .success =>
    match transfer c s.bal who c.bankAddress value keepAlive with
    | some bal => .ok bal
    | none => .error .insufficientBalance

/-- `ensure_bank_can_transfer`: the bank's balance less the unused and the
deferred value covers `value`. -/
def ensureBankCanTransfer (s : BankState A) (value : ℕ) : Except BankError Unit :=
  if value ≤ s.bal c.bankAddress - s.unusedValue - s.onFinalizeValue then .ok ()
  else .error .insufficientBankBalance

/-- `withdraw`: pay `value` from the bank address to `who`, or keep it as
unused value when `who` could not receive it. -/
def withdraw (s : BankState A) (who : A) (value : ℕ) : Except BankError (BankState A) := do
  ensureBankCanTransfer c s value
  if canDeposit c s.bal who value ≠ .success then
    return { s with unusedValue := saturatingAdd c.bmax s.unusedValue value }
  match transfer c s.bal c.bankAddress who value true with
  | some bal => return { s with bal := bal }
  | none => throw .insufficientBankBalance

/-- `withdraw_on_finalize`: register a payout for the end of the block. -/
def withdrawOnFinalize (s : BankState A) (who : A) (value : ℕ) :
    Except BankError (BankState A) := do
  if value = 0 then return s
  ensureBankCanTransfer c s value
  return { s with
    onFinalizeValue := saturatingAdd c.bmax s.onFinalizeValue value
    onFinalizeTransfers := s.onFinalizeTransfers.insert who
      (saturatingAdd c.bmax ((s.onFinalizeTransfers.lookup who).getD 0) value) }

/-- The `Bank` entry of `who`, `Default` when absent. -/
def accountOf (s : BankState A) (who : A) : BankAccount :=
  (s.bank.lookup who).getD ⟨0, 0⟩

/-- `Bank::mutate` with `get_or_insert_with(Default)`: add to the gas of
`who`'s entry. -/
def creditGas (s : BankState A) (who : A) (value : ℕ) : BankState A :=
  { s with
    bank := s.bank.insert who
      { accountOf s who with gas := saturatingAdd c.bmax (accountOf s who).gas value } }

/-- `Bank::mutate` with `get_or_insert_with(Default)`: add to the value of
`who`'s entry. -/
def creditValue (s : BankState A) (who : A) (value : ℕ) : BankState A :=
  { s with
    bank := s.bank.insert who
      { accountOf s who with value := saturatingAdd c.bmax (accountOf s who).value value } }

/-- `Bank::mutate` after a checked withdrawal: store the entry, or remove
it when it became zero. -/
def storeAccount (s : BankState A) (who : A) (d : BankAccount) : BankState A :=
  { s with bank := if d.isZero then s.bank.erase who else s.bank.insert who d }

/-! ## The public calls -/

/-- `deposit_gas`. -/
def depositGas (s : BankState A) (who : A) (amount : ℕ) (keepAlive : Bool) :
    Option (Except BankError (BankState A)) :=
  if amount = 0 then some (.ok s)
  else
    match c.gasMultiplier.gasToValue c.bmax amount with
    | none => none
    | some value => some do
      let bal ← deposit c s who value keepAlive
      return creditGas c { s with bal := bal } who value

/-- `withdraw_gas_no_transfer`: take the gas worth of `amount` off `who`'s
entry, returning its value. -/
def withdrawGasNoTransfer (s : BankState A) (who : A) (amount : ℕ) (m : GasMultiplier) :
    Option (Except BankError (ℕ × BankState A)) :=
  match m.gasToValue c.bmax amount with
  | none => none
  | some value => some do
    match s.bank.lookup who with
    | none => throw .insufficientGasBalance
    | some d =>
      if d.gas < value then throw .insufficientGasBalance
      ensureBankCanTransfer c s value
      return (value, storeAccount s who { d with gas := d.gas - value })

/-- `withdraw_gas`; the failing `withdraw` is `unreachable!`. -/
def withdrawGas (s : BankState A) (who : A) (amount : ℕ) (m : GasMultiplier) :
    Option (Except BankError (BankState A)) :=
  if amount = 0 then some (.ok s)
  else
    match withdrawGasNoTransfer c s who amount m with
    | none => none
    | some (.error e) => some (.error e)
    | some (.ok (value, s)) =>
      match withdraw c s who value with
      | .ok s => some (.ok s)
      | .error _ => none

/-- `spend_gas_to`: the treasury's share and the rest to `dst`, both paid at
the end of the block; a failing registration is `unreachable!`. -/
def spendGasTo (s : BankState A) (dst who : A) (amount : ℕ) (m : GasMultiplier) :
    Option (Except BankError (BankState A)) :=
  if amount = 0 then some (.ok s)
  else
    match withdrawGasNoTransfer c s who amount m with
    | none => none
    | some (.error e) => some (.error e)
    | some (.ok (value, s)) =>
      let treasuryShare := c.treasuryGasFeeShare.mul value
      match withdrawOnFinalize c s c.treasuryAddress treasuryShare with
      | .error _ => none
      | .ok s =>
        match withdrawOnFinalize c s dst (value - treasuryShare) with
        | .error _ => none
        | .ok s => some (.ok s)

/-- `deposit_value`. -/
def depositValue (s : BankState A) (who : A) (value : ℕ) (keepAlive : Bool) :
    Except BankError (BankState A) :=
  if value = 0 then .ok s
  else do
    let bal ← deposit c s who value keepAlive
    return creditValue c { s with bal := bal } who value

/-- `withdraw_value_no_transfer`. -/
def withdrawValueNoTransfer (s : BankState A) (who : A) (value : ℕ) :
    Except BankError (BankState A) :=
  match s.bank.lookup who with
  | none => .error .insufficientValueBalance
  | some d =>
    if d.value < value then .error .insufficientValueBalance
    else do
      ensureBankCanTransfer c s value
      return storeAccount s who { d with value := d.value - value }

/-- `withdraw_value`, or `transfer_value` when `dest` is not `who`: the
value leaves `who`'s entry and is paid to `dest`; a failing `withdraw` is
`unreachable!`. -/
def withdrawValueTo (s : BankState A) (who dest : A) (value : ℕ) :
    Option (Except BankError (BankState A)) :=
  if value = 0 then some (.ok s)
  else
    match withdrawValueNoTransfer c s who value with
    | .error e => some (.error e)
    | .ok s =>
      match withdraw c s dest value with
      | .ok s => some (.ok s)
      | .error _ => none

/-- `withdraw_value`. -/
def withdrawValue (s : BankState A) (who : A) (value : ℕ) :
    Option (Except BankError (BankState A)) :=
  withdrawValueTo c s who who value

/-- `transfer_value`. -/
def transferValue (s : BankState A) (who dest : A) (value : ℕ) :
    Option (Except BankError (BankState A)) :=
  withdrawValueTo c s who dest value

/-- `transfer_locked_value`: the value moves between two entries of the
ledger; no funds move. -/
def transferLockedValue (s : BankState A) (who dest : A) (value : ℕ) :
    Except BankError (BankState A) :=
  if value = 0 then .ok s
  else do
    let s ← withdrawValueNoTransfer c s who value
    return creditValue c s dest value

/-- One iteration of the drain in `on_finalize`: pay one registered
transfer; an error is only logged. -/
def finalizeTransfer (s : BankState A) (e : Sigma (fun _ : A => ℕ)) : BankState A :=
  match withdraw c s e.1 e.2 with
  | .ok s => s
  | .error _ => s

/-- `on_finalize`: take `OnFinalizeValue` first, then drain the registry,
paying each entry. -/
def onFinalize (s : BankState A) : BankState A :=
  let entries := s.onFinalizeTransfers.entries
  entries.foldl (finalizeTransfer c)
    { s with onFinalizeValue := 0, onFinalizeTransfers := ∅ }

/-! ## Runs

The calls other pallets make into the bank, and the end-of-block hook. A
call that panics is discarded with its block's changes; one that fails
leaves the storage as it was. -/

/-- A call into the pallet. -/
inductive Call (A : Type) where
  | depositGas (who : A) (amount : ℕ) (keepAlive : Bool)
  | withdrawGas (who : A) (amount : ℕ) (m : GasMultiplier)
  | spendGasTo (dst who : A) (amount : ℕ) (m : GasMultiplier)
  | depositValue (who : A) (value : ℕ) (keepAlive : Bool)
  | withdrawValue (who : A) (value : ℕ)
  | transferValue (who dest : A) (value : ℕ)
  | transferLockedValue (who dest : A) (value : ℕ)
  | onFinalize

/-- Perform one call. -/
def Call.apply (s : BankState A) : Call A → Option (Except BankError (BankState A))
  | .depositGas who amount keepAlive => Gear.Bank.depositGas c s who amount keepAlive
  | .withdrawGas who amount m => Gear.Bank.withdrawGas c s who amount m
  | .spendGasTo dst who amount m => Gear.Bank.spendGasTo c s dst who amount m
  | .depositValue who value keepAlive => some (Gear.Bank.depositValue c s who value keepAlive)
  | .withdrawValue who value => Gear.Bank.withdrawValue c s who value
  | .transferValue who dest value => Gear.Bank.transferValue c s who dest value
  | .transferLockedValue who dest value => some (Gear.Bank.transferLockedValue c s who dest value)
  | .onFinalize => some (.ok (Gear.Bank.onFinalize c s))

/-- The storage after a call: the new one on success, the old one
otherwise. -/
def Call.next (s : BankState A) (call : Call A) : BankState A :=
  match call.apply c s with
  | some (.ok s') => s'
  | _ => s

/-- Perform the calls in order. -/
def run (s : BankState A) : List (Call A) → BankState A
  | [] => s
  | call :: calls => run (call.next c s) calls

/-- The call pays into the bank from the bank address itself. -/
def Call.paidByBank : Call A → Bool
  | .depositGas who _ _ | .depositValue who _ _ => decide (who = c.bankAddress)
  | _ => false

/-- The call converts gas with a `GasPerValue` multiplier, whose
`gas_to_value` is `unimplemented!`. -/
def Call.gasPerValue : Call A → Bool
  | .depositGas _ _ _ => c.gasMultiplier.isGasPerValue
  | .withdrawGas _ _ m | .spendGasTo _ _ _ m => m.isGasPerValue
  | _ => false

end Gear.Bank
