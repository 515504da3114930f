import Gear.Bank.Model

/-!
# Gear bank solvency

The bank address must always be able to pay out what the ledger owes:
the gas and value of every `Bank` entry, the unused value and the deferred
payouts. `Covers c s extra` says that it holds all of that, its existential
deposit and `extra` more, without overflowing; `Solvent` adds that
`OnFinalizeValue` is the sum of `OnFinalizeTransfers`.

The argument has one shape throughout. A call first takes an amount off
the ledger (`withdraw_*_no_transfer`), which leaves the bank covering that
amount as `extra`; the payout that follows (`withdraw`,
`withdraw_on_finalize`) consumes exactly that `extra` (`withdraw_ok`,
`withdrawOnFinalize_ok`), so it never fails and its `unreachable!` branch is
never taken. Deposits add to the bank and the ledger alike, unless the
bank address pays itself: the currency's transfer to oneself moves nothing
while the ledger is still credited. With that excluded, every call keeps
`Solvent` (`Call.next_solvent`), and so does every run from a solvent
storage, the genesis storage among them (`run_solvent`).
-/

namespace Gear.Bank

open Gear.GasTree (saturatingAdd saturatingAdd_of_le)

variable {A : Type} [DecidableEq A] (c : Config A)

/-! ## What the ledger owes -/

/-- The gas and value of every `Bank` entry. -/
def ledgerSum (s : BankState A) : ℕ := s.bank.sumBy fun _ d => d.gas + d.value

/-- The sum of `OnFinalizeTransfers`. -/
def registrySum (s : BankState A) : ℕ := s.onFinalizeTransfers.sumBy fun _ v => v

/-- The bank address holds its existential deposit, what the ledger owes
and `extra` more, and does not overflow. -/
structure Covers (s : BankState A) (extra : ℕ) : Prop where
  funds : c.ed + ledgerSum s + s.unusedValue + s.onFinalizeValue + extra ≤ s.bal c.bankAddress
  bounded : s.bal c.bankAddress ≤ c.bmax

/-- The solvency invariant. -/
structure Solvent (s : BankState A) : Prop where
  registry : s.onFinalizeValue = registrySum s
  covers : Covers c s 0

/-! ## The currency -/

section Currency

variable {bal : A → ℕ} {src dst : A} {v : ℕ} {keepAlive : Bool}

/-- A transfer of zero or to oneself changes nothing. -/
theorem transfer_trivial (h : v = 0 ∨ src = dst) :
    transfer c bal src dst v keepAlive = some bal := by
  simp [transfer, h]

/-- A transfer between two accounts that the checks let through. -/
theorem transfer_ok (hne : src ≠ dst) (hv : v ≤ bal src) (hkeep : keepAlive → c.ed + v ≤ bal src)
    (hdep : canDeposit c bal dst v = .success) :
    transfer c bal src dst v keepAlive =
      some (Function.update (Function.update bal src (bal src - v)) dst (bal dst + v)) := by
  by_cases hv0 : v = 0
  · subst hv0
    simp [transfer]
  have hkeep' : ¬ (keepAlive = true ∧ bal src - v < c.ed) := by
    rintro ⟨hk, hlt⟩
    have := hkeep hk
    omega
  simp [transfer, hv0, hne, Nat.not_lt.mpr hv, hkeep', hdep]

/-- What a successful transfer leaves at its receiver. -/
theorem transfer_some_dst {bal' : A → ℕ} (hne : src ≠ dst)
    (h : transfer c bal src dst v keepAlive = some bal') : bal' dst = bal dst + v := by
  unfold transfer at h
  by_cases hv : v = 0
  · simp only [hv, true_or, if_true, Option.some.injEq] at h
    rw [← h, hv, Nat.add_zero]
  simp only [hv, hne, or_self, if_false] at h
  split_ifs at h
  cases h
  simp

omit [DecidableEq A] in
/-- `can_deposit` succeeds only for zero or below the ceiling. -/
theorem canDeposit_bounded (h : canDeposit c bal dst v = .success) :
    v = 0 ∨ bal dst + v ≤ c.bmax := by
  unfold canDeposit at h
  split_ifs at h with h0 h1
  · exact Or.inl h0
  · exact Or.inr (Nat.not_lt.mp h1)

end Currency

/-! ## The ledger -/

section Ledger

variable {s : BankState A} {who : A}

@[simp] theorem storeAccount_bal (d : BankAccount) : (storeAccount s who d).bal = s.bal := rfl

@[simp] theorem storeAccount_unusedValue (d : BankAccount) :
    (storeAccount s who d).unusedValue = s.unusedValue := rfl

@[simp] theorem storeAccount_onFinalizeValue (d : BankAccount) :
    (storeAccount s who d).onFinalizeValue = s.onFinalizeValue := rfl

@[simp] theorem storeAccount_onFinalizeTransfers (d : BankAccount) :
    (storeAccount s who d).onFinalizeTransfers = s.onFinalizeTransfers := rfl

@[simp] theorem creditGas_bal (v : ℕ) : (creditGas c s who v).bal = s.bal := rfl

@[simp] theorem creditGas_unusedValue (v : ℕ) :
    (creditGas c s who v).unusedValue = s.unusedValue := rfl

@[simp] theorem creditGas_onFinalizeValue (v : ℕ) :
    (creditGas c s who v).onFinalizeValue = s.onFinalizeValue := rfl

@[simp] theorem creditGas_onFinalizeTransfers (v : ℕ) :
    (creditGas c s who v).onFinalizeTransfers = s.onFinalizeTransfers := rfl

@[simp] theorem creditValue_bal (v : ℕ) : (creditValue c s who v).bal = s.bal := rfl

@[simp] theorem creditValue_unusedValue (v : ℕ) :
    (creditValue c s who v).unusedValue = s.unusedValue := rfl

@[simp] theorem creditValue_onFinalizeValue (v : ℕ) :
    (creditValue c s who v).onFinalizeValue = s.onFinalizeValue := rfl

@[simp] theorem creditValue_onFinalizeTransfers (v : ℕ) :
    (creditValue c s who v).onFinalizeTransfers = s.onFinalizeTransfers := rfl

/-- One entry is part of what the ledger owes. -/
theorem accountOf_le_ledgerSum (who : A) :
    (accountOf s who).gas + (accountOf s who).value ≤ ledgerSum s := by
  unfold accountOf ledgerSum
  cases h : s.bank.lookup who with
  | none => exact Nat.zero_le _
  | some d => exact AList.le_sumBy (fun _ d => d.gas + d.value) h

/-- Writing back an entry that lost `w` takes `w` off the ledger; an entry
that became zero is removed and weighs nothing either way. -/
theorem ledgerSum_storeAccount {d d' : BankAccount} {w : ℕ}
    (hk : s.bank.lookup who = some d) (hw : d'.gas + d'.value + w = d.gas + d.value) :
    ledgerSum (storeAccount s who d') + w = ledgerSum s := by
  unfold ledgerSum storeAccount
  dsimp only
  by_cases hz : d'.isZero = true
  · have h0 : d'.gas + d'.value = 0 := by
      simp only [BankAccount.isZero, Bool.and_eq_true, beq_iff_eq] at hz
      omega
    rw [if_pos hz, AList.sumBy_erase_add (fun _ d => d.gas + d.value) hk]
    omega
  · have hadd : (s.bank.insert who d').sumBy (fun _ d => d.gas + d.value) + (d.gas + d.value) =
        s.bank.sumBy (fun _ d => d.gas + d.value) + (d'.gas + d'.value) :=
      AList.sumBy_insert_add hk
    rw [if_neg hz]
    omega

/-- Crediting gas below the ceiling adds it to the ledger. -/
theorem ledgerSum_creditGas {v : ℕ} (hv : (accountOf s who).gas + v ≤ c.bmax) :
    ledgerSum (creditGas c s who v) = ledgerSum s + v := by
  unfold ledgerSum creditGas
  rw [saturatingAdd_of_le hv]
  unfold accountOf at hv ⊢
  cases h : s.bank.lookup who with
  | none =>
    rw [AList.sumBy_insert_of_lookup_eq_none h]
    simp
  | some d =>
    have hadd : (s.bank.insert who { d with gas := d.gas + v }).sumBy (fun _ d => d.gas + d.value) +
        (d.gas + d.value) = s.bank.sumBy (fun _ d => d.gas + d.value) + (d.gas + v + d.value) :=
      AList.sumBy_insert_add h
    simp only [Option.getD_some] at hadd ⊢
    omega

/-- Crediting value below the ceiling adds it to the ledger. -/
theorem ledgerSum_creditValue {v : ℕ} (hv : (accountOf s who).value + v ≤ c.bmax) :
    ledgerSum (creditValue c s who v) = ledgerSum s + v := by
  unfold ledgerSum creditValue
  rw [saturatingAdd_of_le hv]
  unfold accountOf at hv ⊢
  cases h : s.bank.lookup who with
  | none =>
    rw [AList.sumBy_insert_of_lookup_eq_none h]
    simp
  | some d =>
    have hadd : (s.bank.insert who { d with value := d.value + v }).sumBy
        (fun _ d => d.gas + d.value) + (d.gas + d.value) =
        s.bank.sumBy (fun _ d => d.gas + d.value) + (d.gas + (d.value + v)) :=
      AList.sumBy_insert_add h
    simp only [Option.getD_some] at hadd ⊢
    omega

end Ledger

/-! ## Payouts

A payout of `v` from a storage that covers `v` more than it owes never
fails, and leaves a storage that covers the rest. -/

section Payouts

variable {s : BankState A}

/-- `ensure_bank_can_transfer` passes for an amount the bank covers. -/
theorem ensureBankCanTransfer_ok {v extra : ℕ} (h : Covers c s (v + extra)) :
    ensureBankCanTransfer c s v = .ok () := by
  have hf := h.funds
  unfold ensureBankCanTransfer
  rw [if_pos (by omega)]

/-- `withdraw` of a covered amount succeeds, paying it to `who` or keeping
it as unused value, and touches neither the ledger nor the registry. -/
theorem withdraw_ok (who : A) {v : ℕ} (extra : ℕ) (h : Covers c s (v + extra)) :
    ∃ s', withdraw c s who v = .ok s' ∧ Covers c s' extra ∧ s'.bank = s.bank ∧
      s'.onFinalizeValue = s.onFinalizeValue ∧ s'.onFinalizeTransfers = s.onFinalizeTransfers := by
  have hf := h.funds
  have hb := h.bounded
  have hens := ensureBankCanTransfer_ok c h
  by_cases hd : canDeposit c s.bal who v = .success
  · by_cases htriv : v = 0 ∨ c.bankAddress = who
    · -- nothing moves: zero, or the bank paying itself
      have ht : transfer c s.bal c.bankAddress who v true = some s.bal := transfer_trivial c htriv
      refine ⟨{ s with bal := s.bal }, ?_, ⟨by omega, hb⟩, rfl, rfl, rfl⟩
      simp [withdraw, hens, hd, ht]
    · push Not at htriv
      have ht : transfer c s.bal c.bankAddress who v true = _ :=
        transfer_ok c htriv.2 (by omega) (fun _ => by omega) hd
      have hbank : Function.update (Function.update s.bal c.bankAddress
          (s.bal c.bankAddress - v)) who (s.bal who + v) c.bankAddress = s.bal c.bankAddress - v := by
        rw [Function.update_of_ne htriv.2, Function.update_self]
      refine ⟨{ s with bal := Function.update (Function.update s.bal c.bankAddress
          (s.bal c.bankAddress - v)) who (s.bal who + v) }, ?_, ⟨?_, ?_⟩, rfl, rfl, rfl⟩
      · simp [withdraw, hens, hd, ht]
      · unfold ledgerSum at hf ⊢
        dsimp only
        rw [hbank]
        omega
      · dsimp only
        rw [hbank]
        omega
  · -- the receiver cannot take it: the value stays as unused value
    refine ⟨{ s with unusedValue := saturatingAdd c.bmax s.unusedValue v }, ?_, ⟨?_, hb⟩, rfl, rfl, rfl⟩
    · simp [withdraw, hens, hd]
    · unfold ledgerSum at hf ⊢
      dsimp only
      rw [saturatingAdd_of_le (by omega)]
      omega

/-- `withdraw_on_finalize` of a covered amount succeeds and registers it:
the deferred value and the receiver's entry grow by it, the registry stays
summed by `OnFinalizeValue`. -/
theorem withdrawOnFinalize_ok (who : A) {v : ℕ} (extra : ℕ) (hreg : s.onFinalizeValue = registrySum s)
    (h : Covers c s (v + extra)) :
    ∃ s', withdrawOnFinalize c s who v = .ok s' ∧ Covers c s' extra ∧
      s'.onFinalizeValue = registrySum s' ∧ s'.onFinalizeValue = s.onFinalizeValue + v ∧
      s'.bank = s.bank ∧ s'.bal = s.bal ∧ s'.unusedValue = s.unusedValue ∧
      ∀ x, (s'.onFinalizeTransfers.lookup x).getD 0 =
        (s.onFinalizeTransfers.lookup x).getD 0 + if x = who then v else 0 := by
  have hf := h.funds
  have hb := h.bounded
  by_cases hv : v = 0
  · subst hv
    refine ⟨s, by simp [withdrawOnFinalize, pure, Except.pure], ⟨by omega, hb⟩, hreg, rfl, rfl, rfl,
      rfl, fun x => by simp⟩
  have hens := ensureBankCanTransfer_ok c h
  -- neither the deferred value nor the entry reach the ceiling
  have hentry : (s.onFinalizeTransfers.lookup who).getD 0 ≤ registrySum s :=
    AList.getD_le_sumBy who
  have hsum := AList.sumBy_insert_getD_add (s := s.onFinalizeTransfers) who v
  refine ⟨{ s with
      onFinalizeValue := s.onFinalizeValue + v
      onFinalizeTransfers := s.onFinalizeTransfers.insert who
        ((s.onFinalizeTransfers.lookup who).getD 0 + v) }, ?_, ⟨?_, hb⟩, ?_, rfl, rfl, rfl, rfl,
      fun x => ?_⟩
  · simp [withdrawOnFinalize, hv, hens, saturatingAdd_of_le (show s.onFinalizeValue + v ≤ c.bmax by omega),
      saturatingAdd_of_le (show (s.onFinalizeTransfers.lookup who).getD 0 + v ≤ c.bmax by omega)]
  · unfold ledgerSum at hf ⊢
    dsimp only
    omega
  · unfold registrySum at hreg ⊢
    dsimp only
    omega
  · by_cases hx : x = who
    · subst hx
      simp
    · simp [AList.lookup_insert_ne hx, hx]

end Payouts

/-! ## Taking off the ledger -/

section Checks

variable {s : BankState A} {who : A}

/-- `ensure_bank_can_transfer` passes for anything the ledger owes. -/
theorem ensureBankCanTransfer_of_owed {v : ℕ} (h : Covers c s 0) (hv : v ≤ ledgerSum s) :
    ensureBankCanTransfer c s v = .ok () := by
  have hf := h.funds
  unfold ensureBankCanTransfer
  rw [if_pos (by omega)]

/-- Taking `w` off an entry leaves the bank covering `w` beyond the
ledger. -/
theorem covers_storeAccount {d d' : BankAccount} {w : ℕ} (hk : s.bank.lookup who = some d)
    (hw : d'.gas + d'.value + w = d.gas + d.value) (h : Covers c s 0) :
    Covers c (storeAccount s who d') w := by
  have hl := ledgerSum_storeAccount hk hw
  have hf := h.funds
  exact ⟨by simp only [storeAccount_unusedValue, storeAccount_onFinalizeValue, storeAccount_bal]; omega,
    h.bounded⟩

/-- An entry's gas is part of what the ledger owes. -/
theorem gas_le_ledgerSum {d : BankAccount} (hk : s.bank.lookup who = some d) :
    d.gas ≤ ledgerSum s := by
  have := AList.le_sumBy (fun _ d => d.gas + d.value) hk
  unfold ledgerSum
  omega

/-- An entry's value is part of what the ledger owes. -/
theorem value_le_ledgerSum {d : BankAccount} (hk : s.bank.lookup who = some d) :
    d.value ≤ ledgerSum s := by
  have := AList.le_sumBy (fun _ d => d.gas + d.value) hk
  unfold ledgerSum
  omega

/-- `withdraw_gas_no_transfer` with an implemented multiplier: an error, or
the gas's value taken off the ledger and left covered. -/
theorem withdrawGasNoTransfer_spec (who : A) {amount value : ℕ} {m : GasMultiplier} (h : Covers c s 0)
    (hm : m.gasToValue c.bmax amount = some value) :
    (∃ e, withdrawGasNoTransfer c s who amount m = some (.error e)) ∨
      ∃ s', withdrawGasNoTransfer c s who amount m = some (.ok (value, s')) ∧ Covers c s' value ∧
        s'.onFinalizeValue = s.onFinalizeValue ∧
        s'.onFinalizeTransfers = s.onFinalizeTransfers ∧ ledgerSum s' + value = ledgerSum s := by
  unfold withdrawGasNoTransfer
  rw [hm]
  cases hk : s.bank.lookup who with
  | none => exact Or.inl ⟨.insufficientGasBalance, rfl⟩
  | some d =>
    by_cases hlt : d.gas < value
    · exact Or.inl ⟨.insufficientGasBalance, by simp [hlt]; rfl⟩
    have hens := ensureBankCanTransfer_of_owed c h
      (show value ≤ ledgerSum s by have := gas_le_ledgerSum hk; omega)
    have hw : ({ d with gas := d.gas - value } : BankAccount).gas + d.value + value =
        d.gas + d.value := by
      dsimp only
      omega
    exact Or.inr ⟨_, by simp [hlt, hens], covers_storeAccount c hk hw h, rfl, rfl,
      ledgerSum_storeAccount hk hw⟩

/-- `withdraw_value_no_transfer`: an error, or the value taken off the
ledger and left covered. -/
theorem withdrawValueNoTransfer_spec (who : A) (value : ℕ) (h : Covers c s 0) :
    (∃ e, withdrawValueNoTransfer c s who value = .error e) ∨
      ∃ s', withdrawValueNoTransfer c s who value = .ok s' ∧ Covers c s' value ∧
        s'.onFinalizeValue = s.onFinalizeValue ∧
        s'.onFinalizeTransfers = s.onFinalizeTransfers ∧ ledgerSum s' + value = ledgerSum s := by
  unfold withdrawValueNoTransfer
  cases hk : s.bank.lookup who with
  | none => exact Or.inl ⟨.insufficientValueBalance, rfl⟩
  | some d =>
    by_cases hlt : d.value < value
    · exact Or.inl ⟨.insufficientValueBalance, by simp [hlt]⟩
    have hens := ensureBankCanTransfer_of_owed c h
      (show value ≤ ledgerSum s by have := value_le_ledgerSum hk; omega)
    have hw : ({ d with value := d.value - value } : BankAccount).gas +
        ({ d with value := d.value - value } : BankAccount).value + value = d.gas + d.value := by
      dsimp only
      omega
    exact Or.inr ⟨_, by simp [hlt, hens], covers_storeAccount c hk hw h, rfl, rfl,
      ledgerSum_storeAccount hk hw⟩

end Checks

/-! ## The calls -/

section Calls

variable {s : BankState A}

/-- A deposit from another account adds exactly its value to the bank
address, within the ceiling. -/
theorem deposit_spec {who : A} {value : ℕ} {keepAlive : Bool} {bal' : A → ℕ}
    (hne : who ≠ c.bankAddress) (h : deposit c s who value keepAlive = .ok bal') :
    bal' c.bankAddress = s.bal c.bankAddress + value ∧
      (value = 0 ∨ s.bal c.bankAddress + value ≤ c.bmax) := by
  unfold deposit at h
  cases hd : canDeposit c s.bal c.bankAddress value with
  | belowMinimum => rw [hd] at h; cases h
  | overflow => rw [hd] at h; cases h
  | success =>
    rw [hd] at h
    cases ht : transfer c s.bal who c.bankAddress value keepAlive with
    | none => rw [ht] at h; cases h
    | some b =>
      rw [ht] at h
      obtain rfl : b = bal' := Except.ok.inj h
      exact ⟨transfer_some_dst c hne ht, canDeposit_bounded c hd⟩

/-- A storage whose bank address and ledger both grew by `value`, the rest
as before, is solvent with the old one. -/
theorem Solvent.of_deposit {s' : BankState A} {value : ℕ} (hS : Solvent c s)
    (hbal : s'.bal c.bankAddress = s.bal c.bankAddress + value)
    (hbd : s'.bal c.bankAddress ≤ c.bmax) (hl : ledgerSum s' = ledgerSum s + value)
    (hu : s'.unusedValue = s.unusedValue) (ho : s'.onFinalizeValue = s.onFinalizeValue)
    (hr : s'.onFinalizeTransfers = s.onFinalizeTransfers) : Solvent c s' := by
  have hf := hS.covers.funds
  refine ⟨?_, ⟨by omega, hbd⟩⟩
  unfold registrySum
  rw [ho, hr, hS.registry]
  rfl

/-- `deposit_gas`: it panics only for a `GasPerValue` multiplier, and keeps
the bank solvent unless the bank address pays. -/
theorem depositGas_spec (hS : Solvent c s) (who : A) (amount : ℕ) (keepAlive : Bool) :
    (c.gasMultiplier.isGasPerValue = false → depositGas c s who amount keepAlive ≠ none) ∧
      (who ≠ c.bankAddress → ∀ s', depositGas c s who amount keepAlive = some (.ok s') →
        Solvent c s') := by
  constructor
  · intro hg
    unfold depositGas
    split_ifs
    · simp
    cases hm : c.gasMultiplier with
    | valuePerGas m => simp [GasMultiplier.gasToValue]
    | gasPerValue m => rw [hm] at hg; cases hg
  · intro hne s' h
    unfold depositGas at h
    by_cases ha : amount = 0
    · simp only [ha, if_true, Option.some.injEq, Except.ok.injEq] at h
      exact h ▸ hS
    cases hv : c.gasMultiplier.gasToValue c.bmax amount with
    | none => simp [ha, hv] at h
    | some value =>
      cases hd : deposit c s who value keepAlive with
      | error e => simp [ha, hv, hd] at h
      | ok bal' =>
        simp only [ha, hv, hd, if_false, Option.some.injEq] at h
        obtain rfl : creditGas c { s with bal := bal' } who value = s' := Except.ok.inj h
        obtain ⟨hbal, hbd⟩ := deposit_spec c hne hd
        have hf := hS.covers.funds
        have hb := hS.covers.bounded
        have hacc : (accountOf s who).gas + (accountOf s who).value ≤ ledgerSum s :=
          accountOf_le_ledgerSum who
        refine Solvent.of_deposit c hS hbal
          (by show bal' c.bankAddress ≤ c.bmax; omega)
          (ledgerSum_creditGas c (by show (accountOf s who).gas + value ≤ c.bmax; omega)) rfl rfl rfl

/-- `deposit_value` keeps the bank solvent unless the bank address pays. -/
theorem depositValue_spec (hS : Solvent c s) {who : A} {value : ℕ} {keepAlive : Bool}
    (hne : who ≠ c.bankAddress) {s' : BankState A}
    (h : depositValue c s who value keepAlive = .ok s') : Solvent c s' := by
  unfold depositValue at h
  by_cases hz : value = 0
  · rw [if_pos hz] at h
    exact Except.ok.inj h ▸ hS
  rw [if_neg hz] at h
  cases hd : deposit c s who value keepAlive with
  | error e => rw [hd] at h; cases h
  | ok bal' =>
    rw [hd] at h
    obtain rfl : creditValue c { s with bal := bal' } who value = s' := Except.ok.inj h
    obtain ⟨hbal, hbd⟩ := deposit_spec c hne hd
    have hf := hS.covers.funds
    have hb := hS.covers.bounded
    have hacc : (accountOf s who).gas + (accountOf s who).value ≤ ledgerSum s :=
      accountOf_le_ledgerSum who
    refine Solvent.of_deposit c hS hbal
      (by show bal' c.bankAddress ≤ c.bmax; omega)
      (ledgerSum_creditValue c (by show (accountOf s who).value + value ≤ c.bmax; omega)) rfl rfl rfl

/-- Genesis storage is solvent as soon as the bank address holds the
existential deposit. -/
theorem genesis_solvent {bal : A → ℕ} (hed : c.ed ≤ bal c.bankAddress)
    (hmax : bal c.bankAddress ≤ c.bmax) : Solvent c (BankState.genesis bal) := by
  refine ⟨rfl, ⟨?_, hmax⟩⟩
  simp only [ledgerSum, BankState.genesis, AList.sumBy_empty]
  omega

/-- A storage that covers its ledger with the registry of a solvent one is
solvent. -/
theorem Solvent.of_covers {s' : BankState A} (hS : Solvent c s) (h : Covers c s' 0)
    (ho : s'.onFinalizeValue = s.onFinalizeValue)
    (hr : s'.onFinalizeTransfers = s.onFinalizeTransfers) : Solvent c s' := by
  refine ⟨?_, h⟩
  unfold registrySum
  rw [ho, hr, hS.registry]
  rfl

/-- The multiplier converts gas exactly when it is not `GasPerValue`. -/
theorem gasToValue_isSome {m : GasMultiplier} (hm : m.isGasPerValue = false) (amount bmax : ℕ) :
    ∃ value, m.gasToValue bmax amount = some value := by
  cases m with
  | valuePerGas m => exact ⟨_, rfl⟩
  | gasPerValue m => cases hm

/-- `withdraw_gas`: it panics only for a `GasPerValue` multiplier, and a
success keeps the bank solvent. -/
theorem withdrawGas_spec (hS : Solvent c s) (who : A) (amount : ℕ) (m : GasMultiplier) :
    (m.isGasPerValue = false → withdrawGas c s who amount m ≠ none) ∧
      ∀ s', withdrawGas c s who amount m = some (.ok s') → Solvent c s' := by
  by_cases ha : amount = 0
  · refine ⟨fun _ => by simp [withdrawGas, ha], fun s' h => ?_⟩
    simp only [withdrawGas, ha, if_true, Option.some.injEq, Except.ok.injEq] at h
    exact h ▸ hS
  cases hv : m.gasToValue c.bmax amount with
  | none =>
    refine ⟨fun hm => ?_, fun s' h => ?_⟩
    · obtain ⟨value, hval⟩ := gasToValue_isSome hm amount c.bmax
      rw [hv] at hval
      cases hval
    · simp [withdrawGas, ha, withdrawGasNoTransfer, hv] at h
  | some value =>
    rcases withdrawGasNoTransfer_spec c who hS.covers hv with ⟨e, he⟩ | ⟨s1, hs1, hc1, ho1, hr1, -⟩
    · refine ⟨fun _ => by simp [withdrawGas, ha, he], fun s' h => ?_⟩
      simp [withdrawGas, ha, he] at h
    -- the payout of what was just taken off the ledger
    obtain ⟨s2, hs2, hc2, -, ho2, hr2⟩ := withdraw_ok c who 0 hc1
    refine ⟨fun _ => by simp [withdrawGas, ha, hs1, hs2], fun s' h => ?_⟩
    simp only [withdrawGas, ha, hs1, hs2, if_false, Option.some.injEq, Except.ok.injEq] at h
    subst h
    exact Solvent.of_covers c hS hc2 (ho2.trans ho1) (hr2.trans hr1)

/-- What `spend_gas_to` does with the value it takes off the ledger: all of
it is deferred, the treasury's share to the treasury and the rest to the
receiver. -/
def SpendSplit (dst : A) (s s' : BankState A) : Prop :=
  ∃ value, ledgerSum s' + value = ledgerSum s ∧
    s'.onFinalizeValue = s.onFinalizeValue + value ∧
    ∀ x, (s'.onFinalizeTransfers.lookup x).getD 0 = (s.onFinalizeTransfers.lookup x).getD 0 +
      (if x = c.treasuryAddress then c.treasuryGasFeeShare.mul value else 0) +
      (if x = dst then value - c.treasuryGasFeeShare.mul value else 0)

/-- `spend_gas_to`: it panics only for a `GasPerValue` multiplier, and a
success keeps the bank solvent and splits the spent value exactly. -/
theorem spendGasTo_spec (hS : Solvent c s) (dst who : A) (amount : ℕ) (m : GasMultiplier) :
    (m.isGasPerValue = false → spendGasTo c s dst who amount m ≠ none) ∧
      ∀ s', spendGasTo c s dst who amount m = some (.ok s') →
        Solvent c s' ∧ SpendSplit c dst s s' := by
  by_cases ha : amount = 0
  · refine ⟨fun _ => by simp [spendGasTo, ha], fun s' h => ?_⟩
    simp only [spendGasTo, ha, if_true, Option.some.injEq, Except.ok.injEq] at h
    subst h
    exact ⟨hS, 0, rfl, rfl, fun x => by simp [Percent.mul]⟩
  cases hv : m.gasToValue c.bmax amount with
  | none =>
    refine ⟨fun hm => ?_, fun s' h => ?_⟩
    · obtain ⟨value, hval⟩ := gasToValue_isSome hm amount c.bmax
      rw [hv] at hval
      cases hval
    · simp [spendGasTo, ha, withdrawGasNoTransfer, hv] at h
  | some value =>
    rcases withdrawGasNoTransfer_spec c who hS.covers hv with
      ⟨e, he⟩ | ⟨s1, hs1, hc1, ho1, hr1, hl1⟩
    · refine ⟨fun _ => by simp [spendGasTo, ha, he], fun s' h => ?_⟩
      simp [spendGasTo, ha, he] at h
    -- the share and the rest, each covered by what was taken off the ledger
    have hshare := c.treasuryGasFeeShare.mul_le value
    have hreg1 : s1.onFinalizeValue = registrySum s1 := by
      unfold registrySum
      rw [ho1, hr1, hS.registry]
      rfl
    obtain ⟨s2, hs2, hc2, hreg2, ho2, hb2, -, -, hl2⟩ :=
      withdrawOnFinalize_ok c c.treasuryAddress (v := c.treasuryGasFeeShare.mul value)
        (value - c.treasuryGasFeeShare.mul value) hreg1
        (by rw [show c.treasuryGasFeeShare.mul value + (value - c.treasuryGasFeeShare.mul value) =
          value by omega]; exact hc1)
    obtain ⟨s3, hs3, hc3, hreg3, ho3, hb3, -, -, hl3⟩ :=
      withdrawOnFinalize_ok c dst (v := value - c.treasuryGasFeeShare.mul value) 0 hreg2 hc2
    refine ⟨fun _ => by simp [spendGasTo, ha, hs1, hs2, hs3], fun s' h => ?_⟩
    simp only [spendGasTo, ha, hs1, hs2, hs3, if_false, Option.some.injEq, Except.ok.injEq] at h
    subst h
    refine ⟨⟨hreg3, hc3⟩, value, ?_, ?_, fun x => ?_⟩
    · rw [ledgerSum, hb3, hb2, ← ledgerSum, hl1]
    · omega
    · rw [hl3 x, hl2 x, hr1]

/-- `withdraw_value` and `transfer_value` never panic, and a success keeps
the bank solvent. -/
theorem withdrawValueTo_spec (hS : Solvent c s) (who dest : A) (value : ℕ) :
    withdrawValueTo c s who dest value ≠ none ∧
      ∀ s', withdrawValueTo c s who dest value = some (.ok s') → Solvent c s' := by
  by_cases hz : value = 0
  · refine ⟨by simp [withdrawValueTo, hz], fun s' h => ?_⟩
    simp only [withdrawValueTo, hz, if_true, Option.some.injEq, Except.ok.injEq] at h
    exact h ▸ hS
  rcases withdrawValueNoTransfer_spec c who value hS.covers with
    ⟨e, he⟩ | ⟨s1, hs1, hc1, ho1, hr1, -⟩
  · refine ⟨by simp [withdrawValueTo, hz, he], fun s' h => ?_⟩
    simp [withdrawValueTo, hz, he] at h
  obtain ⟨s2, hs2, hc2, -, ho2, hr2⟩ := withdraw_ok c dest 0 hc1
  refine ⟨by simp [withdrawValueTo, hz, hs1, hs2], fun s' h => ?_⟩
  simp only [withdrawValueTo, hz, hs1, hs2, if_false, Option.some.injEq, Except.ok.injEq] at h
  subst h
  exact Solvent.of_covers c hS hc2 (ho2.trans ho1) (hr2.trans hr1)

/-- `transfer_locked_value` moves value between two entries; the ledger's
sum, and with it solvency, stays. -/
theorem transferLockedValue_spec (hS : Solvent c s) {who dest : A} {value : ℕ}
    {s' : BankState A} (h : transferLockedValue c s who dest value = .ok s') : Solvent c s' := by
  unfold transferLockedValue at h
  by_cases hz : value = 0
  · rw [if_pos hz] at h
    exact Except.ok.inj h ▸ hS
  rw [if_neg hz] at h
  rcases withdrawValueNoTransfer_spec c who value hS.covers with
    ⟨e, he⟩ | ⟨s1, hs1, hc1, ho1, hr1, hl1⟩
  · rw [he] at h
    cases h
  rw [hs1] at h
  obtain rfl : creditValue c s1 dest value = s' := Except.ok.inj h
  have hf := hc1.funds
  have hacc : (accountOf s1 dest).gas + (accountOf s1 dest).value ≤ ledgerSum s1 :=
    accountOf_le_ledgerSum dest
  have hl : ledgerSum (creditValue c s1 dest value) = ledgerSum s1 + value :=
    ledgerSum_creditValue c (by have := hc1.bounded; omega)
  refine Solvent.of_covers c hS ⟨?_, hc1.bounded⟩ ho1 hr1
  rw [hl, creditValue_unusedValue, creditValue_onFinalizeValue, creditValue_bal]
  omega

/-- The drain of `on_finalize`: each registered payout is covered by the
ones still to come, so every `withdraw` succeeds. -/
theorem foldl_finalizeTransfer (l : List (Sigma fun _ : A => ℕ)) (t : BankState A)
    (h : Covers c t (l.map (·.2)).sum) :
    Covers c (l.foldl (finalizeTransfer c) t) 0 ∧
      (l.foldl (finalizeTransfer c) t).onFinalizeValue = t.onFinalizeValue ∧
      (l.foldl (finalizeTransfer c) t).onFinalizeTransfers = t.onFinalizeTransfers := by
  induction l generalizing t with
  | nil => exact ⟨h, rfl, rfl⟩
  | cons e l ih =>
    rw [List.map_cons, List.sum_cons] at h
    obtain ⟨t', ht', hc', -, ho', hr'⟩ := withdraw_ok c e.1 _ h
    have hstep : finalizeTransfer c t e = t' := by
      simp [finalizeTransfer, ht']
    rw [List.foldl_cons, hstep]
    obtain ⟨hc, ho, hr⟩ := ih t' hc'
    exact ⟨hc, ho.trans ho', hr.trans hr'⟩

/-- `on_finalize` pays every registered transfer and empties the registry
and `OnFinalizeValue`, keeping the bank solvent. -/
theorem onFinalize_solvent (hS : Solvent c s) : Solvent c (onFinalize c s) := by
  have hf := hS.covers.funds
  have hreg := hS.registry
  unfold registrySum AList.sumBy at hreg
  dsimp only at hreg
  obtain ⟨hc, ho, hr⟩ := foldl_finalizeTransfer c s.onFinalizeTransfers.entries
    { s with onFinalizeValue := 0, onFinalizeTransfers := ∅ }
    ⟨by unfold ledgerSum at hf ⊢; dsimp only; omega, hS.covers.bounded⟩
  refine ⟨?_, hc⟩
  unfold onFinalize registrySum
  rw [ho, hr]
  rfl

end Calls

/-! ## Runs -/

section Runs

variable {s : BankState A}

/-- No call panics unless it converts gas with a `GasPerValue` multiplier. -/
theorem Call.apply_ne_none (hS : Solvent c s) (call : Call A) (hg : call.gasPerValue c = false) :
    call.apply c s ≠ none := by
  cases call with
  | depositGas who amount keepAlive => exact (depositGas_spec c hS who amount keepAlive).1 hg
  | withdrawGas who amount m => exact (withdrawGas_spec c hS who amount m).1 hg
  | spendGasTo dst who amount m => exact (spendGasTo_spec c hS dst who amount m).1 hg
  | depositValue who value keepAlive => simp [Call.apply]
  | withdrawValue who value => exact (withdrawValueTo_spec c hS who who value).1
  | transferValue who dest value => exact (withdrawValueTo_spec c hS who dest value).1
  | transferLockedValue who dest value => simp [Call.apply]
  | onFinalize => simp [Call.apply]

/-- Every successful call other than a payment by the bank address to
itself keeps the bank solvent. -/
theorem Call.apply_solvent (hS : Solvent c s) (call : Call A) (hb : call.paidByBank c = false)
    {s' : BankState A} (h : call.apply c s = some (.ok s')) : Solvent c s' := by
  cases call with
  | depositGas who amount keepAlive =>
    have hne : who ≠ c.bankAddress := by simpa [Call.paidByBank] using hb
    exact (depositGas_spec c hS who amount keepAlive).2 hne s' h
  | withdrawGas who amount m => exact (withdrawGas_spec c hS who amount m).2 s' h
  | spendGasTo dst who amount m => exact ((spendGasTo_spec c hS dst who amount m).2 s' h).1
  | depositValue who value keepAlive =>
    have hne : who ≠ c.bankAddress := by simpa [Call.paidByBank] using hb
    exact depositValue_spec c hS hne (Option.some.inj h)
  | withdrawValue who value => exact (withdrawValueTo_spec c hS who who value).2 s' h
  | transferValue who dest value => exact (withdrawValueTo_spec c hS who dest value).2 s' h
  | transferLockedValue who dest value => exact transferLockedValue_spec c hS (Option.some.inj h)
  | onFinalize =>
    obtain rfl : Gear.Bank.onFinalize c s = s' := Except.ok.inj (Option.some.inj h)
    exact onFinalize_solvent c hS

/-- One call keeps the bank solvent: a failure or a panic leaves the storage
as it was. -/
theorem Call.next_solvent (hS : Solvent c s) (call : Call A) (hb : call.paidByBank c = false) :
    Solvent c (call.next c s) := by
  unfold Call.next
  split
  · next s' h => exact call.apply_solvent c hS hb h
  · exact hS

/-- Every run from a solvent storage whose calls the bank address does not
pay stays solvent. -/
theorem run_keeps_solvent (calls : List (Call A)) (hS : Solvent c s)
    (hb : ∀ call ∈ calls, call.paidByBank c = false) : Solvent c (run c s calls) := by
  induction calls generalizing s with
  | nil => exact hS
  | cons call calls ih =>
    exact ih (call.next_solvent c hS (hb call List.mem_cons_self))
      (fun call' h' => hb call' (List.mem_cons_of_mem _ h'))

/-- Bank solvency along every run from a solvent storage (genesis, with the
bank address holding its existential deposit, among them) in which the
bank address never pays into the bank: `OnFinalizeValue` is the sum of the
registry and the bank address holds its existential deposit and all it
owes, no call panics except through a `GasPerValue` multiplier, and every
`spend_gas_to` defers exactly the value it takes, split into the
treasury's share and the rest. -/
theorem run_solvent (s₀ : BankState A) (h₀ : Solvent c s₀) (calls : List (Call A))
    (hb : ∀ call ∈ calls, call.paidByBank c = false) :
    Solvent c (run c s₀ calls) ∧
      ∀ n (h : n < calls.length),
        (calls[n].gasPerValue c = false → calls[n].apply c (run c s₀ (calls.take n)) ≠ none) ∧
        ∀ dst who amount m s', calls[n] = .spendGasTo dst who amount m →
          calls[n].apply c (run c s₀ (calls.take n)) = some (.ok s') →
            SpendSplit c dst (run c s₀ (calls.take n)) s' := by
  refine ⟨run_keeps_solvent c calls h₀ hb, fun n h => ?_⟩
  have hS : Solvent c (run c s₀ (calls.take n)) :=
    run_keeps_solvent c _ h₀ (fun call hc => hb call (List.mem_of_mem_take hc))
  refine ⟨calls[n].apply_ne_none c hS, fun dst who amount m s' hcall happ => ?_⟩
  rw [hcall] at happ
  exact ((spendGasTo_spec c hS dst who amount m).2 s' happ).2

end Runs

/-- Two users lock value, one passes it on and a program's gas is spent:
from genesis, with the bank address holding the existential deposit, the run
stays solvent. -/
theorem run_solvent_genesis :
    Solvent ⟨1, 2 ^ 128 - 1, 0, 1, ⟨10, by decide⟩, .valuePerGas 2⟩
      (run ⟨1, 2 ^ 128 - 1, 0, 1, ⟨10, by decide⟩, .valuePerGas 2⟩
        (BankState.genesis fun a => if a = 0 then 1 else 100)
        [.depositValue 2 10 false, .depositGas 3 20 false, .transferValue 2 4 5,
          .spendGasTo 5 3 7 (.valuePerGas 2), .onFinalize]) :=
  (run_solvent _ _ (genesis_solvent _ (by decide) (by decide)) _ (by decide)).1

/-- The bank address paying into its own bank: the currency's transfer to
itself is a no-op while the ledger is credited, so (b) fails at once, and a
later `KeepAlive` withdrawal drains the bank below the existential deposit
and reaches the `unreachable!` of `withdraw`. -/
theorem run_bank_pays_itself :
    ¬ Covers ⟨1, 2 ^ 128 - 1, 0, 1, ⟨10, by decide⟩, .valuePerGas 2⟩
        (run ⟨1, 2 ^ 128 - 1, 0, 1, ⟨10, by decide⟩, .valuePerGas 2⟩
          (BankState.genesis fun a => if a = 0 then 1 else 100) [.depositValue 0 5 false]) 0 ∧
      (Call.withdrawValue 2 6).apply ⟨1, 2 ^ 128 - 1, 0, 1, ⟨10, by decide⟩, .valuePerGas 2⟩
        (run ⟨1, 2 ^ 128 - 1, 0, 1, ⟨10, by decide⟩, .valuePerGas 2⟩
          (BankState.genesis fun a => if a = 0 then 1 else 100)
          [.depositValue 0 5 false, .depositValue 2 10 false, .transferValue 0 3 5]) = none := by
  refine ⟨fun h => ?_, rfl⟩
  have hf := h.funds
  revert hf
  decide

end Gear.Bank
