import Gear.GasTree.Consume
import Gear.GasTree.Move

/-!
# Runs of gas-tree operations

`Op` is one call of the `Tree`, `LockableTree` and `ReservableTree` interface
of `TreeImpl` with its arguments, `Op.apply` performs it and returns what the
call returns (`OpResult`), and `run` performs a list of calls from a storage.
The calls are not transactional: a failed call keeps whatever it wrote, so
`run` carries on from the storage each call leaves, successful or not.

Two step lemmas carry the whole development, and the run lemmas are induction
over the list of calls.

* On a storage satisfying `TreeInv`, every call leaves a storage satisfying
  `TreeInv` as long as no children counter saturates (`Op.apply_treeInv`).
* On a storage satisfying `StateInv` (also: total = value sum), every call
  whose `create` amount keeps the value sum within the balance type either
  fails with a user error and writes nothing, or succeeds, and then the total
  moves by exactly what the call reports: a `create` adds its amount, a
  `spend` or a `consume` subtracts the negative imbalance it returns
  (`Op.apply_outcome`).

Both need `ChildCountsFit` of the storage after the call. The children
counters are saturating `u32`s, and a provider with `u32::MAX` children of
one kind stops counting the next one; the module `Saturation` shows what goes
wrong then. Every storage reached by fewer than `u32::MAX` node-adding calls
fits (`childCountsFit_of_size`).
-/

namespace Gear.GasTree

variable {E K M : Type} [DecidableEq K]

open TreeState TreeImpl

/-! ## Calls and runs -/

/-- A call of `TreeImpl` with its arguments. -/
inductive Op (E K M : Type)
  | create (origin : E) (multiplier : M) (key : K) (amount : ℕ)
  | createDeposit (key newKey : K) (amount : ℕ)
  | split (key newKey : K)
  | splitWithValue (key newKey : K) (amount : ℕ)
  | cut (key newKey : K) (amount : ℕ)
  | reserve (key newKey : K) (amount : ℕ)
  | spend (key : K) (amount : ℕ)
  | consume (key : K)
  | lock (key : K) (id : LockId) (amount : ℕ)
  | unlock (key : K) (id : LockId) (amount : ℕ)
  | systemReserve (key : K) (amount : ℕ)
  | systemUnreserve (key : K)

/-- What a successful call returns: nothing, the positive imbalance of
`create`, the negative imbalance of `spend`, the output of `consume`, or the
amount `system_unreserve` gave back. -/
inductive OpResult (E M : Type)
  | unit
  | positive (amount : ℕ)
  | negative (amount : ℕ)
  | consumed (out : ConsumeOutput E M)
  | unreserved (amount : ℕ)

/-- The value a result takes out of the total: the `peek` of a negative
imbalance. -/
def OpResult.debit {E M : Type} : OpResult E M → ℕ
  | .negative amount => amount
  | .consumed out => consumedValue out
  | _ => 0

/-- A call's result mapped into `OpResult`, with the storage it left. -/
def withResult {α : Type} (f : α → OpResult E M) (r : Except GasTreeError α × TreeState E K M) :
    Except GasTreeError (OpResult E M) × TreeState E K M :=
  (r.1.map f, r.2)

/-- Perform one call. -/
def Op.apply (bmax : ℕ) (s : TreeState E K M) :
    Op E K M → Except GasTreeError (OpResult E M) × TreeState E K M
  | .create origin multiplier key amount =>
    withResult .positive (TreeImpl.create bmax s origin multiplier key amount)
  | .createDeposit key newKey amount =>
    withResult (fun _ => .unit) (TreeImpl.createDeposit s key newKey amount)
  | .split key newKey => withResult (fun _ => .unit) (TreeImpl.split s key newKey)
  | .splitWithValue key newKey amount =>
    withResult (fun _ => .unit) (TreeImpl.splitWithValue s key newKey amount)
  | .cut key newKey amount => withResult (fun _ => .unit) (TreeImpl.cut s key newKey amount)
  | .reserve key newKey amount =>
    withResult (fun _ => .unit) (TreeImpl.reserve s key newKey amount)
  | .spend key amount => withResult .negative (TreeImpl.spend s key amount)
  | .consume key => withResult .consumed (TreeImpl.consume bmax s key)
  | .lock key id amount => withResult (fun _ => .unit) (TreeImpl.lock bmax s key id amount)
  | .unlock key id amount => withResult (fun _ => .unit) (TreeImpl.unlock bmax s key id amount)
  | .systemReserve key amount =>
    withResult (fun _ => .unit) (TreeImpl.systemReserve bmax s key amount)
  | .systemUnreserve key => withResult .unreserved (TreeImpl.systemUnreserve bmax s key)

/-- The calls that neither create value nor take it out of the total. -/
def Op.keepsTotal {E K M : Type} : Op E K M → Bool
  | .create .. | .spend .. | .consume .. => false
  | _ => true

/-- The amount a call passes to `create`. -/
def Op.createAmount {E K M : Type} : Op E K M → ℕ
  | .create _ _ _ amount => amount
  | _ => 0

/-- The storage after a list of calls, each performed on the storage the one
before left. -/
def run (bmax : ℕ) : TreeState E K M → List (Op E K M) → TreeState E K M
  | s, [] => s
  | s, op :: ops => run bmax (op.apply bmax s).2 ops

/-- The sum of the amounts passed to `create`. -/
def createdSum {E K M : Type} (ops : List (Op E K M)) : ℕ := (ops.map Op.createAmount).sum

omit [DecidableEq K] in
@[simp] theorem createdSum_nil : createdSum ([] : List (Op E K M)) = 0 := rfl

omit [DecidableEq K] in
@[simp] theorem createdSum_cons (op : Op E K M) (ops : List (Op E K M)) :
    createdSum (op :: ops) = op.createAmount + createdSum ops := by
  simp [createdSum]

@[simp] theorem run_nil (bmax : ℕ) (s : TreeState E K M) : run bmax s [] = s := rfl

@[simp] theorem run_cons (bmax : ℕ) (s : TreeState E K M) (op : Op E K M) (ops : List (Op E K M)) :
    run bmax s (op :: ops) = run bmax (op.apply bmax s).2 ops := rfl

theorem run_append (bmax : ℕ) (s : TreeState E K M) (ops ops' : List (Op E K M)) :
    run bmax s (ops ++ ops') = run bmax (run bmax s ops) ops' := by
  induction ops generalizing s with
  | nil => rfl
  | cons op ops ih => exact ih _

/-! ## Outcomes of a mapped result -/

section Outcomes

variable {s : TreeState E K M}

omit [DecidableEq K] in
theorem Outcome.withResult {α : Type} {f : α → OpResult E M}
    {r : Except GasTreeError α × TreeState E K M} {P : α → TreeState E K M → Prop}
    {Q : OpResult E M → TreeState E K M → Prop} (h : Outcome s P r)
    (hPQ : ∀ a s', P a s' → Q (f a) s') : Outcome s Q (withResult f r) := by
  rcases r with ⟨_ | a, s'⟩
  · exact h
  · exact hPQ a s' h

omit [DecidableEq K] in
/-- After an outcome, the storage left satisfies what both the storage before
(a failed call) and the result of a successful one satisfy. -/
theorem Outcome.state {α : Type} {r : Except GasTreeError α × TreeState E K M}
    {P : α → TreeState E K M → Prop} {Q : TreeState E K M → Prop} (h : Outcome s P r)
    (hs : Q s) (hP : ∀ a, P a r.2 → Q r.2) : Q r.2 := by
  rcases r with ⟨_ | a, s'⟩
  · rw [h.2]
    exact hs
  · exact hP a h

/-- A call that `Keeps` the storage, once the total is the value sum and the
value sum fits the balance type, keeps `StateInv` and the total. -/
theorem Keeps.stateInv {bmax : ℕ} {α : Type} {a : α} {s' : TreeState E K M}
    (hS : StateInv s) (hb : valueSum s ≤ bmax) (h : Keeps bmax s a s') :
    StateInv s' ∧ s'.totalSupply = s.totalSupply := by
  obtain ⟨hI, htot, hval⟩ := h
  have hsup : s'.totalSupply = s.totalSupply := by
    unfold totalSupply
    rw [htot]
  exact ⟨⟨hI, by rw [hsup, hS.supply, hval hb]⟩, hsup⟩

end Outcomes

/-! ## One call -/

section Step

variable (bmax : ℕ) {s : TreeState E K M}

/-- What the calls other than `create`, `spend` and `consume` do: they fail
with a user error and no write, or keep the storage once the counters fit. -/
theorem Op.apply_keeps (hI : TreeInv s) (op : Op E K M) (hop : op.keepsTotal = true) :
    Outcome s (fun res s' => ChildCountsFit s' → Keeps bmax s res s' ∧ res.debit = 0)
      (op.apply bmax s) := by
  -- the calls whose spec needs no counter room, lifted to the fitting form
  have lift : ∀ {α : Type} {r : Except GasTreeError α × TreeState E K M}
      (f : α → OpResult E M), (∀ a, (f a).debit = 0) → Outcome s (Keeps bmax s) r →
      Outcome s (fun res s' => ChildCountsFit s' → Keeps bmax s res s' ∧ res.debit = 0)
        (withResult f r) := by
    intro α r f hf h
    exact h.withResult fun a s' hk _ => ⟨⟨hk.1, hk.2.1, hk.2.2⟩, hf a⟩
  cases op with
  | create | spend | consume => cases hop
  | createDeposit key newKey amount =>
    exact lift _ (fun _ => rfl) (createDeposit_spec bmax hI key newKey amount)
  | split key newKey =>
    exact (split_spec bmax hI key newKey).withResult fun a s' hk hfit =>
      ⟨⟨(hk hfit).1, (hk hfit).2.1, (hk hfit).2.2⟩, rfl⟩
  | splitWithValue key newKey amount =>
    exact (splitWithValue_spec bmax hI key newKey amount).withResult fun a s' hk hfit =>
      ⟨⟨(hk hfit).1, (hk hfit).2.1, (hk hfit).2.2⟩, rfl⟩
  | cut key newKey amount => exact lift _ (fun _ => rfl) (cut_spec bmax hI key newKey amount)
  | reserve key newKey amount =>
    exact lift _ (fun _ => rfl) (reserve_spec bmax hI key newKey amount)
  | lock key id amount => exact lift _ (fun _ => rfl) (lock_spec bmax hI key id amount)
  | unlock key id amount => exact lift _ (fun _ => rfl) (unlock_spec bmax hI key id amount)
  | systemReserve key amount =>
    exact lift _ (fun _ => rfl) (systemReserve_spec bmax hI key amount)
  | systemUnreserve key => exact lift _ (fun _ => rfl) (systemUnreserve_spec bmax hI key)

/-- Every call keeps `TreeInv` while the counters fit, whether it succeeds or
fails: `create`, `spend` and `consume` may fail after a write, the others
fail before writing. -/
theorem Op.apply_treeInv (hI : TreeInv s) (op : Op E K M)
    (hfit : ChildCountsFit (op.apply bmax s).2) : TreeInv (op.apply bmax s).2 := by
  cases op with
  | create origin multiplier key amount => exact create_treeInv bmax hI origin multiplier key amount
  | spend key amount => exact spend_treeInv hI key amount
  | consume key => exact consume_treeInv bmax hI key
  | _ =>
    exact (Op.apply_keeps bmax hI _ rfl).state (Q := TreeInv) hI
      fun _ hk => (hk hfit).1.1

/-- One call on a storage whose total is its value sum: a user error without
a write, or a success after which the total is again the value sum and moved
by exactly the amount created less the value the result takes out. -/
theorem Op.apply_outcome (hS : StateInv s) (op : Op E K M)
    (hb : valueSum s + op.createAmount ≤ bmax) :
    Outcome s (fun res s' => ChildCountsFit s' →
        StateInv s' ∧ s'.totalSupply + res.debit = s.totalSupply + op.createAmount)
      (op.apply bmax s) := by
  have hb' : valueSum s ≤ bmax := le_trans (Nat.le_add_right _ _) hb
  cases op with
  | create origin multiplier key amount =>
    refine (create_outcome bmax hS origin multiplier key amount hb).withResult ?_
    rintro a s' ⟨hS', -, hsup⟩ -
    exact ⟨hS', by rw [hsup]; rfl⟩
  | spend key amount =>
    refine (spend_outcome hS key amount).withResult ?_
    rintro a s' ⟨hS', rfl, hsup⟩ -
    exact ⟨hS', by rw [← hsup]; rfl⟩
  | consume key =>
    refine (consume_outcome bmax hS hb' key).withResult ?_
    rintro out s' ⟨hS', hsup⟩ -
    exact ⟨hS', by rw [← hsup]; rfl⟩
  | _ =>
    refine (Op.apply_keeps bmax hS.tree _ rfl).mono ?_
    intro res s' hk hfit
    obtain ⟨hkeep, hdeb⟩ := hk hfit
    obtain ⟨hS', hsup⟩ := hkeep.stateInv hS hb'
    exact ⟨hS', by rw [hdeb, hsup]; rfl⟩

end Step

/-! ## Runs -/

section Runs

variable (bmax : ℕ)

/-- Along a run whose every prefix fits the counters, `TreeInv` holds. -/
theorem run_treeInv : ∀ (ops : List (Op E K M)) {s : TreeState E K M}, TreeInv s →
    (∀ n, ChildCountsFit (run bmax s (ops.take n))) → TreeInv (run bmax s ops)
  | [], _, hI, _ => hI
  | op :: ops, _, hI, hfit =>
    run_treeInv ops (Op.apply_treeInv bmax hI op (hfit 1)) fun n => hfit (n + 1)

/-- Along a run whose creations fit the balance type and whose every prefix
fits the counters, `StateInv` holds, and the total never exceeds what was
created. -/
theorem run_stateInv : ∀ (ops : List (Op E K M)) {s : TreeState E K M}, StateInv s →
    s.totalSupply + createdSum ops ≤ bmax → (∀ n, ChildCountsFit (run bmax s (ops.take n))) →
    StateInv (run bmax s ops) ∧ (run bmax s ops).totalSupply ≤ s.totalSupply + createdSum ops
  | [], _, hS, _, _ => ⟨hS, by simp⟩
  | op :: ops, s, hS, hb, hfit => by
    rw [createdSum_cons] at hb
    have hstep := Op.apply_outcome bmax hS op (by rw [← hS.supply]; omega)
    -- the call's storage satisfies `StateInv` with a total below `s`'s plus its creation
    have hnext : StateInv (op.apply bmax s).2 ∧
        (op.apply bmax s).2.totalSupply ≤ s.totalSupply + op.createAmount := by
      refine hstep.state (Q := fun s' => StateInv s' ∧
        s'.totalSupply ≤ s.totalSupply + op.createAmount) ⟨hS, by omega⟩ fun res h => ?_
      obtain ⟨hS', hsup⟩ := h (hfit 1)
      exact ⟨hS', by omega⟩
    obtain ⟨hS', hle⟩ := run_stateInv ops hnext.1 (by omega) fun n => hfit (n + 1)
    exact ⟨hS', by rw [run_cons, createdSum_cons]; omega⟩

end Runs

/-! ## Runs from empty storage -/

section Reachable

variable (bmax : ℕ)

/-- The empty storage: no nodes and no total. -/
theorem StateInv.empty : StateInv (TreeState.empty : TreeState E K M) := by
  have hnone : ∀ k, (TreeState.empty : TreeState E K M).nodes.lookup k = none := by
    intro k
    rfl
  refine ⟨⟨⟨fun k n p hk => ?_, ⟨fun _ => 0, fun k n p hk => ?_⟩⟩,
    ⟨fun k n hk => ?_, fun k n hk => ?_⟩, fun k n hk => ?_⟩, rfl⟩
  all_goals
    rw [hnone] at hk
    cases hk

theorem children_le_size (kd : GasNode.Kind) (s : TreeState E K M) (p : K) :
    children kd s p ≤ s.size := by
  unfold children TreeState.size
  rw [← AList.sumBy_one]
  apply AList.sumBy_le_sumBy
  intro _ n _
  unfold childWeight
  split <;> omega

/-- A storage of at most `u32::MAX` nodes has no provider with more children
of one kind than its counters hold. -/
theorem childCountsFit_of_size {s : TreeState E K M} (h : s.size ≤ u32Max) :
    ChildCountsFit s :=
  fun p => ⟨(children_le_size _ s p).trans h, (children_le_size _ s p).trans h⟩

/-- A run fits the counters when every prefix storage has at most
`u32::MAX` nodes; past the end of the run the prefixes repeat. -/
theorem fits_of_take_size {s : TreeState E K M} (ops : List (Op E K M))
    (h : ∀ n, n ≤ ops.length → (run bmax s (ops.take n)).size ≤ u32Max) :
    ∀ n, ChildCountsFit (run bmax s (ops.take n)) := by
  intro n
  by_cases hn : n ≤ ops.length
  · exact childCountsFit_of_size (h n hn)
  · rw [List.take_of_length_le (by omega)]
    have hall := h ops.length le_rfl
    rw [List.take_length] at hall
    exact childCountsFit_of_size hall

omit [DecidableEq K] in
theorem createdSum_append (ops ops' : List (Op E K M)) :
    createdSum (ops ++ ops') = createdSum ops + createdSum ops' := by
  simp [createdSum]

omit [DecidableEq K] in
/-- Calls none of which is a `create` create nothing. -/
theorem createdSum_map_eq_zero {α : Type} (f : α → Op E K M) (l : List α)
    (h : ∀ a, (f a).createAmount = 0) : createdSum (l.map f) = 0 := by
  unfold createdSum
  rw [List.map_map]
  apply List.sum_eq_zero
  intro x hx
  obtain ⟨a, -, rfl⟩ := List.mem_map.mp hx
  exact h a

omit [DecidableEq K] in
/-- The creations before the `n`-th call and its own are part of all of them. -/
theorem createdSum_take_add_le (ops : List (Op E K M)) (n : ℕ) (h : n < ops.length) :
    createdSum (ops.take n) + ops[n].createAmount ≤ createdSum ops := by
  have e1 : createdSum (ops.take (n + 1)) = createdSum (ops.take n) + ops[n].createAmount := by
    rw [← List.take_concat_get' ops n h, createdSum_append]
    simp [createdSum]
  have e2 : createdSum ops = createdSum (ops.take (n + 1)) + createdSum (ops.drop (n + 1)) := by
    rw [← createdSum_append, List.take_append_drop]
  omega

/-- The storage after the first `n + 1` calls is the `n`-th call's on the
storage after the first `n`. -/
theorem run_take_succ (s : TreeState E K M) (ops : List (Op E K M)) (n : ℕ)
    (h : n < ops.length) :
    run bmax s (ops.take (n + 1)) = (ops[n].apply bmax (run bmax s (ops.take n))).2 := by
  rw [← List.take_concat_get' ops n h, run_append]
  rfl

omit [DecidableEq K] in
theorem Outcome.mono_result {α : Type} {s : TreeState E K M} {r : Except GasTreeError α × TreeState E K M}
    {P Q : α → TreeState E K M → Prop} (h : Outcome s P r) (hPQ : ∀ a, P a r.2 → Q a r.2) :
    Outcome s Q r := by
  rcases r with ⟨_ | a, s'⟩
  · exact h
  · exact hPQ a h

omit [DecidableEq K] in
/-- An error in an outcome is a user error. -/
theorem Outcome.isUserError {α : Type} {s : TreeState E K M}
    {r : Except GasTreeError α × TreeState E K M} {P : α → TreeState E K M → Prop}
    (h : Outcome s P r) {e : GasTreeError} (he : r.1 = .error e) : e.isUserError = true := by
  rcases r with ⟨_ | a, s'⟩
  · cases he
    exact h.1
  · cases he

theorem GasTreeError.not_invariant_of_isUserError {e : GasTreeError} (h : e.isUserError = true) :
    e.isInvariantError = false ∧ e ≠ .totalValueIsUnderflowed := by
  cases e <;> simp_all [GasTreeError.isUserError, GasTreeError.isInvariantError]

/-- Before each call of a run from empty storage that fits the balance type
and the counters, the storage satisfies `StateInv`, with a total at most what
was created so far. -/
theorem run_take_stateInv (ops : List (Op E K M)) (hb : createdSum ops ≤ bmax)
    (hfit : ∀ n, ChildCountsFit (run bmax .empty (ops.take n))) (n : ℕ) :
    StateInv (run bmax .empty (ops.take n)) ∧
      (run bmax .empty (ops.take n)).totalSupply ≤ createdSum (ops.take n) := by
  have hle : createdSum (ops.take n) ≤ createdSum ops := by
    have e := createdSum_append (ops.take n) (ops.drop n)
    rw [List.take_append_drop] at e
    omega
  have h0 : (TreeState.empty : TreeState E K M).totalSupply = 0 := rfl
  have hrun := run_stateInv bmax (ops.take n) StateInv.empty (by omega) fun m => by
    rw [List.take_take]
    exact hfit _
  rw [h0, Nat.zero_add] at hrun
  exact hrun

/-- The `n`-th call of such a run: a user error without a write, or a success
after which `StateInv` holds and the total moved by its creation less its
negative imbalance. -/
theorem run_step_outcome (ops : List (Op E K M)) (hb : createdSum ops ≤ bmax)
    (hfit : ∀ n, ChildCountsFit (run bmax .empty (ops.take n))) (n : ℕ) (h : n < ops.length) :
    Outcome (run bmax .empty (ops.take n))
      (fun res s' => StateInv s' ∧ s'.totalSupply + res.debit =
        (run bmax .empty (ops.take n)).totalSupply + ops[n].createAmount)
      (ops[n].apply bmax (run bmax .empty (ops.take n))) := by
  obtain ⟨hS, hsup⟩ := run_take_stateInv bmax ops hb hfit n
  have hroom := createdSum_take_add_le ops n h
  have hstep := Op.apply_outcome bmax hS ops[n] (by rw [← hS.supply]; omega)
  refine hstep.mono_result fun res hP => hP ?_
  rw [← run_take_succ bmax _ ops n h]
  exact hfit (n + 1)

/-- Value conservation: along every run from empty storage whose creations
fit the balance type and whose counters never saturate, the total is the
value the nodes hold, and each call fails with a user error and no write, or
moves the total by exactly its creation less the negative imbalance it
returns. -/
theorem run_conserves_value (ops : List (Op E K M)) (hb : createdSum ops ≤ bmax)
    (hfit : ∀ n, ChildCountsFit (run bmax .empty (ops.take n))) :
    (run bmax .empty ops).totalSupply = valueSum (run bmax .empty ops) ∧
      ∀ n (h : n < ops.length), Outcome (run bmax .empty (ops.take n))
        (fun res s' => s'.totalSupply + res.debit =
          (run bmax .empty (ops.take n)).totalSupply + ops[n].createAmount)
        (ops[n].apply bmax (run bmax .empty (ops.take n))) := by
  have h0 : (TreeState.empty : TreeState E K M).totalSupply = 0 := rfl
  have hS := run_stateInv bmax ops StateInv.empty (by rw [h0, Nat.zero_add]; exact hb) hfit
  refine ⟨hS.1.supply, fun n h => ?_⟩
  exact (run_step_outcome bmax ops hb hfit n h).mono fun _ _ hP => hP.2

/-- A root of 10, an unspecified child, 3 of the root's value locked in the
child, then the root consumed: every total along the way is the value sum. -/
theorem run_conserves_value_lock_consume :
    let ops : List (Op Unit ℕ Unit) :=
      [.create () () 0 10, .split 0 1, .lock 1 .mailbox 3, .consume 0]
    (run 100 .empty ops).totalSupply = valueSum (run 100 .empty ops) ∧
      ∀ n (h : n < ops.length), Outcome (run 100 .empty (ops.take n))
        (fun res s' => s'.totalSupply + res.debit =
          (run 100 .empty (ops.take n)).totalSupply + ops[n].createAmount)
        (ops[n].apply 100 (run 100 .empty (ops.take n))) :=
  run_conserves_value 100 _ (by decide) (fits_of_take_size 100 _ (by decide))

/-- The shape the property tests check: `TreeInv` (parents stored and able to
have children, exact counters, consumed nodes settled), every root field
naming the `External` or `Reserved` end of the node's parent chain, an origin
for every node, and no children under a `Cut` or `UnspecifiedLocal` node. -/
structure TreeShape (s : TreeState E K M) : Prop where
  inv : TreeInv s
  roots : ∀ k n rt, s.nodes.lookup k = some n → n.rootId = some rt →
    ReachesRoot s k rt ∧ ∃ rn, s.nodes.lookup rt = some rn ∧
      (rn.kind = .external ∨ rn.kind = .reserved)
  origin : ∀ k n, s.nodes.lookup k = some n → ∃ o m rt, getOriginNode s k = .ok (o, m, rt)
  childless : ∀ k n, s.nodes.lookup k = some n → n.kind.canParent = false →
    ∀ j m, s.nodes.lookup j = some m → m.parent ≠ some k

theorem TreeInv.shape {s : TreeState E K M} (hI : TreeInv s) : TreeShape s :=
  ⟨hI, fun k n rt hk hrt => ⟨hI.linked.reaches_root k n rt hk hrt, hI.linked.root_ok k n rt hk hrt⟩,
    fun _ _ hk => getOriginNode_ok hI.linked hk, fun _ _ hk hcan => hI.linked.no_children hk hcan⟩

/-- The shape invariant along every run from empty storage, successful and
failed calls alike, whose counters never saturate. -/
theorem run_tree_shape (ops : List (Op E K M))
    (hfit : ∀ n, ChildCountsFit (run bmax .empty (ops.take n))) :
    TreeShape (run bmax .empty ops) :=
  (run_treeInv bmax ops StateInv.empty.tree hfit).shape

/-- A specified child with a value and a `Cut` root taken from it, then the
child consumed. -/
theorem run_tree_shape_cut_consume :
    TreeShape (run 100 (.empty : TreeState Unit ℕ Unit)
      [.create () () 0 10, .splitWithValue 0 1 4, .cut 1 2 1, .consume 1]) :=
  run_tree_shape 100 _ (fits_of_take_size 100 _ (by decide))

/-- No invariant error: along every run from empty storage whose creations
fit the balance type and whose counters never saturate, every call that fails
fails with a user error — never one of `assert_not_invariant_error`'s
variants, nor an underflowing total. -/
theorem run_no_invariant_error (ops : List (Op E K M)) (hb : createdSum ops ≤ bmax)
    (hfit : ∀ n, ChildCountsFit (run bmax .empty (ops.take n))) :
    ∀ n (h : n < ops.length) e,
      (ops[n].apply bmax (run bmax .empty (ops.take n))).1 = .error e →
        e.isInvariantError = false ∧ e ≠ .totalValueIsUnderflowed := by
  intro n h e he
  exact GasTreeError.not_invariant_of_isUserError
    ((run_step_outcome bmax ops hb hfit n h).isUserError he)

/-- A run whose calls fail: a spend beyond the value, a split under a taken
key, a second consume. -/
theorem run_no_invariant_error_failing_calls :
    let ops : List (Op Unit ℕ Unit) :=
      [.create () () 0 10, .spend 0 20, .split 0 0, .consume 0, .consume 0]
    ∀ n (h : n < ops.length) e,
      (ops[n].apply 100 (run 100 .empty (ops.take n))).1 = .error e →
        e.isInvariantError = false ∧ e ≠ .totalValueIsUnderflowed :=
  run_no_invariant_error 100 _ (by decide) (fits_of_take_size 100 _ (by decide))

end Reachable

end Gear.GasTree
