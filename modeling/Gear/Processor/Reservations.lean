import Gear.Processor.Counters
import Gear.Reservation.Limits

/-!
# Reserving gas in an execution

`Ext::reserve_gas` charges the reservation fee, checks the duration and the
amount, reduces the gas left by `cost_for_reservation(amount, duration)` (the
amount and the rent of `reserve_for + duration` blocks, saturating) and
records the reservation in the gas reserver, all on a copy of the counters
that is applied only when every step succeeds (`with_changes`).
`Ext::unreserve_gas` asks the reserver; for a reservation made in this
execution it computes the cost again from the stored duration and gives it
back to the gas counter, where an overflow is an `unreachable!`.

An execution is a run of steps (`ExtRun`): the syscalls' charges, reductions
and counter synchronisation on the counters alone (`CountersStep`),
`reserve_gas`, `unreserve_gas`, and the marking of a reservation as used by a
reservation send. A run records the ids on which an `unreserve` or a
`mark_used` succeeded, as the reserver's runs do, and projects onto one of
them (`ExtRun.reserverRun`).

The gas left plus the costs of the reservations made and neither unreserved
nor used never exceeds `u64::MAX` (`ReimburseInv`), as each such cost was
taken off the gas left when the reservation was made; so the reimbursement
never overflows. A reservation made stays as it was made until an unreserve
or a use of its id, and a loaded one stays loaded or removed; so the first
successful unreserve of a reservation made returns its amount and gives back
exactly the cost that was taken, and that of a loaded one returns its amount
and leaves the counters alone (`run_reserve_unreserve_round_trip`).

At the saturated nonce `reserve` generates an id again once it has been
unreserved, and a later unreserve of the id of the first reservation returns
the amount of the second (`unreserve_returns_later_amount_at_saturated_nonce`).
-/

namespace Gear.Reservation

namespace GasReserver

variable {r : GasReserver} {spent : List ReservationId} {origin : ReservationId → Option ℕ}

/-- A state no call of the run touched by its id is where it was: `reserve`
only writes a fresh id. -/
theorem Run.lookup_of_not_spent {r₀ : GasReserver} (h : Run r₀ r spent origin)
    {id : ReservationId} {st : GasReservationState} (hid : id ∉ spent)
    (hl : r₀.states.lookup id = some st) : r.states.lookup id = some st := by
  induction h with
  | start => exact hl
  | @reserve r r' spent origin amount duration id' _ hr ih =>
    obtain ⟨-, rfl, hfresh, rfl⟩ := reserve_ok hr
    have hl' := ih hid
    have hne : id ≠ ⟨r.messageId, r.nonce⟩ := by
      rintro rfl
      exact hfresh (AList.lookup_isSome.mp (by rw [hl']; rfl))
    exact (AList.lookup_insert_ne hne).trans hl'
  | @unreserve r r' spent origin id' res _ hu ih =>
    have hne : id ≠ id' := fun he => hid (List.mem_append_right _ (List.mem_singleton.mpr he))
    have hl' := ih (fun hm => hid (List.mem_append_left _ hm))
    rcases unreserve_ok hu with ⟨_, _, -, -, rfl⟩ | ⟨_, -, -, rfl⟩
    · exact (AList.lookup_insert_ne hne).trans hl'
    · exact (AList.lookup_erase_ne hne).trans hl'
  | @markUsed r r' spent origin id' _ hm ih =>
    have hne : id ≠ id' := fun he => hid (List.mem_append_right _ (List.mem_singleton.mpr he))
    have hl' := ih (fun hm => hid (List.mem_append_left _ hm))
    rcases markUsed_ok hm with ⟨_, _, _, -, rfl⟩ | ⟨_, _, -, rfl⟩ <;>
      exact (AList.lookup_insert_ne hne).trans hl'

/-- What the state of a loaded reservation can be. -/
def IsLoaded (slot : GasReservationSlot) (st : Option GasReservationState) : Prop :=
  (∃ used, st = some (.exists slot.amount slot.start slot.finish used)) ∨
    st = some (.removed slot.finish)

/-- A loaded reservation found not removed is the slot it was loaded from. -/
theorem IsLoaded.exists_of_lookup {slot : GasReservationSlot} {st : Option GasReservationState}
    (h : IsLoaded slot st) {amount start finish : ℕ} {used : Bool}
    (hl : st = some (.exists amount start finish used)) :
    amount = slot.amount ∧ start = slot.start ∧ finish = slot.finish := by
  rcases h with ⟨_, h⟩ | h <;> rw [h] at hl <;> cases hl
  exact ⟨rfl, rfl, rfl⟩

/-- A loaded reservation is never one made in the execution. -/
theorem IsLoaded.not_created {slot : GasReservationSlot} {st : Option GasReservationState}
    (h : IsLoaded slot st) (amount duration : ℕ) (used : Bool) :
    st ≠ some (.created amount duration used) := by
  rintro rfl
  rcases h with ⟨_, h⟩ | h <;> cases h

/-- Each reservation of the map the reserver was created from is there,
loaded (used or not) or removed. -/
def LoadedIn (map : GasReservationMap) (r : GasReserver) : Prop :=
  ∀ id slot, map.lookup id = some slot → IsLoaded slot (r.states.lookup id)

theorem LoadedIn.lookup_isSome {map : GasReservationMap} (h : LoadedIn map r) {id : ReservationId}
    {slot : GasReservationSlot} (hs : map.lookup id = some slot) : (r.states.lookup id).isSome := by
  rcases h id slot hs with ⟨_, hl⟩ | hl <;> rw [hl] <;> rfl

/-- A call that changes the states at `id` only, and there as a loaded
reservation may change, keeps the loaded reservations. -/
theorem LoadedIn.update {map : GasReservationMap} (h : LoadedIn map r) {id : ReservationId}
    {states' : GasReservationStates}
    (hother : ∀ id', id' ≠ id → states'.lookup id' = r.states.lookup id')
    (hid : ∀ slot, map.lookup id = some slot → IsLoaded slot (states'.lookup id)) :
    LoadedIn map { r with states := states' } := by
  intro id' slot hs
  by_cases hid' : id' = id
  · subst hid'
    exact hid slot hs
  · rw [hother id' hid']
    exact h id' slot hs

theorem loadedIn_new (messageId : MessageId) (reservationNonce : Option ℕ)
    (map : GasReservationMap) (maxReservations : ℕ) :
    LoadedIn map (new messageId reservationNonce map maxReservations) := by
  intro id slot hs
  rw [lookup_new, hs]
  exact .inl ⟨false, rfl⟩

/-- Along every run of a reserver created by `GasReserver::new`, the
reservations of its map stay loaded or removed: none is created again. -/
theorem Run.loadedIn {messageId : MessageId} {reservationNonce : Option ℕ}
    {map : GasReservationMap} {maxReservations : ℕ}
    (h : Run (new messageId reservationNonce map maxReservations) r spent origin) :
    LoadedIn map r := by
  induction h with
  | start => exact loadedIn_new messageId reservationNonce map maxReservations
  | @reserve r r' spent origin amount duration id _ hr ih =>
    -- the fresh id is none of the map's, which are all present
    obtain ⟨-, rfl, hfresh, rfl⟩ := reserve_ok hr
    refine ih.update (fun _ hne => AList.lookup_insert_ne hne) fun slot hs => ?_
    exact absurd (AList.lookup_isSome.mp (ih.lookup_isSome hs)) hfresh
  | @unreserve r r' spent origin id res _ hu ih =>
    rcases unreserve_ok hu with ⟨start, finish, hl, -, rfl⟩ | ⟨duration, hl, -, rfl⟩
    · refine ih.update (fun _ hne => AList.lookup_insert_ne hne) fun slot hs => .inr ?_
      obtain ⟨-, -, rfl⟩ := (ih id slot hs).exists_of_lookup hl
      exact AList.lookup_insert _
    · refine ih.update (fun _ hne => AList.lookup_erase_ne hne) fun slot hs => ?_
      exact absurd hl ((ih id slot hs).not_created _ _ _)
  | @markUsed r r' spent origin id _ hm ih =>
    rcases markUsed_ok hm with ⟨amount, start, finish, hl, rfl⟩ | ⟨amount, duration, hl, rfl⟩
    · refine ih.update (fun _ hne => AList.lookup_insert_ne hne) fun slot hs => .inl ⟨true, ?_⟩
      obtain ⟨rfl, rfl, rfl⟩ := (ih id slot hs).exists_of_lookup hl
      exact AList.lookup_insert _
    · refine ih.update (fun _ hne => AList.lookup_insert_ne hne) fun slot hs => ?_
      exact absurd hl ((ih id slot hs).not_created _ _ _)

end GasReserver

end Gear.Reservation

namespace Gear.Processor

open Gear.Reservation (MessageId ReservationId ReservationError GasReservationSlot
  GasReservationState GasReservationMap GasReserver)

/-- `u32::MAX`. -/
def u32Max : ℕ := 2 ^ 32 - 1

/-- `CostOf::cost_for`: a saturating product. -/
def costFor (cost num : ℕ) : ℕ := min (cost * num) u64Max

/-- What `reserve_gas` and `unreserve_gas` read of the execution's context:
the reservation fee of the message context's settings, the mailbox
threshold, `reserve_for` (a `u32`) and the rent of a reservation per block. -/
structure ReserveSettings where
  reservationFee : ℕ
  mailboxThreshold : ℕ
  reserveFor : ℕ
  reservationCost : ℕ

/-- `Ext::cost_for_reservation`: the rent of `reserve_for + duration` blocks
(a saturating `u32` sum) and the amount, saturating. -/
def ReserveSettings.costForReservation (s : ReserveSettings) (amount duration : ℕ) : ℕ :=
  min (costFor s.reservationCost (min (s.reserveFor + duration) u32Max) + amount) u64Max

/-- The fields of `Ext` the gas syscalls read and write. -/
structure Ext where
  counters : Counters
  gasReserver : GasReserver
  settings : ReserveSettings

/-- `Ext::new`, on a context with these counters and this reserver. -/
def Ext.new (gasCounter : GasCounter) (gasAllowanceCounter : GasAllowanceCounter)
    (gasReserver : GasReserver) (settings : ReserveSettings) : Ext :=
  ⟨Counters.new gasCounter gasAllowanceCounter, gasReserver, settings⟩

/-- How `reserve_gas` fails. -/
inductive ReserveGasError
  | charge (e : ChargeError)
  | zeroReservationDuration
  | reservationBelowMailboxThreshold
  | notEnoughGas
  | reservation (e : ReservationError)
  /-- The `unreachable!` of `GasReserver::reserve` on an id it holds. -/
  | duplicateReservation

/-- `Ext::reserve_gas`: the changes to the counters are made on a copy and
applied with the reservation. -/
def Ext.reserveGas (ext : Ext) (amount duration : ℕ) : Except ReserveGasError (ReservationId × Ext) :=
  match ext.counters.chargeGasIfEnough ext.settings.reservationFee with
  | (.error e, _) => .error (.charge e)
  | (.ok (), counters) =>
    if duration = 0 then .error .zeroReservationDuration
    else if amount < ext.settings.mailboxThreshold then .error .reservationBelowMailboxThreshold
    else
      match counters.gasCounter.reduce (ext.settings.costForReservation amount duration) with
      | (.notEnough, _) => .error .notEnoughGas
      | (.enough, gasCounter) =>
        match ext.gasReserver.reserve amount duration with
        | .error (.error e) => .error (.reservation e)
        | .error .duplicateReservation => .error .duplicateReservation
        | .ok (id, gasReserver) =>
          .ok (id, { ext with
            counters := { counters with gasCounter := gasCounter }
            gasReserver := gasReserver })

/-- How `unreserve_gas` fails. -/
inductive UnreserveGasError
  | reservation (e : ReservationError)
  /-- The `unreachable!` of a reimbursement that overflows the gas left. -/
  | reimbursementOverflow

/-- `Ext::unreserve_gas`: a reservation made in this execution gives its cost
back to the gas counter. -/
def Ext.unreserveGas (ext : Ext) (id : ReservationId) : Except UnreserveGasError (ℕ × Ext) :=
  match ext.gasReserver.unreserve id with
  | .error e => .error (.reservation e)
  | .ok ((amount, none), gasReserver) => .ok (amount, { ext with gasReserver := gasReserver })
  | .ok ((amount, some reimbursement), gasReserver) =>
    match ext.counters.gasCounter.increase
        (ext.settings.costForReservation amount reimbursement.duration) with
    | (false, _) => .error .reimbursementOverflow
    | (true, gasCounter) =>
      .ok (amount, { ext with
        counters := { ext.counters with gasCounter := gasCounter }
        gasReserver := gasReserver })

/-! ## What each call does -/

section Calls

variable {ext ext' : Ext} {amount duration : ℕ} {id : ReservationId}

/-- A successful `reserve_gas`: the reserver reserved, the fee and the cost
taken off the gas left. -/
theorem reserveGas_ok (h : ext.reserveGas amount duration = .ok (id, ext')) :
    ext.gasReserver.reserve amount duration = .ok (id, ext'.gasReserver) ∧
      ext'.settings = ext.settings ∧
      ext'.counters.gasCounter.left + ext.settings.costForReservation amount duration +
        ext.settings.reservationFee = ext.counters.gasCounter.left := by
  unfold Ext.reserveGas at h
  split at h
  · cases h
  rename_i counters hfee
  obtain ⟨hleft, -, -⟩ := Counters.chargeGasIfEnough_ok hfee
  split_ifs at h
  split at h
  · cases h
  rename_i gasCounter hreduce
  obtain ⟨-, hleft', -⟩ := GasCounter.reduce_eq_enough hreduce
  split at h
  · cases h
  · cases h
  rename_i id' r' hr
  cases h
  refine ⟨hr, rfl, ?_⟩
  have hle := (GasCounter.reduce_eq_enough hreduce).1
  show gasCounter.left + _ + _ = _
  omega

/-- A successful `unreserve_gas`: of a loaded reservation, which leaves the
counters alone, or of one made in this execution, whose cost goes back to
the gas left. -/
theorem unreserveGas_ok {a : ℕ} (h : ext.unreserveGas id = .ok (a, ext')) :
    ext'.settings = ext.settings ∧
      (∃ res, ext.gasReserver.unreserve id = .ok (res, ext'.gasReserver)) ∧
      ((∃ start finish, ext.gasReserver.states.lookup id = some (.exists a start finish false) ∧
          ext'.counters = ext.counters) ∨
        (∃ duration, ext.gasReserver.states.lookup id = some (.created a duration false) ∧
          ext'.counters.gasCounter.left =
            ext.counters.gasCounter.left + ext.settings.costForReservation a duration)) := by
  unfold Ext.unreserveGas at h
  split at h
  · cases h
  · rename_i amount r' hu
    cases h
    refine ⟨rfl, ⟨_, hu⟩, .inl ?_⟩
    rcases GasReserver.unreserve_ok hu with ⟨start, finish, hl, -, -⟩ | ⟨_, -, hr, -⟩
    · exact ⟨start, finish, hl, rfl⟩
    · cases hr
  · rename_i amount reimbursement r' hu
    split at h
    · cases h
    rename_i gasCounter hinc
    cases h
    refine ⟨rfl, ⟨_, hu⟩, .inr ?_⟩
    rcases GasReserver.unreserve_ok hu with ⟨_, _, -, hr, -⟩ | ⟨duration, hl, hr, -⟩
    · cases hr
    cases hr
    refine ⟨duration, hl, ?_⟩
    unfold GasCounter.increase at hinc
    split_ifs at hinc
    · cases hinc
      rfl
    · cases hinc

end Calls

/-! ## Runs -/

/-- One step of an execution that goes on, with the ids on which an
`unreserve` or a `mark_used` succeeded. -/
inductive ExtStep : Ext → Ext → List ReservationId → Prop
  | counters {ext : Ext} {c : Counters} (h : CountersStep ext.counters c) :
      ExtStep ext { ext with counters := c } []
  | reserveGas {ext ext' : Ext} {id : ReservationId} (amount duration : ℕ)
      (h : ext.reserveGas amount duration = .ok (id, ext')) : ExtStep ext ext' []
  | unreserveGas {ext ext' : Ext} {amount : ℕ} (id : ReservationId)
      (h : ext.unreserveGas id = .ok (amount, ext')) : ExtStep ext ext' [id]
  /-- A reservation send or reply: the mutator checks the reservation is not
  used and `apply` marks it. -/
  | markReservationUsed {ext : Ext} {r : GasReserver} (id : ReservationId)
      (h : ext.gasReserver.markUsed id = .ok r) : ExtStep ext { ext with gasReserver := r } [id]

/-- The executions from `ext₀`. -/
inductive ExtRun (ext₀ : Ext) : Ext → List ReservationId → Prop
  | refl : ExtRun ext₀ ext₀ []
  | tail {ext ext' : Ext} {spent ids : List ReservationId} :
      ExtRun ext₀ ext spent → ExtStep ext ext' ids → ExtRun ext₀ ext' (spent ++ ids)

variable {ext₀ ext ext' : Ext} {spent ids : List ReservationId}

theorem ExtStep.settings (h : ExtStep ext ext' ids) : ext'.settings = ext.settings := by
  cases h with
  | counters => rfl
  | reserveGas _ _ h => exact (reserveGas_ok h).2.1
  | unreserveGas _ h => exact (unreserveGas_ok h).1
  | markReservationUsed => rfl

theorem ExtRun.settings (h : ExtRun ext₀ ext spent) : ext.settings = ext₀.settings := by
  induction h with
  | refl => rfl
  | tail _ hs ih => exact hs.settings.trans ih

/-- An execution runs its reserver. -/
theorem ExtRun.reserverRun (h : ExtRun ext₀ ext spent) :
    ∃ origin, GasReserver.Run ext₀.gasReserver ext.gasReserver spent origin := by
  induction h with
  | refl => exact ⟨_, .start⟩
  | tail _ hs ih =>
    obtain ⟨origin, hr⟩ := ih
    cases hs with
    | counters => exact ⟨origin, by rw [List.append_nil]; exact hr⟩
    | reserveGas _ _ h =>
      rw [List.append_nil]
      exact ⟨_, hr.reserve (reserveGas_ok h).1⟩
    | unreserveGas _ h =>
      obtain ⟨res, hu⟩ := (unreserveGas_ok h).2.1
      exact ⟨origin, hr.unreserve hu⟩
    | markReservationUsed _ h => exact ⟨origin, hr.markUsed h⟩

/-! ## The reimbursements fit -/

/-- What unreserving a state gives back to the gas left: the cost of a
reservation made in this execution and not used. -/
def reimbursable (s : ReserveSettings) : GasReservationState → ℕ
  | .created amount duration false => s.costForReservation amount duration
  | _ => 0

/-- The reimbursements a reserver still holds. -/
def pendingReimbursement (s : ReserveSettings) (r : GasReserver) : ℕ :=
  r.states.sumBy fun _ st => reimbursable s st

section Pending

variable (s : ReserveSettings) {r r' : GasReserver} {id : ReservationId}

/-- A reserver created by `GasReserver::new` holds no reimbursement. -/
theorem pendingReimbursement_new (messageId : MessageId) (reservationNonce : Option ℕ)
    (map : GasReservationMap) (maxReservations : ℕ) :
    pendingReimbursement s (GasReserver.new messageId reservationNonce map maxReservations) = 0 := by
  apply AList.sumBy_eq_zero
  intro id st hl
  rw [GasReserver.lookup_new] at hl
  obtain ⟨slot, -, rfl⟩ := Option.map_eq_some_iff.mp hl
  rfl

/-- A reservation made adds its cost. -/
theorem pendingReimbursement_reserve {amount duration : ℕ}
    (h : r.reserve amount duration = .ok (id, r')) :
    pendingReimbursement s r' = pendingReimbursement s r + s.costForReservation amount duration := by
  obtain ⟨-, -, hfresh, rfl⟩ := GasReserver.reserve_ok h
  exact AList.sumBy_insert_of_lookup_eq_none (AList.lookup_eq_none.mpr hfresh) _

/-- The cost of a reservation made, not used, is part of what is pending. -/
theorem costForReservation_le_pending {amount duration : ℕ}
    (hl : r.states.lookup id = some (.created amount duration false)) :
    s.costForReservation amount duration ≤ pendingReimbursement s r :=
  AList.le_sumBy (fun _ st => reimbursable s st) hl

/-- A successful unreserve takes off what it reimburses: nothing for a loaded
reservation, the cost for one made. -/
theorem pendingReimbursement_unreserve {res : ℕ × Option Gear.Reservation.UnreservedReimbursement}
    (h : r.unreserve id = .ok (res, r')) :
    pendingReimbursement s r' + reimbursable s ((r.states.lookup id).getD (.removed 0)) =
      pendingReimbursement s r := by
  rcases GasReserver.unreserve_ok h with ⟨start, finish, hl, -, rfl⟩ | ⟨duration, hl, -, rfl⟩
  · -- the tombstone replaces a loaded reservation: neither is reimbursed
    have hsum : (r.states.insert id (.removed finish)).sumBy (fun _ st => reimbursable s st) =
        r.states.sumBy (fun _ st => reimbursable s st) := AList.sumBy_insert_of_eq hl rfl
    rw [hl]
    exact hsum
  · rw [hl]
    exact (AList.sumBy_erase_add (fun _ st => reimbursable s st) hl).symm

/-- A use takes the reservation's cost off what is pending. -/
theorem pendingReimbursement_markUsed (h : r.markUsed id = .ok r') :
    pendingReimbursement s r' ≤ pendingReimbursement s r := by
  rcases GasReserver.markUsed_ok h with ⟨amount, start, finish, hl, rfl⟩ |
    ⟨amount, duration, hl, rfl⟩
  · have hsum : (r.states.insert id (.exists amount start finish true)).sumBy
          (fun _ st => reimbursable s st) = r.states.sumBy (fun _ st => reimbursable s st) :=
      AList.sumBy_insert_of_eq hl rfl
    exact hsum.le
  · have hsum : pendingReimbursement s
          { r with states := r.states.insert id (.created amount duration true) } +
        s.costForReservation amount duration = pendingReimbursement s r + 0 :=
      AList.sumBy_insert_add hl
    omega

end Pending

/-- The gas left and the reimbursements still to come fit in a `u64`. -/
def ReimburseInv (ext : Ext) : Prop :=
  ext.counters.gasCounter.left + pendingReimbursement ext.settings ext.gasReserver ≤ u64Max

theorem reimburseInv_new (gasCounter : GasCounter) (gasAllowanceCounter : GasAllowanceCounter)
    (messageId : MessageId) (reservationNonce : Option ℕ) (map : GasReservationMap)
    (maxReservations : ℕ) (settings : ReserveSettings) :
    ReimburseInv (Ext.new gasCounter gasAllowanceCounter
      (GasReserver.new messageId reservationNonce map maxReservations) settings) := by
  unfold ReimburseInv
  show gasCounter.left +
    pendingReimbursement settings (GasReserver.new messageId reservationNonce map maxReservations) ≤
      u64Max
  rw [pendingReimbursement_new, Nat.add_zero]
  exact gasCounter.left_le

/-- Under `ReimburseInv` the reimbursement fits: `unreserve_gas` never reaches
its `unreachable!`. -/
theorem ReimburseInv.unreserveGas_ne (h : ReimburseInv ext) (id : ReservationId) :
    ext.unreserveGas id ≠ .error .reimbursementOverflow := by
  unfold Ext.unreserveGas
  split
  · exact fun he => by cases he
  · exact fun he => by cases he
  · rename_i amount reimbursement r' hu
    rcases GasReserver.unreserve_ok hu with ⟨_, _, -, hr, -⟩ | ⟨duration, hl, hr, -⟩
    · cases hr
    cases hr
    -- the reservation's cost is part of the reimbursements still to come
    have hle : ext.settings.costForReservation amount duration ≤
        pendingReimbursement ext.settings ext.gasReserver := costForReservation_le_pending _ hl
    have hfit : ext.counters.gasCounter.left + ext.settings.costForReservation amount duration ≤
        u64Max := by
      unfold ReimburseInv at h
      omega
    rw [GasCounter.increase_of_le hfit]
    exact fun he => by cases he

theorem ExtStep.reimburseInv (hs : ExtStep ext ext' ids) (h : ReimburseInv ext) :
    ReimburseInv ext' := by
  unfold ReimburseInv at h ⊢
  cases hs with
  | counters hc =>
    have hle := hc.left_le
    exact le_trans (Nat.add_le_add_right hle _) h
  | reserveGas amount duration hres =>
    -- the new reservation's cost was taken off the gas left
    obtain ⟨hr, hset, hleft⟩ := reserveGas_ok hres
    rw [hset, pendingReimbursement_reserve _ hr]
    omega
  | unreserveGas id hun =>
    obtain ⟨hset, ⟨res, hu⟩, hcases⟩ := unreserveGas_ok hun
    have hsum := pendingReimbursement_unreserve ext.settings hu
    rw [hset]
    rcases hcases with ⟨_, _, hl, hc⟩ | ⟨_, hl, hleft⟩
    · rw [hc]
      omega
    · -- the cost goes back to the gas left as it leaves what is pending
      rw [hl, Option.getD_some, reimbursable] at hsum
      rw [hleft]
      omega
  | markReservationUsed id hm =>
    have hle := pendingReimbursement_markUsed ext.settings hm
    exact le_trans (Nat.add_le_add_left hle _) h

theorem ExtRun.reimburseInv (h : ExtRun ext₀ ext spent) (h₀ : ReimburseInv ext₀) :
    ReimburseInv ext := by
  induction h with
  | refl => exact h₀
  | tail _ hs ih => exact hs.reimburseInv ih

/-! ## The round trip -/

/-- Along every execution of a processor context, whose reserver is created
by `GasReserver::new` from the stored reservations `map`: (a) `unreserve_gas`
never reaches its `unreachable!`; (b) a successful `reserve_gas` takes the fee
and `cost_for_reservation(amount, duration)` off the gas left, and the first
successful `unreserve_gas` of the returned id after it (no unreserve or use
of the id succeeding in between) returns `amount` and gives back exactly that
cost; (c) a successful `unreserve_gas` of a stored reservation returns its
amount and leaves the counters as they were. -/
theorem run_reserve_unreserve_round_trip (gasCounter : GasCounter)
    (gasAllowanceCounter : GasAllowanceCounter) (messageId : MessageId)
    (reservationNonce : Option ℕ) (map : GasReservationMap) (maxReservations : ℕ)
    (settings : ReserveSettings) {ext : Ext} {spent : List ReservationId}
    (hrun : ExtRun (Ext.new gasCounter gasAllowanceCounter
      (GasReserver.new messageId reservationNonce map maxReservations) settings) ext spent) :
    (∀ id, ext.unreserveGas id ≠ .error .reimbursementOverflow) ∧
    (∀ {amount duration : ℕ} {id : ReservationId} {ext₁ : Ext},
      ext.reserveGas amount duration = .ok (id, ext₁) →
      ext₁.counters.gasCounter.left + settings.costForReservation amount duration +
          settings.reservationFee = ext.counters.gasCounter.left ∧
        ∀ {ext₂ : Ext} {spent₂ : List ReservationId} {a : ℕ} {ext₃ : Ext},
          ExtRun ext₁ ext₂ spent₂ → id ∉ spent₂ → ext₂.unreserveGas id = .ok (a, ext₃) →
          a = amount ∧ ext₃.counters.gasCounter.left =
            ext₂.counters.gasCounter.left + settings.costForReservation amount duration) ∧
    (∀ {id : ReservationId} {slot : GasReservationSlot} {a : ℕ} {ext' : Ext},
      map.lookup id = some slot → ext.unreserveGas id = .ok (a, ext') →
      a = slot.amount ∧ ext'.counters = ext.counters) := by
  have hset : ext.settings = settings := hrun.settings
  refine ⟨(hrun.reimburseInv (reimburseInv_new _ _ _ _ _ _ _)).unreserveGas_ne,
    fun {amount duration id ext₁} hres => ?_, fun {id slot a ext'} hs hun => ?_⟩
  · obtain ⟨hr, hset₁, hleft⟩ := reserveGas_ok hres
    rw [hset] at hleft
    refine ⟨hleft, fun {ext₂ spent₂ a ext₃} hrun₂ hid hun => ?_⟩
    -- the reservation stays as it was made until the unreserve
    obtain ⟨-, rfl, -, hr'⟩ := GasReserver.reserve_ok hr
    have hmade : ext₁.gasReserver.states.lookup ⟨ext.gasReserver.messageId, ext.gasReserver.nonce⟩ =
        some (.created amount duration false) := by
      rw [hr']
      exact AList.lookup_insert _
    obtain ⟨origin, hreserver⟩ := hrun₂.reserverRun
    have hl₂ := hreserver.lookup_of_not_spent hid hmade
    have hset₂ : ext₂.settings = settings := hrun₂.settings.trans (hset₁.trans hset)
    obtain ⟨-, -, ⟨_, _, hl, -⟩ | ⟨duration', hl, hleft₃⟩⟩ := unreserveGas_ok hun
    · rw [hl₂] at hl
      cases hl
    · rw [hl₂] at hl
      cases hl
      rw [hset₂] at hleft₃
      exact ⟨rfl, hleft₃⟩
  · -- a stored reservation is loaded or removed, never made in this execution
    obtain ⟨origin, hreserver⟩ := hrun.reserverRun
    have hloaded := hreserver.loadedIn id slot hs
    obtain ⟨-, -, ⟨_, _, hl, hc⟩ | ⟨_, hl, -⟩⟩ := unreserveGas_ok hun
    · rcases hloaded with ⟨_, hl'⟩ | hl' <;> rw [hl'] at hl <;> cases hl
      exact ⟨rfl, hc⟩
    · rcases hloaded with ⟨_, hl'⟩ | hl' <;> rw [hl'] at hl <;> cases hl

/-- A fee of 1 and a rent of 2 per block: reserving 5 for 3 blocks takes
1 + 11 off the gas left, and unreserving gives the 11 back. -/
theorem run_reserve_unreserve_round_trip_fee :
    let ext₀ := Ext.new (GasCounter.new 1000 (by decide)) (GasAllowanceCounter.new 1000 (by decide))
      (GasReserver.new 0 none ∅ 10) ⟨1, 0, 0, 2⟩
    let ext₁ : Ext := ⟨⟨⟨988, 1, by decide⟩, ⟨999, by decide⟩, .gasLimit⟩,
      ⟨0, 1, (∅ : Gear.Reservation.GasReservationStates).insert ⟨0, 0⟩ (.created 5 3 false), 10⟩,
      ⟨1, 0, 0, 2⟩⟩
    ext₀.reserveGas 5 3 = .ok (⟨0, 0⟩, ext₁) ∧
      ∃ ext₂, ext₁.unreserveGas ⟨0, 0⟩ = .ok (5, ext₂) ∧ ext₂.counters.gasCounter.left = 999 := by
  intro ext₀ ext₁
  obtain ⟨-, hpair, -⟩ := run_reserve_unreserve_round_trip (GasCounter.new 1000 (by decide))
    (GasAllowanceCounter.new 1000 (by decide)) 0 none ∅ 10 ⟨1, 0, 0, 2⟩ ExtRun.refl
  have hres : ext₀.reserveGas 5 3 = .ok (⟨0, 0⟩, ext₁) := rfl
  obtain ⟨-, hround⟩ := hpair hres
  obtain ⟨a, ext₂, hun⟩ : ∃ a ext₂, ext₁.unreserveGas ⟨0, 0⟩ = .ok (a, ext₂) := ⟨_, _, rfl⟩
  obtain ⟨rfl, hleft⟩ := hround ExtRun.refl (fun h => by cases h) hun
  have hcost : (⟨1, 0, 0, 2⟩ : ReserveSettings).costForReservation 5 3 = 11 := by decide
  have h₁ : ext₁.counters.gasCounter.left = 988 := rfl
  exact ⟨hres, ext₂, hun, by omega⟩

/-- From a stored reservation nonce of `u64::MAX`: a reservation of 5 is made
and unreserved, a reservation of 7 is made under the same id, and the next
unreserve of the id the first `reserve_gas` returned gives 7. -/
theorem unreserve_returns_later_amount_at_saturated_nonce :
    let ext₀ := Ext.new (GasCounter.new 1000 (by decide)) (GasAllowanceCounter.new 1000 (by decide))
      (GasReserver.new 0 (some u64Max) ∅ 10) ⟨0, 0, 0, 0⟩
    ∃ ext₁ ext₂ ext₃, ext₀.reserveGas 5 1 = .ok (⟨0, u64Max⟩, ext₁) ∧
      ExtRun ext₁ ext₂ [⟨0, u64Max⟩] ∧ ext₂.unreserveGas ⟨0, u64Max⟩ = .ok (7, ext₃) := by
  intro ext₀
  exact ⟨_, _, _, rfl, .tail (.tail .refl (.unreserveGas ⟨0, u64Max⟩ rfl)) (.reserveGas 7 1 rfl), rfl⟩

end Gear.Processor
