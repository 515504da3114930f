import Gear.Reservation.Reserver

/-!
# What the gas reserver guarantees over a run

One lemma per call says everything a successful call does (`reserve_ok`,
`unreserve_ok`, `markUsed_ok`), and the run lemmas follow from them.

* The limit. `reserve` refuses only when more than `max_reservations` states
  count, so it succeeds with exactly `max_reservations` of them, and a reserver
  created from an empty map reaches `max_reservations + 1`
  (`reserve_exceeds_max_reservations`). That is the bound every run keeps
  (`run_currentReservations_le`); the field's documentation and that of
  `check_execution_limit` ("less than `max_reservations`") promise one less.
* Spent once. Along a run from `GasReserver::new` in which the nonce stays
  below `u64::MAX`, no id is unreserved or used twice (`run_spent_nodup`): a
  spent id is absent, removed or used, and an id the run generates again would
  need the nonce of an earlier one. At the saturated nonce `reserve` generates
  the same id again, and a reservation unreserved can be made and unreserved
  again (`spent_twice_at_saturated_nonce`).
* Amounts. A successful `unreserve` returns the amount its reservation was
  loaded or created with (`run_unreserve_amount`).
* `into_map` keeps exactly the states that are not `Removed` (`mem_intoMap`).

`run_reserver_limits` gathers the four along every run.
-/

namespace Gear.Reservation

open GasReservationState

namespace GasReserver

variable {r r' : GasReserver}

/-! ## What each call does -/

theorem checkExecutionLimit_eq_ok :
    r.checkExecutionLimit = .ok () ↔ r.currentReservations ≤ r.maxReservations := by
  unfold checkExecutionLimit
  split_ifs with h <;> simp <;> omega

/-- A successful `reserve`: at most `max_reservations` states counted before
it, and the id of the current nonce, fresh, created. -/
theorem reserve_ok {amount duration : ℕ} {id : ReservationId}
    (h : r.reserve amount duration = .ok (id, r')) :
    r.currentReservations ≤ r.maxReservations ∧ id = ⟨r.messageId, r.nonce⟩ ∧ id ∉ r.states ∧
      r' = { r with
        nonce := min (r.nonce + 1) u64Max
        states := r.states.insert id (.created amount duration false) } := by
  unfold reserve at h
  split at h
  · cases h
  · rename_i hc
    dsimp only at h
    split_ifs at h with hmem
    cases h
    exact ⟨checkExecutionLimit_eq_ok.mp hc, rfl, hmem, rfl⟩

/-- With at most `max_reservations` states counted and the id of the current
nonce fresh, `reserve` succeeds. -/
theorem reserve_of_le (hle : r.currentReservations ≤ r.maxReservations)
    (hfresh : (⟨r.messageId, r.nonce⟩ : ReservationId) ∉ r.states) (amount duration : ℕ) :
    r.reserve amount duration = .ok (⟨r.messageId, r.nonce⟩, { r with
      nonce := min (r.nonce + 1) u64Max
      states := r.states.insert ⟨r.messageId, r.nonce⟩ (.created amount duration false) }) := by
  have hc : r.checkExecutionLimit = .ok () := checkExecutionLimit_eq_ok.mpr hle
  simp [reserve, hc, hfresh]

/-- A successful `unreserve`: of a loaded reservation not used, which becomes
`Removed`, or of one created and not used, which goes. -/
theorem unreserve_ok {id : ReservationId} {res : ℕ × Option UnreservedReimbursement}
    (h : r.unreserve id = .ok (res, r')) :
    (∃ start finish, r.states.lookup id = some (.exists res.1 start finish false) ∧
        res.2 = none ∧ r' = { r with states := r.states.insert id (.removed finish) }) ∨
      (∃ duration, r.states.lookup id = some (.created res.1 duration false) ∧
        res.2 = some ⟨duration⟩ ∧ r' = { r with states := r.states.erase id }) := by
  unfold unreserve at h
  split at h
  · rename_i amount start finish hl
    cases h
    exact .inl ⟨start, finish, hl, rfl, rfl⟩
  · rename_i amount duration hl
    cases h
    exact .inr ⟨duration, hl, rfl, rfl⟩
  · cases h

/-- A successful `mark_used`: of a reservation loaded or created and not used,
which is then used. -/
theorem markUsed_ok {id : ReservationId} (h : r.markUsed id = .ok r') :
    (∃ amount start finish, r.states.lookup id = some (.exists amount start finish false) ∧
        r' = { r with states := r.states.insert id (.exists amount start finish true) }) ∨
      (∃ amount duration, r.states.lookup id = some (.created amount duration false) ∧
        r' = { r with states := r.states.insert id (.created amount duration true) }) := by
  unfold markUsed at h
  split at h
  · rename_i amount start finish hl
    cases h
    exact .inl ⟨amount, start, finish, hl, rfl⟩
  · rename_i amount duration hl
    cases h
    exact .inr ⟨amount, duration, hl, rfl⟩
  · cases h

/-- A reservation just made can be unreserved at once. -/
theorem unreserve_after_reserve {amount duration : ℕ} {id : ReservationId}
    (hr : r.reserve amount duration = .ok (id, r')) :
    r'.unreserve id = .ok ((amount, some ⟨duration⟩), { r' with states := r'.states.erase id }) := by
  obtain ⟨-, -, -, rfl⟩ := reserve_ok hr
  simp [unreserve]

/-- The reserver `new` makes holds each stored slot as a loaded reservation. -/
theorem lookup_new (messageId : MessageId) (reservationNonce : Option ℕ)
    (map : GasReservationMap) (maxReservations : ℕ) (id : ReservationId) :
    (new messageId reservationNonce map maxReservations).states.lookup id =
      (map.lookup id).map ofSlot := by
  simp only [new, AList.lookup_filterMap]
  cases map.lookup id <;> rfl

/-! ## The count -/

theorem currentReservations_reserve {amount duration : ℕ} {id : ReservationId}
    (h : r.reserve amount duration = .ok (id, r')) :
    r'.currentReservations = r.currentReservations + 1 := by
  obtain ⟨-, -, hfresh, rfl⟩ := reserve_ok h
  have := AList.sumBy_insert_of_lookup_eq_none (f := fun _ st => if st.isCurrent then 1 else 0)
    (AList.lookup_eq_none.mpr hfresh) (.created amount duration false)
  simpa [currentReservations, isCurrent] using this

theorem currentReservations_unreserve {id : ReservationId}
    {res : ℕ × Option UnreservedReimbursement} (h : r.unreserve id = .ok (res, r')) :
    r'.currentReservations + 1 = r.currentReservations := by
  rcases unreserve_ok h with ⟨start, finish, hl, -, rfl⟩ | ⟨duration, hl, -, rfl⟩
  · -- the tombstone counts nothing
    have := @AList.sumBy_insert_add _ _ _ (fun _ st => if st.isCurrent then 1 else 0) _ _ _
      (.removed finish) hl
    simpa [currentReservations, isCurrent] using this
  · have := AList.sumBy_erase_add (fun _ st => if st.isCurrent then 1 else 0) hl
    simpa [currentReservations, isCurrent] using this.symm

theorem currentReservations_markUsed {id : ReservationId} (h : r.markUsed id = .ok r') :
    r'.currentReservations = r.currentReservations := by
  rcases markUsed_ok h with ⟨amount, start, finish, hl, rfl⟩ | ⟨amount, duration, hl, rfl⟩ <;>
    exact AList.sumBy_insert_of_eq hl (by simp [isCurrent])

/-- A reserver created from a map counts each stored reservation. -/
theorem currentReservations_new (messageId : MessageId) (reservationNonce : Option ℕ)
    (map : GasReservationMap) (maxReservations : ℕ) :
    (new messageId reservationNonce map maxReservations).currentReservations =
      map.entries.length := by
  simp only [currentReservations, new]
  rw [AList.sumBy_filterMap, ← AList.sumBy_one]
  simp [ofSlot, isCurrent]

/-! ## Runs -/

/-- No call changes the message, and so the ids `reserve` generates, or the
limit. -/
theorem Run.fixed {r₀ : GasReserver} {spent : List ReservationId}
    {origin : ReservationId → Option ℕ} (h : Run r₀ r spent origin) :
    r.messageId = r₀.messageId ∧ r.maxReservations = r₀.maxReservations := by
  induction h with
  | start => exact ⟨rfl, rfl⟩
  | reserve _ hr ih =>
    obtain ⟨-, -, -, rfl⟩ := reserve_ok hr
    exact ih
  | unreserve _ hu ih =>
    rcases unreserve_ok hu with ⟨_, _, -, -, rfl⟩ | ⟨_, -, -, rfl⟩ <;> exact ih
  | markUsed _ hm ih =>
    rcases markUsed_ok hm with ⟨_, _, _, -, rfl⟩ | ⟨_, _, -, rfl⟩ <;> exact ih

/-- Every run keeps at most `max_reservations + 1` states counted, once it
starts so. -/
theorem Run.currentReservations_le {r₀ : GasReserver} {spent : List ReservationId}
    {origin : ReservationId → Option ℕ} (h : Run r₀ r spent origin)
    (h₀ : r₀.currentReservations ≤ r₀.maxReservations + 1) :
    r.currentReservations ≤ r.maxReservations + 1 := by
  induction h with
  | start => exact h₀
  | reserve _ hr _ =>
    -- `reserve` counts before it adds
    obtain ⟨hle, -, -, rfl⟩ := reserve_ok hr
    rw [currentReservations_reserve hr]
    exact Nat.succ_le_succ hle
  | unreserve _ hu ih =>
    have hc := currentReservations_unreserve hu
    obtain ⟨_, _, -, -, rfl⟩ | ⟨_, -, -, rfl⟩ := unreserve_ok hu <;> simp only at ih ⊢ <;> omega
  | markUsed _ hm ih =>
    have hc := currentReservations_markUsed hm
    obtain ⟨_, _, _, -, rfl⟩ | ⟨_, _, -, rfl⟩ := markUsed_ok hm <;> simp only at ih ⊢ <;> omega

/-- Along every run of a reserver created from a map of at most
`max_reservations` reservations, at most `max_reservations + 1` states count. -/
theorem run_currentReservations_le {messageId : MessageId} {reservationNonce : Option ℕ}
    {map : GasReservationMap} {maxReservations : ℕ} {spent : List ReservationId}
    {origin : ReservationId → Option ℕ}
    (h : Run (new messageId reservationNonce map maxReservations) r spent origin)
    (hmap : map.entries.length ≤ maxReservations) :
    r.currentReservations ≤ maxReservations + 1 := by
  have h₀ : (new messageId reservationNonce map maxReservations).currentReservations ≤
      (new messageId reservationNonce map maxReservations).maxReservations + 1 := by
    rw [currentReservations_new]
    show map.entries.length ≤ maxReservations + 1
    omega
  have hle := h.currentReservations_le h₀
  rwa [h.fixed.2] at hle

/-- From a reserver created from no reservations, `k ≤ max_reservations`
reserves in a row succeed, the `i`-th with nonce `i`, while `max_reservations`
is within `u64`. -/
theorem reserves_from_empty {messageId : MessageId} {maxReservations : ℕ}
    (hmax : maxReservations ≤ u64Max) : ∀ k ≤ maxReservations, ∃ r spent origin,
      Run (new messageId none ∅ maxReservations) r spent origin ∧
        r.currentReservations = k ∧ r.nonce = k ∧ ∀ id ∈ r.states, id.nonce < k
  | 0, _ => by
    refine ⟨_, _, _, .start, by simp [currentReservations_new], rfl, fun id hid => ?_⟩
    rw [← AList.lookup_isSome, lookup_new, AList.lookup_empty] at hid
    cases hid
  | k + 1, hk => by
    obtain ⟨r, spent, origin, hrun, hc, hn, hids⟩ := reserves_from_empty hmax k (by omega)
    -- the nonce of the next id is past every stored one
    have hfresh : (⟨r.messageId, r.nonce⟩ : ReservationId) ∉ r.states := fun hm => by
      have := hids _ hm
      simp [hn] at this
    have hle : r.currentReservations ≤ r.maxReservations := by
      rw [hc, hrun.fixed.2]
      exact Nat.le_of_succ_le hk
    have hres := reserve_of_le hle hfresh 0 0
    refine ⟨_, spent, _, hrun.reserve hres, by rw [currentReservations_reserve hres, hc], ?_, ?_⟩
    · show min (r.nonce + 1) u64Max = k + 1
      omega
    · intro id hid
      rcases (AList.mem_insert _).mp hid with rfl | hm
      · simp [hn]
      · exact Nat.lt_succ_of_lt (hids id hm)

/-- With `max_reservations` within `u64`, a reserver created from no
reservations makes `max_reservations + 1` reservations in a row: the last
`reserve` counts `max_reservations` states and succeeds. -/
theorem reserve_exceeds_max_reservations (messageId : MessageId) {maxReservations : ℕ}
    (hmax : maxReservations ≤ u64Max) :
    ∃ r spent origin, Run (new messageId none ∅ maxReservations) r spent origin ∧
      r.currentReservations = maxReservations + 1 := by
  obtain ⟨r, spent, origin, hrun, hc, hn, hids⟩ :=
    @reserves_from_empty messageId _ hmax maxReservations le_rfl
  have hfresh : (⟨r.messageId, r.nonce⟩ : ReservationId) ∉ r.states := fun hm => by
    have := hids _ hm
    simp [hn] at this
  have hle : r.currentReservations ≤ r.maxReservations := by
    rw [hc, hrun.fixed.2]
    exact le_rfl
  have hres := reserve_of_le hle hfresh 0 0
  exact ⟨_, spent, _, hrun.reserve hres, by rw [currentReservations_reserve hres, hc]⟩

/-- `max_reservations_limit_works`: with the test's `MAX_RESERVATIONS` of 256,
257 states count. -/
theorem reserve_exceeds_max_reservations_at_256 :
    (256 : ℕ) ≤ u64Max ∧ ∃ r spent origin, Run (new 0 none ∅ 256) r spent origin ∧
      r.currentReservations = 257 :=
  ⟨by decide, reserve_exceeds_max_reservations 0 (by decide)⟩

/-! ## Spent once -/

end GasReserver

namespace GasReservationState

/-- The states on which neither `unreserve` nor `mark_used` succeeds. -/
def isSpent : GasReservationState → Bool
  | .exists _ _ _ used | .created _ _ used => used
  | .removed _ => true

end GasReservationState

namespace GasReserver

/-- What keeps the spent ids distinct while the nonce moves on: a spent id is
removed or used, or gone after it was created with an earlier nonce; a created
state has the message's id and an earlier nonce. -/
structure SpentInv (r : GasReserver) (spent : List ReservationId) : Prop where
  nodup : spent.Nodup
  spent_state : ∀ id ∈ spent, (r.states.lookup id).any isSpent ∨
    (r.states.lookup id = none ∧ id.messageId = r.messageId ∧ id.nonce < r.nonce)
  created : ∀ id amount duration used,
    r.states.lookup id = some (.created amount duration used) →
      id.messageId = r.messageId ∧ id.nonce < r.nonce

variable {r r' : GasReserver} {spent : List ReservationId} {id : ReservationId}

theorem spentInv_new (messageId : MessageId) (reservationNonce : Option ℕ)
    (map : GasReservationMap) (maxReservations : ℕ) :
    SpentInv (new messageId reservationNonce map maxReservations) [] where
  nodup := List.nodup_nil
  spent_state := by simp
  created := by
    intro id amount duration used hl
    rw [lookup_new] at hl
    cases h : map.lookup id <;> simp [h, ofSlot] at hl

/-- A call that changes the states at `id` only, from one not spent to a spent
one or to none for an id of an earlier nonce, keeps the invariant with `id`
spent once more. -/
theorem SpentInv.spend (h : SpentInv r spent) {st : GasReservationState}
    (hl : r.states.lookup id = some st) (hst : st.isSpent = false)
    {states' : GasReservationStates}
    (hother : ∀ id', id' ≠ id → states'.lookup id' = r.states.lookup id')
    (hid : (states'.lookup id).any isSpent ∨
      (states'.lookup id = none ∧ id.messageId = r.messageId ∧ id.nonce < r.nonce))
    (hcreated : ∀ amount duration used, states'.lookup id = some (.created amount duration used) →
      id.messageId = r.messageId ∧ id.nonce < r.nonce) :
    SpentInv { r with states := states' } (spent ++ [id]) := by
  -- `id` was not spent: its state is neither spent nor gone
  have hnot : id ∉ spent := by
    intro hm
    rcases h.spent_state id hm with hs | ⟨hn, -⟩
    · simp [hl, hst] at hs
    · simp [hl] at hn
  have hnd : (spent ++ [id]).Nodup := by
    rw [← List.concat_eq_append, List.nodup_concat]
    exact ⟨hnot, h.nodup⟩
  refine ⟨hnd, fun id' hm => ?_, fun id' a d u hl' => ?_⟩
  · by_cases hid' : id' = id
    · subst hid'
      exact hid
    · have hm' : id' ∈ spent := by simpa [hid'] using hm
      rw [hother id' hid']
      exact h.spent_state id' hm'
  · by_cases hid' : id' = id
    · subst hid'
      exact hcreated a d u hl'
    · rw [hother id' hid'] at hl'
      exact h.created id' a d u hl'

theorem SpentInv.reserve (h : SpentInv r spent) {amount duration : ℕ}
    (hr : r.reserve amount duration = .ok (id, r')) (hn : r'.nonce < u64Max) :
    SpentInv r' spent := by
  obtain ⟨-, rfl, hfresh, rfl⟩ := reserve_ok hr
  -- below saturation the nonce moves on by one
  have hnext : min (r.nonce + 1) u64Max = r.nonce + 1 := by
    dsimp only at hn
    omega
  refine ⟨h.nodup, fun id' hm => ?_, fun id' a d u hl => ?_⟩
  · -- the new id is fresh, so no spent id is it
    have hne : id' ≠ ⟨r.messageId, r.nonce⟩ := by
      rintro rfl
      rcases h.spent_state _ hm with hs | ⟨-, -, hlt⟩
      · simp [AList.lookup_eq_none.mpr hfresh] at hs
      · exact lt_irrefl _ hlt
    dsimp only
    rw [AList.lookup_insert_ne hne, hnext]
    rcases h.spent_state id' hm with hs | ⟨hn', hm', hlt⟩
    · exact .inl hs
    · exact .inr ⟨hn', hm', Nat.lt_succ_of_lt hlt⟩
  · dsimp only at hl ⊢
    rw [hnext]
    by_cases hid : id' = ⟨r.messageId, r.nonce⟩
    · subst hid
      exact ⟨rfl, Nat.lt_succ_self _⟩
    · rw [AList.lookup_insert_ne hid] at hl
      obtain ⟨hm, hlt⟩ := h.created id' a d u hl
      exact ⟨hm, Nat.lt_succ_of_lt hlt⟩

theorem SpentInv.unreserve (h : SpentInv r spent) {res : ℕ × Option UnreservedReimbursement}
    (hu : r.unreserve id = .ok (res, r')) : SpentInv r' (spent ++ [id]) := by
  rcases unreserve_ok hu with ⟨start, finish, hl, -, rfl⟩ | ⟨duration, hl, -, rfl⟩
  · -- a loaded reservation leaves its tombstone
    refine h.spend hl rfl (fun id' hne => AList.lookup_insert_ne hne) (.inl (by simp [isSpent]))
      (by simp)
  · -- a created one goes, with its earlier nonce
    refine h.spend hl rfl (fun id' hne => AList.lookup_erase_ne hne)
      (.inr ⟨AList.lookup_erase _ _, h.created id _ _ _ hl⟩) (by simp)

theorem SpentInv.markUsed (h : SpentInv r spent) (hm : r.markUsed id = .ok r') :
    SpentInv r' (spent ++ [id]) := by
  rcases markUsed_ok hm with ⟨amount, start, finish, hl, rfl⟩ | ⟨amount, duration, hl, rfl⟩
  · refine h.spend hl rfl (fun id' hne => AList.lookup_insert_ne hne) (.inl (by simp [isSpent]))
      (by simp)
  · refine h.spend hl rfl (fun id' hne => AList.lookup_insert_ne hne) (.inl (by simp [isSpent]))
      (fun _ _ _ _ => h.created id _ _ _ hl)

/-- The invariant holds along every run that ends below the saturated nonce,
since no call moves the nonce back. -/
theorem Run.spentInv {r₀ : GasReserver} {origin : ReservationId → Option ℕ}
    (h : Run r₀ r spent origin) (h₀ : SpentInv r₀ []) (hn : r.nonce < u64Max) :
    SpentInv r spent := by
  induction h with
  | start => exact h₀
  | reserve _ hr ih =>
    have hlt := hn
    obtain ⟨-, -, -, rfl⟩ := reserve_ok hr
    refine (ih ?_).reserve hr hn
    dsimp only at hlt
    omega
  | unreserve _ hu ih =>
    have hlt := hn
    obtain ⟨_, _, -, -, rfl⟩ | ⟨_, -, -, rfl⟩ := unreserve_ok hu <;> exact (ih hlt).unreserve hu
  | markUsed _ hm ih =>
    have hlt := hn
    obtain ⟨_, _, _, -, rfl⟩ | ⟨_, _, -, rfl⟩ := markUsed_ok hm <;> exact (ih hlt).markUsed hm

/-- Along every run of a reserver created by `GasReserver::new` that ends with
the nonce below `u64::MAX`, no id is unreserved or used twice. -/
theorem run_spent_nodup {messageId : MessageId} {reservationNonce : Option ℕ}
    {map : GasReservationMap} {maxReservations : ℕ} {origin : ReservationId → Option ℕ}
    (h : Run (new messageId reservationNonce map maxReservations) r spent origin)
    (hn : r.nonce < u64Max) : spent.Nodup :=
  (h.spentInv (spentInv_new messageId reservationNonce map maxReservations) hn).nodup

/-- At the saturated nonce a reservation made and unreserved at once leaves the
reserver as the next `reserve` finds it: the nonce, the count, and the id of
the nonce fresh again. -/
theorem Run.reserve_unreserve {r₀ : GasReserver} {origin : ReservationId → Option ℕ}
    (h : Run r₀ r spent origin) (hn : r.nonce = u64Max)
    (hle : r.currentReservations ≤ r.maxReservations)
    (hfresh : (⟨r.messageId, r.nonce⟩ : ReservationId) ∉ r.states) :
    ∃ r' origin', Run r₀ r' (spent ++ [⟨r.messageId, r.nonce⟩]) origin' ∧ r'.nonce = r.nonce ∧
      r'.messageId = r.messageId ∧ r'.maxReservations = r.maxReservations ∧
      r'.currentReservations = r.currentReservations ∧
      (⟨r.messageId, r.nonce⟩ : ReservationId) ∉ r'.states := by
  have hr := reserve_of_le hle hfresh 0 0
  have hu := unreserve_after_reserve hr
  have hc := (currentReservations_unreserve hu).trans (currentReservations_reserve hr)
  refine ⟨_, _, (h.reserve hr).unreserve hu, ?_, rfl, rfl, by omega, ?_⟩
  · show min (r.nonce + 1) u64Max = r.nonce
    omega
  · rw [← AList.lookup_isSome]
    simp

/-- At the saturated nonce `reserve` makes the id it made before: a reservation
reserved and unreserved is reserved and unreserved again. -/
theorem spent_twice_at_saturated_nonce :
    ∃ r origin, Run (new 0 (some u64Max) ∅ 0) r [⟨0, u64Max⟩, ⟨0, u64Max⟩] origin := by
  have hfresh : (⟨0, u64Max⟩ : ReservationId) ∉ (new 0 (some u64Max) ∅ 0).states := by
    rw [← AList.lookup_isSome, lookup_new, AList.lookup_empty]
    simp
  obtain ⟨r₁, o₁, h₁, hn₁, hm₁, hx₁, hc₁, hf₁⟩ := Run.start.reserve_unreserve rfl
    (by rw [currentReservations_new]; rfl) hfresh
  obtain ⟨r₂, o₂, h₂, -⟩ := h₁.reserve_unreserve (hn₁.trans rfl)
    (by rw [hc₁, hx₁, currentReservations_new]; rfl) (by rwa [hm₁, hn₁])
  rw [hm₁, hn₁] at h₂
  exact ⟨r₂, o₂, h₂⟩

/-! ## Amounts -/

/-- Each live state holds the amount its reservation was loaded or created
with. -/
def AmountInv (r : GasReserver) (origin : ReservationId → Option ℕ) : Prop :=
  ∀ id amount, (r.states.lookup id).bind amount? = some amount → origin id = some amount

/-- A call that changes the states at `id` only, and there to no amount or to
the one it had, keeps the amounts. -/
theorem AmountInv.update {origin : ReservationId → Option ℕ} (h : AmountInv r origin)
    {states' : GasReservationStates}
    (hother : ∀ id', id' ≠ id → states'.lookup id' = r.states.lookup id')
    (hid : ∀ amount, (states'.lookup id).bind amount? = some amount →
      (r.states.lookup id).bind amount? = some amount) :
    AmountInv { r with states := states' } origin := by
  intro id' amount hl
  by_cases hid' : id' = id
  · subst hid'
    exact h id' amount (hid amount hl)
  · rw [show states'.lookup id' = r.states.lookup id' from hother id' hid'] at hl
    exact h id' amount hl

theorem Run.amountInv {r₀ : GasReserver} {origin : ReservationId → Option ℕ}
    (h : Run r₀ r spent origin) : AmountInv r origin := by
  induction h with
  | start => exact fun _ _ hl => hl
  | @reserve r r' spent origin amount duration id _ hr ih =>
    obtain ⟨-, rfl, -, rfl⟩ := reserve_ok hr
    -- the new reservation's amount is recorded as it is created
    intro id' a hl
    by_cases hid : id' = ⟨r.messageId, r.nonce⟩
    · subst hid
      simpa [amount?] using hl
    · rw [Function.update_of_ne hid]
      exact ih id' a (by simpa [AList.lookup_insert_ne hid] using hl)
  | unreserve _ hu ih =>
    rcases unreserve_ok hu with ⟨start, finish, hl, -, rfl⟩ | ⟨duration, hl, -, rfl⟩
    · exact ih.update (fun _ hne => AList.lookup_insert_ne hne) (by simp [amount?])
    · exact ih.update (fun _ hne => AList.lookup_erase_ne hne) (by simp)
  | markUsed _ hm ih =>
    -- the flag changes, not the amount
    rcases markUsed_ok hm with ⟨amount, start, finish, hl, rfl⟩ | ⟨amount, duration, hl, rfl⟩
    · exact ih.update (fun _ hne => AList.lookup_insert_ne hne) (by simp [hl, amount?])
    · exact ih.update (fun _ hne => AList.lookup_insert_ne hne) (by simp [hl, amount?])

/-- Along every run, a successful `unreserve` returns the amount its
reservation was loaded or created with. -/
theorem run_unreserve_amount {r₀ : GasReserver} {origin : ReservationId → Option ℕ}
    {amount : ℕ} {reimbursement : Option UnreservedReimbursement} (h : Run r₀ r spent origin)
    (hu : r.unreserve id = .ok ((amount, reimbursement), r')) : origin id = some amount := by
  apply h.amountInv id amount
  rcases unreserve_ok hu with ⟨_, _, hl, -, -⟩ | ⟨_, hl, -, -⟩ <;> simp [hl, amount?]

/-! ## The map `into_map` returns -/

theorem intoMap_lookup (currentBlockHeight : ℕ) (durationIntoExpiration : ℕ → ℕ) :
    (r.intoMap currentBlockHeight durationIntoExpiration).lookup id =
      (r.states.lookup id).bind (toSlot currentBlockHeight durationIntoExpiration) :=
  AList.lookup_filterMap _ _ _

/-- `into_map` holds exactly the ids whose state is not `Removed`. -/
theorem mem_intoMap (currentBlockHeight : ℕ) (durationIntoExpiration : ℕ → ℕ) :
    id ∈ r.intoMap currentBlockHeight durationIntoExpiration ↔
      ∃ st, r.states.lookup id = some st ∧ st.isCurrent = true := by
  rw [← AList.lookup_isSome, intoMap_lookup]
  cases r.states.lookup id with
  | none => simp
  | some st => cases st <;> simp [toSlot, isCurrent]

/-! ## Every run -/

/-- Along every run of a reserver created by `GasReserver::new` from a map of at
most `max_reservations` reservations: at most `max_reservations + 1` states
count; while the nonce stays below `u64::MAX` no id is unreserved or used
twice; a successful `unreserve` returns the amount its reservation was loaded
or created with; and `into_map` keeps exactly the ids whose state is not
`Removed`. -/
theorem run_reserver_limits {messageId : MessageId} {reservationNonce : Option ℕ}
    {map : GasReservationMap} {maxReservations : ℕ} {spent : List ReservationId}
    {origin : ReservationId → Option ℕ}
    (h : Run (new messageId reservationNonce map maxReservations) r spent origin)
    (hmap : map.entries.length ≤ maxReservations) :
    r.currentReservations ≤ maxReservations + 1 ∧
    (r.nonce < u64Max → spent.Nodup) ∧
    (∀ id amount reimbursement r', r.unreserve id = .ok ((amount, reimbursement), r') →
      origin id = some amount) ∧
    ∀ currentBlockHeight durationIntoExpiration id,
      id ∈ r.intoMap currentBlockHeight durationIntoExpiration ↔
        ∃ st, r.states.lookup id = some st ∧ st.isCurrent = true :=
  ⟨run_currentReservations_le h hmap, run_spent_nodup h,
    fun _ _ _ _ hu => run_unreserve_amount h hu, fun _ _ _ => mem_intoMap _ _⟩

/-- The run that has not called anything yet, from the test's limit of 256. -/
theorem run_reserver_limits_start :
    (new 0 none ∅ 256).currentReservations ≤ 256 + 1 ∧
    ((new 0 none ∅ 256).nonce < u64Max → ([] : List ReservationId).Nodup) ∧
    (∀ id amount reimbursement r', (new 0 none ∅ 256).unreserve id =
        .ok ((amount, reimbursement), r') →
      (fun id => ((new 0 none ∅ 256).states.lookup id).bind amount?) id = some amount) ∧
    ∀ currentBlockHeight durationIntoExpiration id,
      id ∈ (new 0 none ∅ 256).intoMap currentBlockHeight durationIntoExpiration ↔
        ∃ st, (new 0 none ∅ 256).states.lookup id = some st ∧ st.isCurrent = true :=
  run_reserver_limits Run.start (by decide)

end GasReserver

end Gear.Reservation
