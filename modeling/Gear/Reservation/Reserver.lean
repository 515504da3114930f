import Gear.Lib.AListFilter

/-!
# The gas reserver

`GasReserver` of `gear_core::reservation` keeps, for the execution of one
message, the states of the program's gas reservations: those loaded from
storage (`Exists`), those the execution creates (`Created`), and the loaded
ones it unreserves (`Removed`, kept as a tombstone). Each `reserve` generates
an id from the message id and a nonce, and moves the nonce on by one,
saturating at `u64::MAX`. The id is a hash of the two, taken here as
collision-free, so an id is the pair.

`reserve` first counts the `Exists` and `Created` states and refuses only when
there are more than `max_reservations` of them. `unreserve` and `mark_used`
refuse a reservation that is absent, removed or used.

A run of the reserver (`Run`) is a sequence of calls that succeed; a call that
fails returns no reserver, so it leaves the reserver as it was. Beside the
reserver, a run records the ids on which an `unreserve` or a `mark_used`
succeeded, and the amount each reservation was loaded or created with.
-/

namespace Gear.Reservation

/-- `MessageId`, compared only for equality. -/
abbrev MessageId := ℕ

/-- `u64::MAX`, where the nonce saturates. -/
def u64Max : ℕ := 2 ^ 64 - 1

/-- `ReservationId`: `ReservationId::generate(message_id, nonce)`, a
collision-free hash of the two. -/
structure ReservationId where
  messageId : MessageId
  nonce : ℕ
deriving DecidableEq, Repr

/-- `GasReservationSlot`. -/
structure GasReservationSlot where
  amount : ℕ
  start : ℕ
  finish : ℕ
deriving DecidableEq, Repr

/-- `GasReservationState`. -/
inductive GasReservationState
  | exists (amount start finish : ℕ) (used : Bool)
  | created (amount duration : ℕ) (used : Bool)
  | removed (expiration : ℕ)
deriving DecidableEq, Repr

namespace GasReservationState

/-- `From<GasReservationSlot>`: a loaded reservation, not used. -/
def ofSlot (slot : GasReservationSlot) : GasReservationState :=
  .exists slot.amount slot.start slot.finish false

/-- The states `check_execution_limit` counts: `Exists` and `Created`. -/
def isCurrent : GasReservationState → Bool
  | .exists .. | .created .. => true
  | .removed _ => false

/-- The amount of an `Exists` or `Created` state, as `limit_of` reads it. -/
def amount? : GasReservationState → Option ℕ
  | .exists amount .. | .created amount .. => some amount
  | .removed _ => none

/-- The slot `into_map` makes of a state: a `Created` one starts now and ends
where its duration takes it; a `Removed` one is dropped. -/
def toSlot (currentBlockHeight : ℕ) (durationIntoExpiration : ℕ → ℕ) :
    GasReservationState → Option GasReservationSlot
  | .exists amount start finish _ => some ⟨amount, start, finish⟩
  | .created amount duration _ =>
    some ⟨amount, currentBlockHeight, durationIntoExpiration duration⟩
  | .removed _ => none

end GasReservationState

/-- The two variants of `ReservationError` the reserver returns. -/
inductive ReservationError
  | invalidReservationId
  | reservationsLimitReached
deriving DecidableEq, Repr

/-- How `reserve` fails: with a `ReservationError`, or in the `unreachable!` of
an id already in the states. -/
inductive ReserveFailure
  | error (e : ReservationError)
  | duplicateReservation
deriving DecidableEq, Repr

/-- `UnreservedReimbursement`: the duration of a reservation made in this
execution and unreserved in it. -/
structure UnreservedReimbursement where
  duration : ℕ
deriving DecidableEq, Repr

/-- `GasReservationStates`. -/
abbrev GasReservationStates := AList fun _ : ReservationId => GasReservationState

/-- `GasReservationMap`. -/
abbrev GasReservationMap := AList fun _ : ReservationId => GasReservationSlot

/-- `GasReserver`. -/
structure GasReserver where
  messageId : MessageId
  nonce : ℕ
  states : GasReservationStates
  maxReservations : ℕ

namespace GasReserver

/-- `GasReserver::new`: the dispatch's id, the reservation nonce of its context
(0 without one), the stored reservations as `Exists`. -/
def new (messageId : MessageId) (reservationNonce : Option ℕ) (map : GasReservationMap)
    (maxReservations : ℕ) : GasReserver :=
  ⟨messageId, reservationNonce.getD 0, map.filterMap fun _ slot => some (.ofSlot slot),
    maxReservations⟩

/-- `current_reservations` of `check_execution_limit`: the `Exists` and
`Created` states. -/
def currentReservations (r : GasReserver) : ℕ :=
  r.states.sumBy fun _ st => if st.isCurrent then 1 else 0

/-- `check_execution_limit`. -/
def checkExecutionLimit (r : GasReserver) : Except ReservationError Unit :=
  if r.currentReservations > r.maxReservations then .error .reservationsLimitReached else .ok ()

/-- `reserve`: the id from the nonce, which `fetch_inc` moves on, saturating. -/
def reserve (r : GasReserver) (amount duration : ℕ) :
    Except ReserveFailure (ReservationId × GasReserver) :=
  match r.checkExecutionLimit with
  | .error e => .error (.error e)
  | .ok () =>
    let id : ReservationId := ⟨r.messageId, r.nonce⟩
    if id ∈ r.states then .error .duplicateReservation
    else .ok (id, { r with
      nonce := min (r.nonce + 1) u64Max
      states := r.states.insert id (.created amount duration false) })

/-- `unreserve`: a loaded reservation becomes `Removed` (the source removes the
state and inserts the tombstone, which `insert` does at once); one created in
this execution is forgotten, and its duration reimbursed. -/
def unreserve (r : GasReserver) (id : ReservationId) :
    Except ReservationError ((ℕ × Option UnreservedReimbursement) × GasReserver) :=
  match r.states.lookup id with
  | some (.exists amount _ finish false) =>
    .ok ((amount, none), { r with states := r.states.insert id (.removed finish) })
  | some (.created amount duration false) =>
    .ok ((amount, some ⟨duration⟩), { r with states := r.states.erase id })
  | _ => .error .invalidReservationId

/-- `mark_used`: `check_not_used`, then the flag set. -/
def markUsed (r : GasReserver) (id : ReservationId) : Except ReservationError GasReserver :=
  match r.states.lookup id with
  | some (.exists amount start finish false) =>
    .ok { r with states := r.states.insert id (.exists amount start finish true) }
  | some (.created amount duration false) =>
    .ok { r with states := r.states.insert id (.created amount duration true) }
  | _ => .error .invalidReservationId

/-- `into_map`: the `Exists` and `Created` reservations as slots. -/
def intoMap (r : GasReserver) (currentBlockHeight : ℕ) (durationIntoExpiration : ℕ → ℕ) :
    GasReservationMap :=
  r.states.filterMap fun _ st => st.toSlot currentBlockHeight durationIntoExpiration

/-- The runs of a reserver from `r₀` through calls that succeed, with the ids
on which an `unreserve` or a `mark_used` succeeded, in order, and the amount
each reservation was loaded or created with. -/
inductive Run (r₀ : GasReserver) :
    GasReserver → List ReservationId → (ReservationId → Option ℕ) → Prop
  | start : Run r₀ r₀ [] fun id => (r₀.states.lookup id).bind GasReservationState.amount?
  | reserve {r r' : GasReserver} {spent : List ReservationId} {origin : ReservationId → Option ℕ}
      {amount duration : ℕ} {id : ReservationId} :
      Run r₀ r spent origin → r.reserve amount duration = .ok (id, r') →
      Run r₀ r' spent (Function.update origin id (some amount))
  | unreserve {r r' : GasReserver} {spent : List ReservationId} {origin : ReservationId → Option ℕ}
      {id : ReservationId} {res : ℕ × Option UnreservedReimbursement} :
      Run r₀ r spent origin → r.unreserve id = .ok (res, r') → Run r₀ r' (spent ++ [id]) origin
  | markUsed {r r' : GasReserver} {spent : List ReservationId} {origin : ReservationId → Option ℕ}
      {id : ReservationId} :
      Run r₀ r spent origin → r.markUsed id = .ok r' → Run r₀ r' (spent ++ [id]) origin

end GasReserver

end Gear.Reservation
