import Gear.Message.Context
import Gear.Reservation.Reserver
import Gear.Memory.Allocations

/-!
# The journal of a processed message — `processing.rs`

The processor does not change any state itself: for each message it returns a
journal, a list of `JournalNote`s that the chain's handler applies.
`process_success` writes the journal of an execution that succeeded, exited or
went to wait, `process_error` the one of an execution that failed or never ran,
`process_allowance_exceed` the one of an execution the block's gas allowance
cut short, and `process` picks among them by the result of the execution.

Every journal follows one plan (`Shaped`): either a single `StopProcessing`,
which puts the message back at the head of its queue, or a `GasBurned` of the
gas the message burned, then notes that neither burn gas nor end the journal,
then the end: `WaitDispatch` for a message that goes to the waitlist, or
`MessageDispatched` and `MessageConsumed` for one that is done with, the latter
the last note about the message (`process_shaped`). A handle or init message
that is done with gets exactly one reply: its own, the automatic one when it
sent none, or the error reply when it failed (`process_replies_once`).

The ids are type parameters: `M` for messages, `P` for actors and programs,
`C` for codes; reservation ids and the reserver are those of
`Gear.Reservation`. `MessageId::generate_reply` is the `reply` of an `IdGen`,
and `ActorId::into_bytes` a function `actorBytes`. A `BTreeMap` of the
dispatch result is the list of its entries in key order, and an
`IntervalsTree<WasmPage>` the set of wasm pages it holds. The text of
`DispatchOutcome`'s reasons is the error case it is printed from.
-/

namespace Gear.Processor

open Gear.Message (DispatchKind IdGen)
open Gear.Reservation (ReservationId GasReservationState GasReserver)

/-! ## Codes and reasons -/

/-- `SimpleExecutionError`. -/
inductive SimpleExecutionError
  | ranOutOfGas
  | memoryOverflow
  | backendError
  | userspacePanic
  | unreachableInstruction
  | stackLimitExceeded
  | unsupported
deriving DecidableEq, Repr

/-- `SimpleUnavailableActorError`. -/
inductive SimpleUnavailableActorError
  | programExited
  | initializationFailure
  | uninitialized
  | programNotCreated
  | reinstrumentationFailure
  | unsupported
deriving DecidableEq, Repr

/-- `ErrorReplyReason`. -/
inductive ErrorReplyReason
  | execution (e : SimpleExecutionError)
  | unavailableActor (e : SimpleUnavailableActorError)
  | removedFromWaitlist
  | unsupported
deriving DecidableEq, Repr

/-- `SuccessReplyReason`. -/
inductive SuccessReplyReason
  | auto
  | manual
  | unsupported
deriving DecidableEq, Repr

/-- `ReplyCode`. -/
inductive ReplyCode
  | success (r : SuccessReplyReason)
  | error (r : ErrorReplyReason)
  | unsupported
deriving DecidableEq, Repr

/-- `ReplyCode::is_error`. -/
def ReplyCode.isError : ReplyCode → Bool
  | .error _ => true
  | _ => false

/-- `SignalCode`. -/
inductive SignalCode
  | execution (e : SimpleExecutionError)
  | removedFromWaitlist
deriving DecidableEq, Repr

/-- `SectionName`: the sections whose instantiation is charged for. -/
inductive SectionName
  | function
  | data
  | global
  | table
  | element
  | type
deriving DecidableEq, Repr

/-- `PreChargeGasOperation`. -/
inductive PreChargeGasOperation
  | staticPages
  | programData
  | codeMetadata
  | originalCode
  | instrumentedCode
  | moduleInstantiation (s : SectionName)
  | moduleInstrumentation
  | allocations
deriving DecidableEq, Repr

/-- `TrapExplanation`; the error an `UnrecoverableExt` carries is left out. -/
inductive TrapExplanation
  | gasLimitExceeded
  | forbiddenFunction
  | programAllocOutOfBounds
  | unrecoverableExt
  | panic (buf : List UInt8)
  | stackLimitExceeded
  | unknown
deriving DecidableEq, Repr

/-- `ActorExecutionErrorReplyReason`. -/
inductive ActorExecutionErrorReplyReason
  | preChargeGasLimitExceeded (op : PreChargeGasOperation)
  | environment
  | trap (t : TrapExplanation)
deriving DecidableEq, Repr

/-- `ActorExecutionErrorReplyReason::as_simple`. -/
def ActorExecutionErrorReplyReason.asSimple : ActorExecutionErrorReplyReason → SimpleExecutionError
  | .preChargeGasLimitExceeded _ => .ranOutOfGas
  | .trap .gasLimitExceeded => .ranOutOfGas
  | .trap .forbiddenFunction => .backendError
  | .trap .unrecoverableExt => .backendError
  | .trap .programAllocOutOfBounds => .memoryOverflow
  | .trap (.panic _) => .userspacePanic
  | .trap .stackLimitExceeded => .stackLimitExceeded
  | .trap .unknown => .unreachableInstruction
  | .environment => .unsupported

/-- `MessageWaitedType`. -/
inductive MessageWaitedType
  | wait
  | waitFor
  | waitUpTo
  | waitUpToFull
deriving DecidableEq, Repr

/-! ## Messages -/

/-- `MessageDetails`: the message a reply or a signal answers, and its code. -/
inductive MessageDetails (M : Type)
  | reply (replyTo : M) (code : ReplyCode)
  | signal (signalTo : M) (code : SignalCode)

/-- `MessageDetails::is_error_reply`. -/
def MessageDetails.isErrorReply {M : Type} : MessageDetails M → Bool
  | .reply _ code => code.isError
  | .signal .. => false

/-- `ContextStore`: the store the message context reads, with the reservation
nonce and the system reservation. -/
structure ContextStore (P : Type) extends Gear.Message.ContextStore P where
  reservationNonce : ℕ
  systemReservation : Option ℕ

/-- `IncomingMessage`. -/
structure IncomingMessage (M P : Type) where
  id : M
  source : P
  payload : List UInt8
  gasLimit : ℕ
  value : ℕ
  details : Option (MessageDetails M)

/-- `StoredMessage`. -/
structure StoredMessage (M P : Type) where
  id : M
  source : P
  destination : P
  payload : List UInt8
  value : ℕ
  details : Option (MessageDetails M)

/-- `IncomingMessage::into_stored`. -/
def IncomingMessage.intoStored {M P : Type} (m : IncomingMessage M P) (destination : P) :
    StoredMessage M P :=
  ⟨m.id, m.source, destination, m.payload, m.value, m.details⟩

/-- `IncomingDispatch`. -/
structure IncomingDispatch (M P : Type) where
  kind : DispatchKind
  message : IncomingMessage M P
  context : Option (ContextStore P)

/-- `StoredDispatch`. -/
structure StoredDispatch (M P : Type) where
  kind : DispatchKind
  message : StoredMessage M P
  context : Option (ContextStore P)

/-- `Dispatch`: a kind and a `Message`, whose fields are laid out here. -/
structure Dispatch (M P : Type) where
  kind : DispatchKind
  id : M
  source : P
  destination : P
  payload : List UInt8
  gasLimit : Option ℕ
  value : ℕ
  details : Option (MessageDetails M)

/-- `Message::is_reply` of a dispatch: it carries reply details. -/
def Dispatch.isReply {M P : Type} (d : Dispatch M P) : Bool :=
  match d.details with
  | some (.reply ..) => true
  | _ => false

namespace IncomingDispatch

variable {M P : Type} (d : IncomingDispatch M P)

/-- `IncomingDispatch::id`. -/
def id : M := d.message.id

/-- `IncomingDispatch::source`. -/
def source : P := d.message.source

/-- `IncomingDispatch::value`. -/
def value : ℕ := d.message.value

/-- `IncomingDispatch::is_error_reply`. -/
def isErrorReply : Bool := (d.message.details.map MessageDetails.isErrorReply).getD false

/-- `IncomingDispatch::into_stored`: with the store of this execution. -/
def intoStored (destination : P) (context : ContextStore P) : StoredDispatch M P :=
  ⟨d.kind, d.message.intoStored destination, some context⟩

end IncomingDispatch

/-- `ReplyMessage::into_dispatch` of a reply to `origin`, with its code. -/
def replyDispatch {M P : Type} (gen : IdGen M) (origin : M) (payload : List UInt8)
    (gasLimit : Option ℕ) (value : ℕ) (code : ReplyCode) (source destination : P) : Dispatch M P :=
  ⟨.reply, gen.reply origin, source, destination, payload, gasLimit, value,
    some (.reply origin code)⟩

/-! ## The journal -/

/-- `DispatchOutcome`. -/
inductive DispatchOutcome (P : Type) (E : Type)
  | exit (programId : P)
  | initSuccess (programId : P)
  | initFailure (programId origin : P) (reason : E)
  | messageTrap (programId : P) (trap : E)
  | success
  | noExecution

/-- `ProcessErrorCase`. -/
inductive ProcessErrorCase (P : Type)
  | programExited (inheritor : P)
  | failedInit
  | uninitialized
  | codeNotExists
  | reinstrumentationFailed
  | executionFailed (reason : ActorExecutionErrorReplyReason)

/-- `JournalNote`; the text of an outcome's reason is the error case it prints. -/
inductive JournalNote (M P C : Type)
  | messageDispatched (messageId : M) (source : P) (outcome : DispatchOutcome P (ProcessErrorCase P))
  | gasBurned (messageId : M) (amount : ℕ) (isPanic : Bool)
  | exitDispatch (idExited valueDestination : P)
  | messageConsumed (messageId : M)
  | sendDispatch (messageId : M) (dispatch : Dispatch M P) (delay : ℕ)
      (reservation : Option ReservationId)
  | waitDispatch (dispatch : StoredDispatch M P) (duration : Option ℕ)
      (waitedType : MessageWaitedType)
  | wakeMessage (messageId : M) (programId : P) (awakeningId : M) (delay : ℕ)
  | updatePage (programId : P) (pageNumber : ℕ) (data : List UInt8)
  | updateAllocations (programId : P)
      (allocations : {s : Finset ℕ // ∀ p ∈ s, p ≤ Gear.Memory.wasmPageUpper})
  | sendValue (sender beneficiary : P) (value : ℕ) (locked : Bool)
  | storeNewPrograms (programId : P) (codeId : C) (candidates : List (M × P))
  | stopProcessing (dispatch : StoredDispatch M P) (gasBurned : ℕ)
  | reserveGas (messageId : M) (reservationId : ReservationId) (programId : P) (amount duration : ℕ)
  | unreserveGas (reservationId : ReservationId) (programId : P) (expiration : ℕ)
  | updateGasReservations (programId : P) (reserver : GasReserver)
  | systemReserveGas (messageId : M) (amount : ℕ)
  | systemUnreserveGas (messageId : M)
  | sendSignal (messageId : M) (destination : P) (code : SignalCode)
  | replyDeposit (messageId futureReplyId : M) (amount : ℕ)

/-- `SystemReservationContext`. -/
structure SystemReservationContext where
  currentReservation : Option ℕ
  previousReservation : Option ℕ

namespace SystemReservationContext

/-- `SystemReservationContext::from_dispatch`: the system reservation of the
store of an earlier execution. -/
def fromDispatch {M P : Type} (d : IncomingDispatch M P) : SystemReservationContext :=
  ⟨none, d.context.bind ContextStore.systemReservation⟩

/-- `has_any`. -/
def hasAny (c : SystemReservationContext) : Bool :=
  c.currentReservation.isSome || c.previousReservation.isSome

end SystemReservationContext

/-- `DispatchResultKind`. -/
inductive DispatchResultKind (P : Type)
  | success
  | trap (reason : TrapExplanation)
  | wait (duration : Option ℕ) (waitedType : MessageWaitedType)
  | exit (valueDestination : P)
  | gasAllowanceExceed

/-- `DispatchResult`; of its `gas_amount` only the gas burned is read. -/
structure DispatchResult (M P C : Type) where
  kind : DispatchResultKind P
  programId : P
  contextStore : ContextStore P
  generatedDispatches : List (Dispatch M P × ℕ × Option ReservationId)
  awakening : List (M × ℕ)
  replyDeposits : List (M × ℕ)
  programCandidates : List (C × List (M × P))
  gasBurned : ℕ
  gasReserver : Option GasReserver
  systemReservationContext : SystemReservationContext
  pageUpdate : List (ℕ × List UInt8)
  allocations : Option {s : Finset ℕ // ∀ p ∈ s, p ≤ Gear.Memory.wasmPageUpper}
  replySent : Bool

/-- `SuccessfulDispatchResultKind`. -/
inductive SuccessfulDispatchResultKind (P : Type)
  | exit (valueDestination : P)
  | wait (duration : Option ℕ) (waitedType : MessageWaitedType)
  | success

/-- `SuccessfulDispatchResultKind::Wait`. -/
def SuccessfulDispatchResultKind.isWait {P : Type} : SuccessfulDispatchResultKind P → Bool
  | .wait .. => true
  | _ => false

section Processing

variable {M P C : Type} (gen : IdGen M) (actorBytes : P → List UInt8)

namespace ProcessErrorCase

/-- `ProcessErrorCase::to_reason`. -/
def toReason : ProcessErrorCase P → ErrorReplyReason
  | .programExited _ => .unavailableActor .programExited
  | .failedInit => .unavailableActor .initializationFailure
  | .uninitialized => .unavailableActor .uninitialized
  | .codeNotExists => .unavailableActor .programNotCreated
  | .reinstrumentationFailed => .unavailableActor .reinstrumentationFailure
  | .executionFailed reason => .execution reason.asSimple

/-- `ProcessErrorCase::into_payload`: the inheritor's bytes, the panic's
buffer, or nothing. -/
def intoPayload : ProcessErrorCase P → List UInt8
  | .programExited inheritor => actorBytes inheritor
  | .executionFailed (.trap (.panic buf)) => buf
  | _ => []

/-- Whether the case is a `Trap(Panic(_))`, as `GasBurned` reports it. -/
def isPanic : ProcessErrorCase P → Bool
  | .executionFailed (.trap (.panic _)) => true
  | _ => false

end ProcessErrorCase

/-- Whether a dispatch is a reply or a signal, which get no reply. -/
def DispatchKind.isReplyOrSignal : DispatchKind → Bool
  | .reply | .signal => true
  | _ => false

/-- The notes `process_error` writes between `GasBurned` and the end: the
value the message brought, the system reservation, the signal, and the error
reply unless the message is a reply or a signal. -/
def errorNotes (dispatch : IncomingDispatch M P) (programId : P) (ctx : SystemReservationContext)
    (case : ProcessErrorCase P) : List (JournalNote M P C) :=
  let messageId := dispatch.id
  let origin := dispatch.source
  let value := dispatch.value
  let toSendReply := !DispatchKind.isReplyOrSignal dispatch.kind
  let signal : List (JournalNote M P C) :=
    match case with
    | .executionFailed reason =>
      if ctx.hasAny && !dispatch.isErrorReply &&
          !(dispatch.kind == .signal || dispatch.kind == .init) then
        [.sendSignal messageId programId (.execution reason.asSimple)]
      else []
    | _ => []
  -- a message run again after a wait brought its value in the first run
  let replyValue := if dispatch.context.isNone then value else 0
  (if dispatch.context.isNone && value != 0 then [.sendValue origin programId value toSendReply]
    else []) ++
    (ctx.currentReservation.map (JournalNote.systemReserveGas messageId)).toList ++
    signal ++
    (if ctx.hasAny then [.systemUnreserveGas messageId] else []) ++
    (if toSendReply then
      [.sendDispatch messageId
        (replyDispatch gen messageId (case.intoPayload actorBytes) none replyValue
          (.error case.toReason) programId origin) 0 none]
      else [])

/-- The outcome `process_error` reports: a failed execution fails an init
message and traps any other, and a message that never ran is not executed. -/
def errorOutcome (dispatch : IncomingDispatch M P) (programId : P) (case : ProcessErrorCase P) :
    DispatchOutcome P (ProcessErrorCase P) :=
  match case with
  | .executionFailed _ | .reinstrumentationFailed =>
    if dispatch.kind == .init then .initFailure programId dispatch.source case
    else .messageTrap programId case
  | _ => .noExecution

/-- `process_error`. -/
def processError (dispatch : IncomingDispatch M P) (programId : P) (gasBurned : ℕ)
    (ctx : SystemReservationContext) (case : ProcessErrorCase P) : List (JournalNote M P C) :=
  [.gasBurned dispatch.id gasBurned case.isPanic] ++
    errorNotes gen actorBytes dispatch programId ctx case ++
    [.messageDispatched dispatch.id dispatch.source (errorOutcome dispatch programId case),
      .messageConsumed dispatch.id]

/-- `process_execution_error`. -/
def processExecutionError (dispatch : IncomingDispatch M P) (programId : P) (gasBurned : ℕ)
    (ctx : SystemReservationContext) (reason : ActorExecutionErrorReplyReason) :
    List (JournalNote M P C) :=
  processError gen actorBytes dispatch programId gasBurned ctx (.executionFailed reason)

/-- `process_allowance_exceed`: the dispatch goes back to the queue. -/
def processAllowanceExceed (dispatch : IncomingDispatch M P) (programId : P) (gasBurned : ℕ) :
    List (JournalNote M P C) :=
  [.stopProcessing ⟨dispatch.kind, dispatch.message.intoStored programId, dispatch.context⟩
    gasBurned]

/-- The notes of the reserver's states: a reservation made or removed in the
execution. -/
def reservationNote (messageId : M) (programId : P) :
    (Σ _ : ReservationId, GasReservationState) → Option (JournalNote M P C)
  | ⟨_, .exists ..⟩ => none
  | ⟨id, .created amount duration _⟩ => some (.reserveGas messageId id programId amount duration)
  | ⟨id, .removed expiration⟩ => some (.unreserveGas id programId expiration)

/-- The notes `process_success` writes between `GasBurned` and the end: the
reservations made and removed, the system reservation, the value the message
brought, the programs to create, the automatic reply, reply deposits, the
messages sent, the messages woken, the pages and the allocations. -/
def successNotes (kind : SuccessfulDispatchResultKind P) (res : DispatchResult M P C)
    (dispatch : IncomingDispatch M P) : List (JournalNote M P C) :=
  let messageId := dispatch.id
  let origin := dispatch.source
  let value := dispatch.value
  let programId := res.programId
  let reserver : List (JournalNote M P C) :=
    match res.gasReserver with
    | some r => r.states.entries.filterMap (reservationNote messageId programId) ++
        [.updateGasReservations programId r]
    | none => []
  -- the automatic reply of a message that is done with and did not reply
  let autoReply : List (JournalNote M P C) :=
    if !kind.isWait && !DispatchKind.isReplyOrSignal dispatch.kind && !res.replySent then
      [.sendDispatch messageId
        (replyDispatch gen messageId [] (some 0) 0 (.success .auto) programId origin) 0 none]
    else []
  reserver ++
    (res.systemReservationContext.currentReservation.map
      (JournalNote.systemReserveGas messageId)).toList ++
    (if dispatch.context.isNone && value != 0 then [.sendValue origin programId value false]
      else []) ++
    res.programCandidates.map (fun c => .storeNewPrograms programId c.1 c.2) ++
    autoReply ++
    res.replyDeposits.map (fun d => .replyDeposit messageId (gen.reply d.1) d.2) ++
    res.generatedDispatches.map (fun g => .sendDispatch messageId g.1 g.2.1 g.2.2) ++
    res.awakening.map (fun a => .wakeMessage messageId programId a.1 a.2) ++
    res.pageUpdate.map (fun p => .updatePage programId p.1 p.2) ++
    (res.allocations.map (JournalNote.updateAllocations programId)).toList

/-- How `process_success` ends: the message goes to the waitlist, or, after the
exit and the system unreservation, it is dispatched and consumed. -/
def successEnding (kind : SuccessfulDispatchResultKind P) (res : DispatchResult M P C)
    (dispatch : IncomingDispatch M P) : List (JournalNote M P C) :=
  let messageId := dispatch.id
  let programId := res.programId
  let unreserve : List (JournalNote M P C) :=
    if res.systemReservationContext.hasAny then [.systemUnreserveGas messageId] else []
  match kind with
  | .wait duration waitedType =>
    [.waitDispatch (dispatch.intoStored programId res.contextStore) duration waitedType]
  | .success =>
    unreserve ++ [.messageDispatched messageId dispatch.source
      (if dispatch.kind == .init then .initSuccess programId else .success),
      .messageConsumed messageId]
  | .exit valueDestination =>
    .exitDispatch programId valueDestination :: unreserve ++
      [.messageDispatched messageId dispatch.source (.exit programId), .messageConsumed messageId]

/-- `process_success`. -/
def processSuccess (kind : SuccessfulDispatchResultKind P) (res : DispatchResult M P C)
    (dispatch : IncomingDispatch M P) : List (JournalNote M P C) :=
  [.gasBurned dispatch.id res.gasBurned false] ++ successNotes gen kind res dispatch ++
    successEnding kind res dispatch

/-- What `execute_wasm` returns: a dispatch result, an actor error with the gas
it burned, or a system error. -/
inductive ExecutionResult (M P C : Type)
  | ok (res : DispatchResult M P C)
  | actor (gasBurned : ℕ) (reason : ActorExecutionErrorReplyReason)
  | system

/-- `process` after the execution: the journal for its result, or nothing for a
system error, which `process` returns as an `Err`. -/
def process (dispatch : IncomingDispatch M P) (programId : P) :
    ExecutionResult M P C → Option (List (JournalNote M P C))
  | .ok res =>
    match res.kind with
    | .trap reason =>
      some (processExecutionError gen actorBytes dispatch programId res.gasBurned
        res.systemReservationContext (.trap reason))
    | .success => some (processSuccess gen .success res dispatch)
    | .wait duration waitedType => some (processSuccess gen (.wait duration waitedType) res dispatch)
    | .exit valueDestination => some (processSuccess gen (.exit valueDestination) res dispatch)
    | .gasAllowanceExceed => some (processAllowanceExceed dispatch programId res.gasBurned)
  | .actor gasBurned reason =>
    some (processExecutionError gen actorBytes dispatch programId gasBurned
      (SystemReservationContext.fromDispatch dispatch) reason)
  | .system => none

/-- The gas a result reports burned; a system error reports none. -/
def ExecutionResult.gasBurned : ExecutionResult M P C → ℕ
  | .ok res => res.gasBurned
  | .actor gasBurned _ => gasBurned
  | .system => 0

end Processing

/-! ## The plan of a journal -/

namespace JournalNote

variable {M P C : Type}

/-- The notes that end the journal of a message. -/
def isFinal : JournalNote M P C → Bool
  | .messageDispatched .. | .messageConsumed _ | .waitDispatch .. | .stopProcessing .. => true
  | _ => false

/-- `GasBurned`. -/
def isGasBurned : JournalNote M P C → Bool
  | .gasBurned .. => true
  | _ => false

/-- A reply the journal sends. -/
def isReply : JournalNote M P C → Bool
  | .sendDispatch _ d _ _ => d.kind == .reply
  | _ => false

/-- A note between `GasBurned` and the end of a journal. -/
def IsMiddle (n : JournalNote M P C) : Prop := n.isFinal = false ∧ n.isGasBurned = false

variable {n x : JournalNote M P C}

theorem IsMiddle.of_mem_ite {c : Prop} [Decidable c] (hx : x.IsMiddle)
    (hn : n ∈ (if c then [x] else [])) : n.IsMiddle := by
  split at hn
  · rwa [List.mem_singleton.1 hn]
  · cases hn

theorem IsMiddle.of_mem_toList {α : Type} {o : Option α} {f : α → JournalNote M P C}
    (hf : ∀ a, (f a).IsMiddle) (hn : n ∈ (o.map f).toList) : n.IsMiddle := by
  rw [Option.mem_toList, Option.map_eq_some_iff] at hn
  obtain ⟨a, -, rfl⟩ := hn
  exact hf a

theorem IsMiddle.of_mem_map {α : Type} {l : List α} {f : α → JournalNote M P C}
    (hf : ∀ a, (f a).IsMiddle) (hn : n ∈ l.map f) : n.IsMiddle := by
  obtain ⟨a, -, rfl⟩ := List.mem_map.1 hn
  exact hf a

end JournalNote

/-- The plan every journal follows: a stop that puts the message back, or one
`GasBurned` of the gas burned, notes in the middle, and an end that sends the
message to the waitlist or dispatches and consumes it. -/
inductive Shaped {M P C : Type} (id : M) (source : P) (burned : ℕ) :
    List (JournalNote M P C) → Prop
  | stop (d : StoredDispatch M P) (hid : d.message.id = id) :
      Shaped id source burned [.stopProcessing d burned]
  | wait (isPanic : Bool) (body : List (JournalNote M P C)) (d : StoredDispatch M P)
      (duration : Option ℕ) (waitedType : MessageWaitedType) (hbody : ∀ n ∈ body, n.IsMiddle)
      (hid : d.message.id = id) :
      Shaped id source burned
        (.gasBurned id burned isPanic :: (body ++ [.waitDispatch d duration waitedType]))
  | consume (isPanic : Bool) (body : List (JournalNote M P C))
      (outcome : DispatchOutcome P (ProcessErrorCase P)) (hbody : ∀ n ∈ body, n.IsMiddle) :
      Shaped id source burned
        (.gasBurned id burned isPanic ::
          (body ++ [.messageDispatched id source outcome, .messageConsumed id]))

section Shape

variable {M P C : Type} (gen : IdGen M) (actorBytes : P → List UInt8)

theorem errorNotes_isMiddle (dispatch : IncomingDispatch M P) (programId : P)
    (ctx : SystemReservationContext) (case : ProcessErrorCase P) :
    ∀ n ∈ (errorNotes gen actorBytes dispatch programId ctx case : List (JournalNote M P C)),
      n.IsMiddle := by
  intro n hn
  simp only [errorNotes, List.mem_append] at hn
  -- a value transfer, the system reservation, a signal, the unreservation, the reply
  rcases hn with (((hv | hr) | hs) | hu) | hd
  · exact .of_mem_ite ⟨rfl, rfl⟩ hv
  · exact .of_mem_toList (fun _ => ⟨rfl, rfl⟩) hr
  · split at hs
    · exact .of_mem_ite ⟨rfl, rfl⟩ hs
    · cases hs
  · exact .of_mem_ite ⟨rfl, rfl⟩ hu
  · exact .of_mem_ite ⟨rfl, rfl⟩ hd

theorem reservationNote_isMiddle {messageId : M} {programId : P} {n : JournalNote M P C}
    {e : Σ _ : ReservationId, GasReservationState} (h : reservationNote messageId programId e = some n) :
    n.IsMiddle := by
  obtain ⟨id, st⟩ := e
  cases st <;> simp only [reservationNote, Option.some.injEq, reduceCtorEq] at h
  all_goals subst h; exact ⟨rfl, rfl⟩

theorem successNotes_isMiddle (kind : SuccessfulDispatchResultKind P) (res : DispatchResult M P C)
    (dispatch : IncomingDispatch M P) :
    ∀ n ∈ successNotes gen kind res dispatch, n.IsMiddle := by
  intro n hn
  simp only [successNotes, List.mem_append] at hn
  rcases hn with (((((((((hres | hsys) | hv) | hprog) | hauto) | hdep) | hgen) | hwake) | hpage) | halloc)
  · split at hres
    · rcases List.mem_append.1 hres with hs | hu
      · obtain ⟨e, -, he⟩ := List.mem_filterMap.1 hs
        exact reservationNote_isMiddle he
      · rw [List.mem_singleton.1 hu]
        exact ⟨rfl, rfl⟩
    · cases hres
  · exact .of_mem_toList (fun _ => ⟨rfl, rfl⟩) hsys
  · exact .of_mem_ite ⟨rfl, rfl⟩ hv
  · exact .of_mem_map (fun _ => ⟨rfl, rfl⟩) hprog
  · exact .of_mem_ite ⟨rfl, rfl⟩ hauto
  · exact .of_mem_map (fun _ => ⟨rfl, rfl⟩) hdep
  · exact .of_mem_map (fun _ => ⟨rfl, rfl⟩) hgen
  · exact .of_mem_map (fun _ => ⟨rfl, rfl⟩) hwake
  · exact .of_mem_map (fun _ => ⟨rfl, rfl⟩) hpage
  · exact .of_mem_toList (fun _ => ⟨rfl, rfl⟩) halloc

/-! ### Every journal has the plan -/

theorem processError_shaped (dispatch : IncomingDispatch M P) (programId : P) (gasBurned : ℕ)
    (ctx : SystemReservationContext) (case : ProcessErrorCase P) :
    Shaped dispatch.id dispatch.source gasBurned
      (processError (C := C) gen actorBytes dispatch programId gasBurned ctx case) := by
  unfold processError
  rw [List.singleton_append, List.cons_append]
  exact .consume _ _ _ (errorNotes_isMiddle gen actorBytes dispatch programId ctx case)

theorem processSuccess_shaped (kind : SuccessfulDispatchResultKind P) (res : DispatchResult M P C)
    (dispatch : IncomingDispatch M P) :
    Shaped dispatch.id dispatch.source res.gasBurned (processSuccess gen kind res dispatch) := by
  have hmid := successNotes_isMiddle gen kind res dispatch
  have hunres : ∀ n ∈ (if res.systemReservationContext.hasAny then
      [JournalNote.systemUnreserveGas (C := C) (P := P) dispatch.id] else []), n.IsMiddle :=
    fun _ hn => .of_mem_ite ⟨rfl, rfl⟩ hn
  unfold processSuccess
  rw [List.singleton_append, List.cons_append]
  cases kind with
  | wait duration waitedType =>
    exact .wait _ _ _ _ _ hmid rfl
  | success =>
    rw [successEnding, ← List.append_assoc]
    exact .consume _ _ _ (List.forall_mem_append.2 ⟨hmid, hunres⟩)
  | exit valueDestination =>
    rw [successEnding, ← List.append_assoc]
    exact .consume _ _ _
      (List.forall_mem_append.2 ⟨hmid, List.forall_mem_cons.2 ⟨⟨rfl, rfl⟩, hunres⟩⟩)

/-- Whatever the execution's result, the journal `process` returns for it has
the plan: the gas reported is the gas burned, the message is put back only by
the allowance running out, and once consumed nothing follows. -/
theorem process_shaped (dispatch : IncomingDispatch M P) (programId : P)
    (r : ExecutionResult M P C) {j : List (JournalNote M P C)}
    (h : process gen actorBytes dispatch programId r = some j) :
    Shaped dispatch.id dispatch.source r.gasBurned j := by
  cases r with
  | ok res =>
    cases hk : res.kind with
    | trap reason =>
      simp only [process, hk, Option.some.injEq] at h
      subst h
      exact processError_shaped gen actorBytes _ _ _ _ _
    | success =>
      simp only [process, hk, Option.some.injEq] at h
      subst h
      exact processSuccess_shaped gen _ _ _
    | wait duration waitedType =>
      simp only [process, hk, Option.some.injEq] at h
      subst h
      exact processSuccess_shaped gen _ _ _
    | exit valueDestination =>
      simp only [process, hk, Option.some.injEq] at h
      subst h
      exact processSuccess_shaped gen _ _ _
    | gasAllowanceExceed =>
      simp only [process, hk, Option.some.injEq] at h
      subst h
      exact .stop _ rfl
  | actor gasBurned reason =>
    simp only [process, Option.some.injEq] at h
    subst h
    exact processError_shaped gen actorBytes _ _ _ _ _
  | system => cases h

/-- A handle message whose execution failed. -/
theorem process_shaped_actor :
    let gen : IdGen ℕ := ⟨fun m n => m + n, fun m => m + 1⟩
    let d : IncomingDispatch ℕ ℕ := ⟨.handle, ⟨0, 1, [], 10, 0, none⟩, none⟩
    let r : ExecutionResult ℕ ℕ ℕ := .actor 4 (.trap .stackLimitExceeded)
    ∃ j, process gen (fun _ => []) d 2 r = some j ∧ Shaped d.id d.source r.gasBurned j := by
  intro gen d r
  exact ⟨_, rfl, process_shaped gen _ d 2 r rfl⟩

/-! ### Replies -/

namespace JournalNote

variable {x : JournalNote M P C}

theorem filter_isReply_ite {c : Prop} [Decidable c] :
    (if c then [x] else []).filter isReply = if c ∧ x.isReply then [x] else [] := by
  split_ifs <;> simp_all

end JournalNote

open JournalNote

/-- The reply `process_error` sends for `case`: the error payload and the
case's reason, from the program back to the message's source. -/
def errorReply (dispatch : IncomingDispatch M P) (programId : P) (case : ProcessErrorCase P) :
    JournalNote M P C :=
  .sendDispatch dispatch.id
    (replyDispatch gen dispatch.id (case.intoPayload actorBytes) none
      (if dispatch.context.isNone then dispatch.value else 0) (.error case.toReason) programId
      dispatch.source) 0 none

/-- The automatic success reply of `process_success`. -/
def autoReply (dispatch : IncomingDispatch M P) (programId : P) : JournalNote M P C :=
  .sendDispatch dispatch.id
    (replyDispatch gen dispatch.id [] (some 0) 0 (.success .auto) programId dispatch.source) 0 none

/-- The notes `process_error` writes hold one reply, the error reply, unless
the message is a reply or a signal. -/
theorem errorNotes_filter_isReply (dispatch : IncomingDispatch M P) (programId : P)
    (ctx : SystemReservationContext) (case : ProcessErrorCase P) :
    (errorNotes (C := C) gen actorBytes dispatch programId ctx case).filter isReply =
      if DispatchKind.isReplyOrSignal dispatch.kind then []
      else [errorReply gen actorBytes dispatch programId case] := by
  unfold errorNotes
  -- the value, the system reservation and the unreservation are no replies
  simp only [List.filter_append, filter_isReply_ite, Option.toList_map, List.filter_map,
    Function.comp_def, isReply, Bool.false_eq_true, and_false, if_false, List.filter_false,
    List.map_nil, List.nil_append]
  -- the signal depends on the case: only a failed execution sends one, and it is no reply
  cases case <;>
    simp only [filter_isReply_ite, isReply, Bool.false_eq_true, and_false, if_false,
      List.filter_nil, List.nil_append, replyDispatch, beq_self_eq_true, and_true] <;>
    cases DispatchKind.isReplyOrSignal dispatch.kind <;> rfl

theorem reservationNote_isReply {messageId : M} {programId : P} {n : JournalNote M P C}
    {e : Σ _ : ReservationId, GasReservationState} (h : reservationNote messageId programId e = some n) :
    n.isReply = false := by
  obtain ⟨id, st⟩ := e
  cases st <;> simp only [reservationNote, Option.some.injEq, reduceCtorEq] at h
  all_goals subst h; rfl

theorem filter_isReply_filterMap_reservationNote (messageId : M) (programId : P)
    (l : List (Σ _ : ReservationId, GasReservationState)) :
    (l.filterMap (reservationNote (C := C) messageId programId)).filter isReply = [] :=
  List.filter_eq_nil_iff.2 fun _ hn => by
    obtain ⟨_, _, he⟩ := List.mem_filterMap.1 hn
    simp [reservationNote_isReply he]

/-- The replies among the notes `process_success` writes: the automatic reply
of a message that is done with and did not reply, then the replies it sent. -/
theorem successNotes_filter_isReply (kind : SuccessfulDispatchResultKind P)
    (res : DispatchResult M P C) (dispatch : IncomingDispatch M P) :
    (successNotes gen kind res dispatch).filter isReply =
      (if !kind.isWait && !DispatchKind.isReplyOrSignal dispatch.kind && !res.replySent then
        [autoReply gen dispatch res.programId] else []) ++
        (res.generatedDispatches.filter (fun g => g.1.kind == .reply)).map
          (fun g => .sendDispatch dispatch.id g.1 g.2.1 g.2.2) := by
  unfold successNotes
  -- the system reservation, the value, the programs, the deposits, the wakes,
  -- the pages and the allocations are no replies
  simp only [List.filter_append, filter_isReply_ite, Option.toList_map, List.filter_map,
    Function.comp_def, isReply, Bool.false_eq_true, and_false, if_false, List.filter_false,
    List.map_nil, List.append_nil, replyDispatch, beq_self_eq_true, and_true]
  -- nor are the notes of the reserver
  cases res.gasReserver <;>
    simp only [List.filter_append, filter_isReply_filterMap_reservationNote, List.filter_cons,
      List.filter_nil, isReply, Bool.false_eq_true, if_false, List.nil_append] <;> rfl

theorem successEnding_filter_isReply (kind : SuccessfulDispatchResultKind P)
    (res : DispatchResult M P C) (dispatch : IncomingDispatch M P) :
    (successEnding kind res dispatch).filter isReply = [] := by
  cases kind <;> simp only [successEnding] <;> (try split_ifs) <;> simp [isReply]

/-- The messages a context sends hold a reply exactly when it replied. -/
theorem drain_count_reply {R : Type} (o : Gear.Message.ContextOutcome M P R) :
    (o.drain.outgoingDispatches.map (·.1.kind)).count .reply =
      if o.drain.replySent then 1 else 0 := by
  cases h : o.reply <;>
    simp [Gear.Message.ContextOutcome.drain, h, Function.comp_def, List.count_replicate]

/-- A handle or init message that is done with gets exactly one reply, when the
messages of its result are those its message context sent: the error reply
with the reason of the failure when its execution failed; after a run to the
end, the reply it sent or, if it sent none, the automatic one. -/
theorem process_replies_once (dispatch : IncomingDispatch M P) (programId : P)
    (r : ExecutionResult M P C) {j : List (JournalNote M P C)}
    (hkind : DispatchKind.isReplyOrSignal dispatch.kind = false)
    (hdrain : ∀ res, r = .ok res → ∃ o : Gear.Message.ContextOutcome M P ReservationId,
      res.generatedDispatches.map (·.1.kind) = o.drain.outgoingDispatches.map (·.1.kind) ∧
        res.replySent = o.drain.replySent)
    (h : process gen actorBytes dispatch programId r = some j)
    (hdone : .messageConsumed dispatch.id ∈ j) :
    ∃ n, j.filter isReply = [n] ∧
      ((∃ gasBurned reason, r = .actor gasBurned reason ∧
          n = errorReply gen actorBytes dispatch programId (.executionFailed reason)) ∨
        (∃ res reason, r = .ok res ∧ res.kind = .trap reason ∧
          n = errorReply gen actorBytes dispatch programId (.executionFailed (.trap reason))) ∨
        (∃ res, r = .ok res ∧ (res.kind = .success ∨ ∃ v, res.kind = .exit v) ∧
          ((res.replySent = true ∧ ∃ g ∈ res.generatedDispatches, g.1.kind = .reply ∧
              n = .sendDispatch dispatch.id g.1 g.2.1 g.2.2) ∨
            (res.replySent = false ∧ n = autoReply gen dispatch res.programId)))) := by
  -- the error journals carry the error reply and nothing else that replies
  have herror : ∀ gasBurned ctx reason, (processExecutionError (C := C) gen actorBytes dispatch
      programId gasBurned ctx reason).filter isReply =
        [errorReply gen actorBytes dispatch programId (.executionFailed reason)] := by
    intro gasBurned ctx reason
    simp only [processExecutionError, processError, List.filter_append, List.filter_cons,
      List.filter_nil, isReply, Bool.false_eq_true, if_false, errorNotes_filter_isReply, hkind,
      List.nil_append, List.append_nil]
  cases r with
  | ok res =>
    obtain ⟨o, hkinds, hsent⟩ := hdrain res rfl
    -- the replies it sent: one exactly when it replied
    have hown : (res.generatedDispatches.filter (fun g => g.1.kind == .reply)).length =
        if res.replySent then 1 else 0 := by
      rw [← List.countP_eq_length_filter, hsent, ← drain_count_reply o, ← hkinds, List.count,
        List.countP_map]
      rfl
    -- a message that is done with: its own reply, or the automatic one
    have hsuccess : ∀ kind : SuccessfulDispatchResultKind P, kind.isWait = false →
        ∃ n, (processSuccess gen kind res dispatch).filter isReply = [n] ∧
          ((res.replySent = true ∧ ∃ g ∈ res.generatedDispatches, g.1.kind = .reply ∧
              n = .sendDispatch dispatch.id g.1 g.2.1 g.2.2) ∨
            (res.replySent = false ∧ n = autoReply gen dispatch res.programId)) := by
      intro kind hwait
      simp only [processSuccess, List.filter_append, List.filter_cons, List.filter_nil, isReply,
        Bool.false_eq_true, if_false, successNotes_filter_isReply, successEnding_filter_isReply,
        hkind, hwait, List.nil_append, List.append_nil, Bool.not_false, Bool.true_and]
      cases hr : res.replySent with
      | true =>
        rw [hr, if_pos rfl] at hown
        obtain ⟨g, hg⟩ := List.length_eq_one_iff.1 hown
        have hmem : g ∈ res.generatedDispatches.filter (fun g => g.1.kind == .reply) := by
          rw [hg]
          exact List.mem_singleton_self g
        rw [List.mem_filter, beq_iff_eq] at hmem
        refine ⟨_, by rw [hg]; rfl, .inl ⟨rfl, g, hmem.1, hmem.2, rfl⟩⟩
      | false =>
        rw [hr, if_neg Bool.false_ne_true, List.length_eq_zero_iff] at hown
        exact ⟨_, by rw [hown]; rfl, .inr ⟨rfl, rfl⟩⟩
    cases hk : res.kind with
    | trap reason =>
      simp only [process, hk, Option.some.injEq] at h
      exact ⟨_, by rw [← h, herror], .inr (.inl ⟨res, reason, rfl, hk, rfl⟩)⟩
    | success =>
      simp only [process, hk, Option.some.injEq] at h
      obtain ⟨n, hn, hwhich⟩ := hsuccess .success rfl
      exact ⟨n, by rw [← h, hn], .inr (.inr ⟨res, rfl, .inl hk, hwhich⟩)⟩
    | exit valueDestination =>
      simp only [process, hk, Option.some.injEq] at h
      obtain ⟨n, hn, hwhich⟩ := hsuccess (.exit valueDestination) rfl
      exact ⟨n, by rw [← h, hn], .inr (.inr ⟨res, rfl, .inr ⟨valueDestination, hk⟩, hwhich⟩)⟩
    | wait duration waitedType =>
      -- a waiting message is not consumed
      simp only [process, hk, Option.some.injEq] at h
      rw [← h] at hdone
      simp only [processSuccess, successEnding, List.mem_append, List.mem_singleton,
        reduceCtorEq, or_false, false_or] at hdone
      cases (successNotes_isMiddle gen _ res dispatch _ hdone).1
    | gasAllowanceExceed =>
      simp only [process, hk, Option.some.injEq] at h
      rw [← h] at hdone
      simp [processAllowanceExceed] at hdone
  | actor gasBurned reason =>
    simp only [process, Option.some.injEq] at h
    exact ⟨_, by rw [← h, herror], .inl ⟨gasBurned, reason, rfl, rfl⟩⟩
  | system => cases h

/-- A handle message that ran to its end without replying gets the automatic reply. -/
theorem process_replies_once_auto :
    let gen : IdGen ℕ := ⟨fun m n => m + n, fun m => m + 1⟩
    let d : IncomingDispatch ℕ ℕ := ⟨.handle, ⟨0, 1, [], 10, 0, none⟩, none⟩
    let res : DispatchResult ℕ ℕ ℕ :=
      ⟨.success, 2, ⟨⟨∅, 0⟩, 0, none⟩, [], [], [], [], 4, none, ⟨none, none⟩, [], none, false⟩
    ∃ j, process gen (fun _ => []) d 2 (.ok res) = some j ∧ .messageConsumed d.id ∈ j ∧
      ∃ n, j.filter isReply = [n] ∧
        ((∃ gasBurned reason, ExecutionResult.ok res = .actor gasBurned reason ∧
            n = errorReply gen (fun _ => []) d 2 (.executionFailed reason)) ∨
          (∃ res' reason, ExecutionResult.ok res = .ok res' ∧ res'.kind = .trap reason ∧
            n = errorReply gen (fun _ => []) d 2 (.executionFailed (.trap reason))) ∨
          (∃ res', ExecutionResult.ok res = .ok res' ∧
            (res'.kind = .success ∨ ∃ v, res'.kind = .exit v) ∧
            ((res'.replySent = true ∧ ∃ g ∈ res'.generatedDispatches, g.1.kind = .reply ∧
                n = .sendDispatch d.id g.1 g.2.1 g.2.2) ∨
              (res'.replySent = false ∧ n = autoReply gen d res'.programId)))) := by
  intro gen d res
  have hdone : .messageConsumed d.id ∈ (processSuccess gen .success res d) := by
    simp [processSuccess, successEnding]
  refine ⟨_, rfl, hdone, process_replies_once gen (fun _ => []) d 2 (.ok res) rfl ?_ rfl hdone⟩
  intro res' hr
  cases hr
  exact ⟨⟨[], [], none, [], [], 2, 1, 0⟩, rfl, rfl⟩

end Shape

end Gear.Processor
