import Gear.Ethexe.RuntimeQueue

/-!
# The native journal handler — `NativeJournalHandler` of `ethexe-runtime-common`

The notes the runtime passes on are applied, after the chunk ran, by the
processor: `handle_journal` walks each journal of each program with a
`NativeJournalHandler` of the program, the type of the message's queue and its
call flag. The handler changes the block: it sends a dispatch to a program's
queue or stash, or to a user's mailbox, through the mailbox of an event
destination or as an outgoing message of the transition; it takes a message
out of its queue when it was consumed or waits, wakes a waiting message, moves
value, and marks exited programs. Every change of a program goes through
`TransitionController::update_state`, whose closure sees only the program's
state and the transitions.

The program states are stored by hash: `update_state` reads the state the
program's hash names and writes the new one under `hashOf` of it. With the
hash collision-free the read returns the state last written for the program,
so the states are kept here by program, and the transitions record `hashOf` of
each. The stored parts of a state (queues, waitlist, stash, mailbox) are the
maps and lists they hold; a payload is kept in its dispatch.

`message_consumed` and `wait_dispatch` take the head of the queue and assert
that it is the message processed. `applyEntries_dequeues` says that the
runtime and the handler agree on the queue: applying, in order, the mega
journal of a run of a program's queue (`RunsOn`) to a block where the
program's queue starts with the dispatches the run went through never panics
on the queue's head, and takes off the queue exactly the dispatches the run
consumed or waited; the other notes only add to the queue's end.
-/

namespace Gear.Processor

/-- `StoredDispatch::is_reply`. -/
def StoredDispatch.isReply {M P : Type} (d : StoredDispatch M P) : Bool :=
  match d.message.details with
  | some (.reply ..) => true
  | _ => false

end Gear.Processor

namespace Gear.Ethexe.Runtime

open Gear.Processor
open Gear.Message (IdGen)
open Gear.Reservation (ReservationId)
open Except (Avoids avoids_bind avoids_ok)

/-! ## The block -/

/-- `WAIT_UP_TO_SAFE_DURATION`. -/
def waitUpToSafeDuration : ℕ := 64

/-- `GEAR_SAILS_EVENT`. -/
def gearSailsEvent : ActorId := 0

/-- `ETH_SAILS_EVENT`: twelve zero bytes, then twenty bytes `0xff`. -/
def ethSailsEvent : ActorId := 2 ^ 160 - 1

/-- `is_event_destination`. -/
def isEventDestination (destination : ActorId) : Bool :=
  destination == gearSailsEvent || destination == ethSailsEvent

/-- `ScheduledTask` of ethexe, with its keys. -/
inductive ScheduledTask
  | removeFromMailbox (programId userId : ActorId) (messageId : MessageId)
  | removeFromWaitlist (programId : ActorId) (messageId : MessageId)
  | wakeMessage (programId : ActorId) (messageId : MessageId)
  | sendDispatch (programId : ActorId) (messageId : MessageId)
  | sendUserMessage (messageId : MessageId) (toMailbox : ActorId)
  | removeGasReservation (programId : ActorId) (reservationId : ReservationId)
deriving DecidableEq

/-- `Schedule`: the tasks of each block height. -/
abbrev Schedule := AList fun _ : ℕ => Finset ScheduledTask

/-- `ethexe_common::gear::Message`, an outgoing message of a transition. -/
structure Message where
  id : MessageId
  destination : ActorId
  payload : List UInt8
  value : ℕ
  replyDetails : Option (MessageId × ReplyCode)
  call : Bool

/-- `Message::from_stored`. -/
def Message.fromStored (m : StoredMessage MessageId ActorId) (call : Bool) : Message :=
  ⟨m.id, m.destination, m.payload, m.value,
    m.details.bind fun
      | .reply replyTo code => some (replyTo, code)
      | .signal .. => none,
    call⟩

/-- `TransitionsConfig`. -/
structure TransitionsConfig where
  blockHeight : ℕ
  mailboxValidity : ℕ
  eventDestinationsAutoreply : Bool

/-- The `InBlockTransitions` of the runtime: the transitions, their schedule
and their config. -/
structure BlockTransitions where
  transitions : InBlockTransitions Message
  schedule : Schedule
  config : TransitionsConfig

namespace BlockTransitions

/-- `is_program`. -/
def isProgram (b : BlockTransitions) (actorId : ActorId) : Bool :=
  decide (actorId ∈ b.transitions.states)

/-- `schedule_task`: the task at the block `in_blocks` ahead, and that block. -/
def scheduleTask (b : BlockTransitions) (inBlocks : ℕ) (task : ScheduledTask) :
    BlockTransitions × ℕ :=
  let block := b.config.blockHeight + inBlocks
  ({ b with schedule := b.schedule.insert block (insert task ((b.schedule.lookup block).getD ∅)) },
    block)

/-- `remove_task`, whose `anyhow` errors the handler `expect`s. -/
def removeTask (b : BlockTransitions) (expiry : ℕ) (task : ScheduledTask) :
    Option BlockTransitions :=
  match b.schedule.lookup expiry with
  | none => none
  | some tasks =>
    if task ∈ tasks then
      some { b with schedule :=
        if tasks.erase task = ∅ then b.schedule.erase expiry
        else b.schedule.insert expiry (tasks.erase task) }
    else none

/-- `modify_transition` with a closure that may panic. -/
def modifyTransitionWith (b : BlockTransitions) (actorId : ActorId)
    (f : TransitionFields Message → Option (TransitionFields Message)) : Option BlockTransitions :=
  (b.transitions.modify actorId fun st tr =>
    (f tr.toTransitionFields).map fun fields => (st, { tr with toTransitionFields := fields })).map
      fun transitions => { b with transitions }

end BlockTransitions

/-- `push_outgoing`: the message is pushed, and its id committed when it is
committable to Ethereum; whether it is. -/
def pushOutgoing (transition : TransitionFields Message) (msg : Message)
    (messageType : MessageType) : TransitionFields Message × Bool :=
  let committable := messageType == .canonical || msg.value != 0 || msg.call
  ({ transition with
      committedMessageIds := if committable then insert msg.id transition.committedMessageIds
        else transition.committedMessageIds
      messages := transition.messages ++ [msg] },
    committable)

/-- `ProgramState`, with what its hashes name read: the queues, the waitlist,
the stash and the mailbox. -/
structure StoredProgramState (H : Type) where
  program : Program H
  canonicalQueue : List Dispatch
  injectedQueue : List Dispatch
  waitlist : AList fun _ : MessageId => Expiring Dispatch
  stash : AList fun _ : MessageId => Expiring (Dispatch × Option ActorId)
  mailbox : AList fun _ : ActorId × MessageId => Expiring MailboxMessage
  balance : ℕ
  executableBalance : ℕ

namespace StoredProgramState

variable {H : Type}

/-- `queue_from_msg_type`. -/
def queueOf (state : StoredProgramState H) : MessageType → List Dispatch
  | .canonical => state.canonicalQueue
  | .injected => state.injectedQueue

/-- The state with the queue of a type replaced. -/
def setQueue (state : StoredProgramState H) : MessageType → List Dispatch → StoredProgramState H
  | .canonical, q => { state with canonicalQueue := q }
  | .injected, q => { state with injectedQueue := q }

/-- `queue_from_msg_type(t).modify_queue(|q| q.queue(d))`. -/
def queue (state : StoredProgramState H) (t : MessageType) (d : Dispatch) : StoredProgramState H :=
  state.setQueue t (state.queueOf t ++ [d])

end StoredProgramState

/-- The cached size of a queue, saturating at `u8::MAX`. -/
def queueSize (q : List Dispatch) : ℕ := min q.length 255

/-- What the native handler reads and writes: the transitions, the program
states, and the flag and the limits it shares with the processor. -/
structure NativeWorld (H : Type) where
  block : BlockTransitions
  programs : AList fun _ : ActorId => StoredProgramState H
  outOfGas : Bool
  limiter : Limiter

/-- The panics of the native handler, by their messages. -/
inductive JournalPanic
  /-- "failed to find program in known states". -/
  | unknownProgram
  /-- "failed to read state from storage". -/
  | stateNotStored
  /-- "Insufficient balance: underflow in state.balance -= dispatch.value()". -/
  | insufficientBalance
  /-- "value fits into i128". -/
  | valueOutOfI128
  /-- "Insufficient balance: underflow in transition.value_to_receive -= dispatch.value()". -/
  | valueToReceiveUnderflow
  /-- "Overflow in state.balance += value during value transfer". -/
  | balanceOverflow
  /-- "Overflow in transition.value_to_receive += value". -/
  | valueToReceiveOverflow
  /-- "Overflow in state.balance += balance during exit dispatch value transfer". -/
  | exitBalanceOverflow
  /-- "an attempt to consume message from empty queue". -/
  | consumeFromEmptyQueue
  /-- "an attempt to wait message from empty queue". -/
  | waitFromEmptyQueue
  /-- "queue head doesn't match processed message". -/
  | queueHeadMismatch
  /-- "payload size is too big for u32 in outgoing messages bytes limiter". -/
  | payloadTooBig
  /-- The `unreachable!` of what is deprecated: reservations and gas limits. -/
  | deprecated
  /-- "Wait dispatch without specified duration is forbidden in ethexe runtime". -/
  | waitWithoutDuration
  /-- "gr_wait is forbidden in ethexe runtime". -/
  | waitForbidden
  /-- "must be checked on backend side": a wait of no block. -/
  | zeroWaitDuration
  /-- "delayed wake is forbidden in ethexe runtime". -/
  | delayedWake
  /-- "failed to remove scheduled task". -/
  | removeTask
  /-- "Program to User value transfer is not supported". -/
  | programToUserValue
  /-- "User to User value transfer is not supported". -/
  | userToUserValue
  /-- The `todo!` of `store_new_programs`. -/
  | storeNewPrograms
  /-- "Handled inside runtime by `RuntimeJournalHandler`". -/
  | handledInsideRuntime
deriving DecidableEq, Repr

/-- The panics on the queue's head: an empty queue or another message at its
head. -/
def QueueMismatch (p : JournalPanic) : Prop :=
  p = .consumeFromEmptyQueue ∨ p = .waitFromEmptyQueue ∨ p = .queueHeadMismatch

/-- `NativeJournalHandler`: the program whose journal it handles, the type of
the message's queue and its call flag, and the gas the processor reads for a
stop. -/
structure NativeJournalHandler where
  programId : ActorId
  messageType : MessageType
  callReply : Bool
  gasAllowanceLeft : ℕ
  chunkGasLimit : ℕ

/-! ## Dispatches -/

/-- `Dispatch::reply`. -/
def Dispatch.reply (gen : IdGen MessageId) (replyTo : MessageId) (source : ActorId)
    (payload : List UInt8) (value : ℕ) (replyCode : ReplyCode) (messageType : MessageType)
    (call : Bool) : Dispatch :=
  ⟨gen.reply replyTo, .reply, source, payload, value, some (.reply replyTo replyCode), none,
    messageType, call⟩

/-- `Dispatch::from_core_stored`: the destination is dropped. -/
def Dispatch.fromCoreStored (d : StoredDispatch MessageId ActorId) (messageType : MessageType)
    (callReply : Bool) : Dispatch :=
  ⟨d.message.id, d.kind, d.message.source, d.message.payload, d.message.value, d.message.details,
    d.context, messageType, callReply⟩

/-- `Dispatch::into_stored` of `gear_core`: a new dispatch has no context. -/
def intoStored (d : Processor.Dispatch MessageId ActorId) : StoredDispatch MessageId ActorId :=
  ⟨d.kind, ⟨d.id, d.source, d.destination, d.payload, d.value, d.details⟩, none⟩

/-- `u128::checked_add`. -/
def checkedAddU128 (a b : ℕ) : Option ℕ := if a + b ≤ u128Max then some (a + b) else none

section Handler

variable {H : Type} (hashOf : StoredProgramState H → ℕ) (gen : IdGen MessageId)

namespace NativeWorld

/-- `TransitionController::update_state`: the closure gets the program's
state and the transitions, and the new state is written with the sizes of its
queues. -/
def updateState {α : Type} (w : NativeWorld H) (programId : ActorId)
    (f : StoredProgramState H → BlockTransitions →
      Except JournalPanic (StoredProgramState H × BlockTransitions × α)) :
    Except JournalPanic (NativeWorld H × α) := do
  let _ ← expect (w.block.transitions.states.lookup programId) .unknownProgram
  let state ← expect (w.programs.lookup programId) .stateNotStored
  let (state, block, r) ← f state w.block
  let transitions ← expect (block.transitions.modifyState programId (hashOf state)
    (queueSize state.canonicalQueue) (queueSize state.injectedQueue)) .unknownProgram
  .ok ({ w with
    block := { block with transitions }
    programs := w.programs.insert programId state }, r)

/-- The queue of a type of a program. -/
def queueOf (w : NativeWorld H) (programId : ActorId) (t : MessageType) : List Dispatch :=
  ((w.programs.lookup programId).map (·.queueOf t)).getD []

end NativeWorld

/-- The value leaving a program: its balance and its value to receive go down
by it. -/
def chargeValue (programId : ActorId) (value : ℕ) (state : StoredProgramState H)
    (block : BlockTransitions) : Except JournalPanic (StoredProgramState H × BlockTransitions) := do
  let balance ← expect (checkedSub state.balance value) .insufficientBalance
  let v ← expect (I128.tryFromU128 value) .valueOutOfI128
  let block ← expect (block.modifyTransitionWith programId fun tr =>
    (tr.valueToReceive.checkedAdd (-v.1)).map fun valueToReceive => { tr with valueToReceive })
    .valueToReceiveUnderflow
  .ok ({ state with balance }, block)

namespace NativeJournalHandler

/-- `send_dispatch_to_program`. -/
def sendDispatchToProgram (w : NativeWorld H) (destination : ActorId) (dispatch : Dispatch)
    (delay : ℕ) : Except JournalPanic (NativeWorld H) := do
  let (w, _) ← (if dispatch.value ≠ 0 then
      w.updateState hashOf dispatch.source fun state block => do
        let (state, block) ← chargeValue dispatch.source dispatch.value state block
        .ok (state, block, ())
    else .ok (w, ()))
  let (w, _) ← w.updateState hashOf destination fun state block =>
    if delay ≠ 0 then
      let (block, expiry) := block.scheduleTask delay (.sendDispatch destination dispatch.id)
      .ok ({ state with stash := state.stash.insert dispatch.id ⟨(dispatch, none), expiry⟩ },
        block, ())
    else .ok (state.queue dispatch.messageType dispatch, block, ())
  .ok w

/-- `send_dispatch_to_user`. -/
def sendDispatchToUser (h : NativeJournalHandler) (w : NativeWorld H)
    (dispatch : StoredDispatch MessageId ActorId) (delay : ℕ) :
    Except JournalPanic (NativeWorld H) := do
  let length := dispatch.message.payload.length
  if length ≥ 2 ^ 32 then .error .payloadTooBig
  let use := (1, length, if dispatch.isReply && h.callReply then 1 else 0)
  let w := { w with limiter := w.limiter.consume use }
  let source := dispatch.message.source
  let destination := dispatch.message.destination
  let value := dispatch.message.value
  if dispatch.isReply then
    -- a reply is pushed out; its value leaves the balance only
    let (w, _) ← w.updateState hashOf source fun state block => do
      let balance ← (if value ≠ 0 then expect (checkedSub state.balance value) .insufficientBalance
        else .ok state.balance)
      let block ← expect (block.modifyTransitionWith source fun tr =>
        some (pushOutgoing tr (.fromStored dispatch.message h.callReply) h.messageType).1)
        .unknownProgram
      .ok ({ state with balance }, block, ())
    .ok w
  else
    let (w, _) ← w.updateState hashOf source fun state block => do
      -- the value is charged before the branches
      let (state, block) ←
        (if value ≠ 0 then chargeValue source value state block else .ok (state, block))
      if delay ≠ 0 then
        let (block, expiry) :=
          block.scheduleTask delay (.sendUserMessage dispatch.message.id source)
        let d := Dispatch.fromCoreStored dispatch h.messageType false
        .ok ({ state with stash := state.stash.insert d.id ⟨(d, some destination), expiry⟩ },
          block, ())
      else if block.config.eventDestinationsAutoreply && isEventDestination destination then
        -- an event destination: the message goes out, and is replied to at once
        let claim : ValueClaim := ⟨dispatch.message.id, destination, value⟩
        let block ← expect (block.modifyTransitionWith source fun tr =>
          let (tr, committable) :=
            pushOutgoing tr (.fromStored dispatch.message false) h.messageType
          some (if committable then { tr with claims := tr.claims ++ [claim] } else tr))
          .unknownProgram
        let reply := Dispatch.reply gen dispatch.message.id destination [] 0 (.success .auto)
          h.messageType false
        .ok (state.queue h.messageType reply, block, ())
      else
        let (block, expiry) := block.scheduleTask block.config.mailboxValidity
          (.removeFromMailbox source destination dispatch.message.id)
        let block ← expect (block.modifyTransitionWith source fun tr =>
          some (pushOutgoing tr (.fromStored dispatch.message false) h.messageType).1)
          .unknownProgram
        let mail : Expiring MailboxMessage := ⟨⟨value, h.messageType⟩, expiry⟩
        .ok ({ state with mailbox := state.mailbox.insert (destination, dispatch.message.id) mail },
          block, ())
    .ok w

/-- `send_dispatch`. -/
def sendDispatch (h : NativeJournalHandler) (w : NativeWorld H)
    (dispatch : Processor.Dispatch MessageId ActorId) (delay : ℕ)
    (reservation : Option ReservationId) : Except JournalPanic (NativeWorld H) :=
  if reservation.isSome || (dispatch.gasLimit.map (· != 0)).getD false then .error .deprecated
  else if w.block.isProgram dispatch.destination then
    sendDispatchToProgram hashOf w dispatch.destination
      (.fromCoreStored (intoStored dispatch) h.messageType false) delay
  else sendDispatchToUser hashOf gen h w (intoStored dispatch) delay

/-- `message_consumed`: the head of the queue is taken off, and must be the
message. -/
def messageConsumed (h : NativeJournalHandler) (w : NativeWorld H) (messageId : MessageId) :
    Except JournalPanic (NativeWorld H) := do
  let (w, _) ← w.updateState hashOf h.programId fun state block =>
    match state.queueOf h.messageType with
    | [] => .error .consumeFromEmptyQueue
    | head :: rest =>
      if head.id = messageId then .ok (state.setQueue h.messageType rest, block, ())
      else .error .queueHeadMismatch
  .ok w

/-- `wait_dispatch`: the head of the queue, which must be the message, waits
for a wake scheduled after the duration. -/
def waitDispatch (h : NativeJournalHandler) (w : NativeWorld H)
    (dispatch : StoredDispatch MessageId ActorId) (duration : Option ℕ)
    (waitedType : MessageWaitedType) : Except JournalPanic (NativeWorld H) := do
  let duration ← expect duration .waitWithoutDuration
  let inBlocks ← (match waitedType with
    | .wait => .error .waitForbidden
    -- a wait up to a duration the gas did not cover waits the safe duration at most
    | .waitUpTo => .ok (min duration waitUpToSafeDuration)
    | .waitFor | .waitUpToFull => .ok duration)
  if inBlocks = 0 then .error .zeroWaitDuration
  let (w, _) ← w.updateState hashOf h.programId fun state block =>
    let (block, expiry) := block.scheduleTask inBlocks
      (.wakeMessage dispatch.message.destination dispatch.message.id)
    let d := Dispatch.fromCoreStored dispatch h.messageType h.callReply
    match state.queueOf h.messageType with
    | [] => .error .waitFromEmptyQueue
    | head :: rest =>
      if head.id = d.id then
        let state := state.setQueue h.messageType rest
        .ok ({ state with waitlist := state.waitlist.insert d.id ⟨d, expiry⟩ }, block, ())
      else .error .queueHeadMismatch
  .ok w

/-- `wake_message`: a waiting message goes back to its queue, and its wake is
unscheduled. -/
def wakeMessage (w : NativeWorld H) (programId : ActorId) (awakeningId : MessageId)
    (delay : ℕ) : Except JournalPanic (NativeWorld H) := do
  if delay ≠ 0 then .error .delayedWake
  let (w, _) ← w.updateState hashOf programId fun state block =>
    match state.waitlist.lookup awakeningId with
    | none => .ok (state, block, ())
    | some ⟨dispatch, expiry⟩ => do
      let state := { state with waitlist := state.waitlist.erase awakeningId }
      let block ← expect (block.removeTask expiry (.wakeMessage programId awakeningId)) .removeTask
      .ok (state.queue dispatch.messageType dispatch, block, ())
  .ok w

/-- `send_value`: value to a program raises its balance and its value to
receive. -/
def sendValue (w : NativeWorld H) (sender beneficiary : ActorId) (value : ℕ) :
    Except JournalPanic (NativeWorld H) :=
  if value = 0 then .ok w
  else if w.block.isProgram beneficiary then do
    let (w, _) ← w.updateState hashOf beneficiary fun state block => do
      let balance ← expect (checkedAddU128 state.balance value) .balanceOverflow
      let v ← expect (I128.tryFromU128 value) .valueOutOfI128
      let block ← expect (block.modifyTransitionWith beneficiary fun tr =>
        (tr.valueToReceive.checkedAdd v.1).map fun valueToReceive => { tr with valueToReceive })
        .valueToReceiveOverflow
      .ok ({ state with balance }, block, ())
    .ok w
  else if w.block.isProgram sender then .error .programToUserValue
  else .error .userToUserValue

/-- `exit_dispatch`: the program exits to its inheritor, which gets its
balance when it is a program. -/
def exitDispatch (w : NativeWorld H) (idExited inheritor : ActorId) :
    Except JournalPanic (NativeWorld H) := do
  let (w, balance) ← w.updateState hashOf idExited fun state block => do
    let block ← expect (block.modifyTransitionWith idExited fun tr =>
      some { tr with inheritor := some inheritor }) .unknownProgram
    .ok ({ state with program := .exited inheritor, balance := 0 }, block, state.balance)
  if w.block.isProgram inheritor then
    let (w, _) ← w.updateState hashOf inheritor fun state block => do
      let balance ← expect (checkedAddU128 state.balance balance) .exitBalanceOverflow
      .ok ({ state with balance }, block, ())
    .ok w
  else .ok w

/-- `stop_processing`: out of gas for the block, not only for the chunk. -/
def stopProcessing (h : NativeJournalHandler) (w : NativeWorld H) : NativeWorld H :=
  if h.gasAllowanceLeft < h.chunkGasLimit then { w with outOfGas := true } else w

/-- The call `handle_journal` makes for one note; the notes it gathers
(exits, pages, allocations) are not passed here. -/
def handleNote (h : NativeJournalHandler) (w : NativeWorld H)
    (note : JournalNote MessageId ActorId CodeId) : Except JournalPanic (NativeWorld H) :=
  match note with
  | .messageConsumed messageId => messageConsumed hashOf h w messageId
  | .sendDispatch _ dispatch delay reservation =>
    sendDispatch hashOf gen h w dispatch delay reservation
  | .waitDispatch dispatch duration waitedType =>
    waitDispatch hashOf h w dispatch duration waitedType
  | .wakeMessage _ programId awakeningId delay => wakeMessage hashOf w programId awakeningId delay
  | .sendValue sender beneficiary value _ => sendValue hashOf w sender beneficiary value
  | .stopProcessing .. => .ok (stopProcessing h w)
  | .storeNewPrograms .. => .error .storeNewPrograms
  | .messageDispatched .. | .gasBurned .. | .exitDispatch .. | .updatePage ..
  | .updateAllocations .. => .error .handledInsideRuntime
  | .reserveGas .. | .unreserveGas .. | .updateGasReservations .. | .systemReserveGas ..
  | .systemUnreserveGas .. | .sendSignal .. | .replyDeposit .. => .error .deprecated

/-- What `handle_journal` carries along the notes: the world, the pages and
allocations updates it gathers, and the exits. -/
abbrev Gathered (H : Type) :=
  NativeWorld H × List (ℕ × List (ℕ × List UInt8)) ×
    List (ℕ × {s : Finset ℕ // ∀ p ∈ s, p ≤ Gear.Memory.wasmPageUpper}) × List (ActorId × ActorId)

/-- The body of the loop of `handle_journal` on one note. -/
def gatherNote (h : NativeJournalHandler) (g : Gathered H)
    (note : JournalNote MessageId ActorId CodeId) : Except JournalPanic (Gathered H) :=
  let (w, pages, allocations, exits) := g
  match note with
  | .exitDispatch idExited valueDestination =>
    .ok (w, pages, allocations, exits ++ [(idExited, valueDestination)])
  | .updatePage programId pageNumber data =>
    .ok (w, btreeEntryInsert programId pageNumber data pages, allocations, exits)
  | .updateAllocations programId newAllocations =>
    .ok (w, pages, btreeInsert programId newAllocations allocations, exits)
  | note => do
    let w ← handleNote hashOf gen h w note
    .ok (w, pages, allocations, exits)

/-- `handle_journal` with the native handler: the notes in order, then the
pages and allocations updates gathered, which this handler does not take, then
the exits. -/
def handleJournal (h : NativeJournalHandler) (w : NativeWorld H)
    (journal : List (JournalNote MessageId ActorId CodeId)) :
    Except JournalPanic (NativeWorld H) := do
  let (w, pages, allocations, exits) ← journal.foldlM (gatherNote hashOf gen h) (w, [], [], [])
  if !pages.isEmpty || !allocations.isEmpty then .error .handledInsideRuntime
  exits.foldlM (fun w e => exitDispatch hashOf w e.1 e.2) w

end NativeJournalHandler

/-- The journals of one program's run applied in order, each with a handler
of the program, the entry's queue type and call flag
(`process_chunk_execution_journals`). -/
def applyEntries (programId : ActorId) (gasAllowanceLeft chunkGasLimit : ℕ) (w : NativeWorld H)
    (entries : List (List (JournalNote MessageId ActorId CodeId) × MessageType × Bool)) :
    Except JournalPanic (NativeWorld H) :=
  entries.foldlM (fun w (e : List (JournalNote MessageId ActorId CodeId) × MessageType × Bool) =>
    NativeJournalHandler.handleJournal hashOf gen
      ⟨programId, e.2.1, e.2.2, gasAllowanceLeft, chunkGasLimit⟩ w e.1) w

end Handler

/-! ## The queues under the handler -/

instance : DecidablePred QueueMismatch := fun p =>
  inferInstanceAs (Decidable (p = .consumeFromEmptyQueue ∨ p = .waitFromEmptyQueue ∨
    p = .queueHeadMismatch))

namespace StoredProgramState

variable {H : Type}

/-- Each queue of the second state starts with the same queue of the first. -/
def QueuesGrow (s s' : StoredProgramState H) : Prop := ∀ t, s.queueOf t <+: s'.queueOf t

/-- A state with the same two queues has the same queue of each type. -/
theorem queueOf_eq_of {s s' : StoredProgramState H} (hc : s'.canonicalQueue = s.canonicalQueue)
    (hi : s'.injectedQueue = s.injectedQueue) (t : MessageType) : s'.queueOf t = s.queueOf t := by
  cases t
  · exact hc
  · exact hi

theorem QueuesGrow.of_eq {s s' : StoredProgramState H} (hc : s'.canonicalQueue = s.canonicalQueue)
    (hi : s'.injectedQueue = s.injectedQueue) : s.QueuesGrow s' := fun t => by
  rw [queueOf_eq_of hc hi t]

theorem QueuesGrow.trans {s₁ s₂ s₃ : StoredProgramState H} (h₁ : s₁.QueuesGrow s₂)
    (h₂ : s₂.QueuesGrow s₃) : s₁.QueuesGrow s₃ := fun t => (h₁ t).trans (h₂ t)

/-- Queueing a dispatch only adds to the end of its queue. -/
theorem queue_grows (s : StoredProgramState H) (t : MessageType) (d : Dispatch) :
    s.QueuesGrow (s.queue t d) := by
  intro t'
  cases t <;> cases t' <;> simp [queue, setQueue, queueOf]

theorem QueuesGrow.queue {s s' : StoredProgramState H} (h : s.QueuesGrow s') (t : MessageType)
    (d : Dispatch) : s.QueuesGrow (s'.queue t d) :=
  h.trans (queue_grows s' t d)

@[simp] theorem queueOf_setQueue (s : StoredProgramState H) (t : MessageType) (q : List Dispatch) :
    (s.setQueue t q).queueOf t = q := by
  cases t <;> rfl

end StoredProgramState

namespace NativeWorld

variable {H : Type} (hashOf : StoredProgramState H → ℕ)

theorem queueOf_of_lookup {w : NativeWorld H} {p : ActorId} {s : StoredProgramState H}
    (h : w.programs.lookup p = some s) (t : MessageType) : w.queueOf p t = s.queueOf t := by
  simp [queueOf, h]

/-- The queues of a world whose program `p` was given the state `s`. -/
theorem queueOf_of_programs {w w' : NativeWorld H} {p : ActorId} {s : StoredProgramState H}
    (h : w'.programs = w.programs.insert p s) (q : ActorId) (t : MessageType) :
    w'.queueOf q t = if q = p then s.queueOf t else w.queueOf q t := by
  unfold queueOf
  rw [h]
  by_cases hq : q = p
  · subst hq
    simp
  · simp [AList.lookup_insert_ne hq, hq]

/-- Every queue of the second world starts with the same queue of the first:
the queues only grew at their ends. -/
def Grows (w w' : NativeWorld H) : Prop := ∀ q t, w.queueOf q t <+: w'.queueOf q t

theorem Grows.refl (w : NativeWorld H) : w.Grows w := fun _ _ => List.prefix_refl _

theorem Grows.trans {w₁ w₂ w₃ : NativeWorld H} (h₁ : w₁.Grows w₂) (h₂ : w₂.Grows w₃) :
    w₁.Grows w₃ := fun q t => (h₁ q t).trans (h₂ q t)

theorem Grows.of_programs {w w' : NativeWorld H} (h : w'.programs = w.programs) : w.Grows w' := by
  intro q t
  simp [queueOf, h]

/-- The rule of `update_state`: what the closure gives the program's state,
with the errors it avoids, holds of the world it writes, which differs from
the old one in that state only. -/
theorem updateState_avoids {α : Type} {bad : JournalPanic → Prop} {P : NativeWorld H → α → Prop}
    {w : NativeWorld H} {p : ActorId}
    {f : StoredProgramState H → BlockTransitions →
      Except JournalPanic (StoredProgramState H × BlockTransitions × α)}
    (hunknown : ¬ bad .unknownProgram) (hstored : ¬ bad .stateNotStored)
    (hf : ∀ s, w.programs.lookup p = some s →
      Avoids bad (fun r => ∀ w', w'.programs = w.programs.insert p r.1 → P w' r.2.2)
        (f s w.block)) :
    Avoids bad (fun r => P r.1 r.2) (w.updateState hashOf p f) := by
  unfold updateState
  refine avoids_bind (expect_avoids hunknown) fun _ _ => ?_
  refine avoids_bind (expect_avoids hstored) fun s hs => ?_
  refine avoids_bind (hf s hs) fun r hr => ?_
  obtain ⟨s', block, a⟩ := r
  exact avoids_bind (expect_avoids hunknown) fun _ _ => hr _ rfl

/-- A change of one program's state that only adds to its queues only adds to
the world's. -/
theorem updateState_grows {α : Type} {w : NativeWorld H} {p : ActorId}
    {f : StoredProgramState H → BlockTransitions →
      Except JournalPanic (StoredProgramState H × BlockTransitions × α)}
    (hf : ∀ s b, Avoids QueueMismatch (fun r => s.QueuesGrow r.1) (f s b)) :
    Avoids QueueMismatch (fun r => w.Grows r.1) (w.updateState hashOf p f) := by
  refine updateState_avoids hashOf (P := fun w' _ => w.Grows w') (by decide) (by decide) fun s hs =>
    (hf s w.block).mono fun r hr w' hw' q t => ?_
  rw [queueOf_of_programs hw']
  split_ifs with hq
  · subst hq
    rw [queueOf_of_lookup hs]
    exact hr t
  · exact List.prefix_refl _

end NativeWorld

section Grows

variable {H : Type} (hashOf : StoredProgramState H → ℕ) (gen : IdGen MessageId)

open StoredProgramState (QueuesGrow queue_grows)
open NativeWorld (Grows updateState_grows updateState_avoids)

/-- Charging value leaves the queues. -/
theorem chargeValue_queues (programId : ActorId) (value : ℕ) (state : StoredProgramState H)
    (block : BlockTransitions) :
    Avoids QueueMismatch (fun r => state.QueuesGrow r.1)
      (chargeValue programId value state block) := by
  unfold chargeValue
  -- the bound of `i128` is a large literal: the conversion stays abstract, so
  -- that no goal evaluates it
  generalize I128.tryFromU128 value = v
  refine avoids_bind (expect_avoids (by decide)) fun _ _ => ?_
  refine avoids_bind (expect_avoids (by decide)) fun _ _ => ?_
  exact avoids_bind (expect_avoids (by decide)) fun _ _ => QueuesGrow.of_eq rfl rfl

namespace NativeJournalHandler

theorem sendDispatchToProgram_grows (w : NativeWorld H) (destination : ActorId)
    (dispatch : Dispatch) (delay : ℕ) :
    Avoids QueueMismatch w.Grows (sendDispatchToProgram hashOf w destination dispatch delay) := by
  unfold sendDispatchToProgram
  refine avoids_bind (Q := fun r : NativeWorld H × Unit => w.Grows r.1) ?_ fun r₁ h₁ => ?_
  · -- the value leaves the source first
    split
    · exact updateState_grows hashOf fun s b =>
        avoids_bind (chargeValue_queues _ _ s b) fun _ h => h
    · exact Grows.refl w
  · refine avoids_bind (updateState_grows hashOf fun s b => ?_) fun r₂ h₂ => h₁.trans h₂
    split
    · exact QueuesGrow.of_eq rfl rfl
    · exact queue_grows s _ _

theorem sendDispatchToUser_grows (h : NativeJournalHandler) (w : NativeWorld H)
    (dispatch : StoredDispatch MessageId ActorId) (delay : ℕ) :
    Avoids QueueMismatch w.Grows (sendDispatchToUser hashOf gen h w dispatch delay) := by
  unfold sendDispatchToUser
  dsimp only
  split
  · exact (by decide : ¬ QueueMismatch .payloadTooBig)
  -- the limits are not the programs
  have hlimit : ∀ limiter, w.Grows { w with limiter } := fun _ => Grows.of_programs rfl
  split
  · -- a reply: the balance and the transition change
    refine avoids_bind (updateState_grows hashOf fun s b => ?_) fun r hr => (hlimit _).trans hr
    refine avoids_bind (Q := fun _ => True) ?_ fun _ _ => ?_
    · split
      · exact (expect_avoids (by decide)).mono fun _ _ => trivial
      · trivial
    · exact avoids_bind (expect_avoids (by decide)) fun _ _ => QueuesGrow.of_eq rfl rfl
  · refine avoids_bind (updateState_grows hashOf fun s b => ?_) fun r hr => (hlimit _).trans hr
    refine avoids_bind (Q := fun r => s.QueuesGrow r.1) ?_ fun r hr => ?_
    · split
      · exact chargeValue_queues _ _ s b
      · exact QueuesGrow.of_eq rfl rfl
    obtain ⟨s₁, b₁⟩ := r
    split
    · -- a delayed message waits in the stash
      exact hr.trans (QueuesGrow.of_eq rfl rfl)
    split
    · -- an event destination: the automatic reply joins the queue
      exact avoids_bind (expect_avoids (by decide)) fun _ _ => hr.queue _ _
    · exact avoids_bind (expect_avoids (by decide)) fun _ _ => hr.trans (QueuesGrow.of_eq rfl rfl)

theorem sendDispatch_grows (h : NativeJournalHandler) (w : NativeWorld H)
    (dispatch : Processor.Dispatch MessageId ActorId) (delay : ℕ)
    (reservation : Option ReservationId) :
    Avoids QueueMismatch w.Grows (sendDispatch hashOf gen h w dispatch delay reservation) := by
  unfold sendDispatch
  split
  · exact (by decide : ¬ QueueMismatch .deprecated)
  split
  · exact sendDispatchToProgram_grows hashOf w _ _ _
  · exact sendDispatchToUser_grows hashOf gen h w _ _

theorem wakeMessage_grows (w : NativeWorld H) (programId : ActorId) (awakeningId : MessageId)
    (delay : ℕ) :
    Avoids QueueMismatch w.Grows (wakeMessage hashOf w programId awakeningId delay) := by
  unfold wakeMessage
  dsimp only
  split
  · exact (by decide : ¬ QueueMismatch .delayedWake)
  refine avoids_bind (updateState_grows hashOf fun s b => ?_) fun _ hr => hr
  split
  · exact QueuesGrow.of_eq rfl rfl
  · -- the woken message joins the end of its queue
    refine avoids_bind (expect_avoids (by decide)) fun _ _ => ?_
    refine avoids_ok.2 (QueuesGrow.queue ?_ _ _)
    exact QueuesGrow.of_eq rfl rfl

theorem sendValue_grows (w : NativeWorld H) (sender beneficiary : ActorId) (value : ℕ) :
    Avoids QueueMismatch w.Grows (sendValue hashOf w sender beneficiary value) := by
  unfold sendValue
  split
  · exact Grows.refl w
  split
  · refine avoids_bind (updateState_grows hashOf fun s b => ?_) fun _ hr => hr
    generalize I128.tryFromU128 value = v
    refine avoids_bind (expect_avoids (by decide)) fun _ _ => ?_
    refine avoids_bind (expect_avoids (by decide)) fun _ _ => ?_
    exact avoids_bind (expect_avoids (by decide)) fun _ _ => QueuesGrow.of_eq rfl rfl
  split
  · exact (by decide : ¬ QueueMismatch .programToUserValue)
  · exact (by decide : ¬ QueueMismatch .userToUserValue)

theorem exitDispatch_grows (w : NativeWorld H) (idExited inheritor : ActorId) :
    Avoids QueueMismatch w.Grows (exitDispatch hashOf w idExited inheritor) := by
  unfold exitDispatch
  refine avoids_bind (updateState_grows hashOf fun s b => ?_) fun r₁ h₁ => ?_
  · exact avoids_bind (expect_avoids (by decide)) fun _ _ => QueuesGrow.of_eq rfl rfl
  obtain ⟨w₁, balance⟩ := r₁
  dsimp only
  split
  · -- the balance goes to the inheritor
    refine avoids_bind (updateState_grows hashOf fun s b => ?_) fun r₂ h₂ => ?_
    · exact avoids_bind (expect_avoids (by decide)) fun _ _ => QueuesGrow.of_eq rfl rfl
    · exact h₁.trans h₂
  · exact h₁

theorem stopProcessing_programs (h : NativeJournalHandler) (w : NativeWorld H) :
    (stopProcessing h w).programs = w.programs := by
  unfold stopProcessing
  split <;> rfl

/-- Every note but the ends of a message's journal only adds to the queues. -/
theorem handleNote_grows (h : NativeJournalHandler) (w : NativeWorld H)
    {note : JournalNote MessageId ActorId CodeId} (hn : note.isFinal = false) :
    Avoids QueueMismatch w.Grows (handleNote hashOf gen h w note) := by
  cases note with
  | messageConsumed | waitDispatch => cases hn
  | sendDispatch _ dispatch delay reservation =>
    exact sendDispatch_grows hashOf gen h w dispatch delay reservation
  | wakeMessage _ programId awakeningId delay => exact wakeMessage_grows hashOf w _ _ _
  | sendValue sender beneficiary value _ => exact sendValue_grows hashOf w _ _ _
  | stopProcessing => exact Grows.of_programs (stopProcessing_programs h w)
  | _ => simp [handleNote, QueueMismatch]

/-- `message_consumed` of the message at the head of the queue takes it off. -/
theorem messageConsumed_dequeues (h : NativeJournalHandler) (w : NativeWorld H) {d : Dispatch}
    {rest : List Dispatch} (hq : w.queueOf h.programId h.messageType = d :: rest) :
    Avoids QueueMismatch (fun w' => w'.queueOf h.programId h.messageType = rest)
      (messageConsumed hashOf h w d.id) := by
  unfold messageConsumed
  refine avoids_bind (updateState_avoids hashOf
    (P := fun w' _ => w'.queueOf h.programId h.messageType = rest) (by decide) (by decide)
      fun s hs => ?_) fun _ hr => hr
  rw [NativeWorld.queueOf_of_lookup hs] at hq
  rw [hq]
  dsimp only
  rw [if_pos rfl]
  refine avoids_ok.2 fun w' hw' => ?_
  rw [NativeWorld.queueOf_of_programs hw', if_pos rfl, StoredProgramState.queueOf_setQueue]

/-- `wait_dispatch` of the message at the head of the queue takes it off, to
the waitlist. -/
theorem waitDispatch_dequeues (h : NativeJournalHandler) (w : NativeWorld H) {d : Dispatch}
    {rest : List Dispatch} (hq : w.queueOf h.programId h.messageType = d :: rest)
    {dispatch : StoredDispatch MessageId ActorId} (hid : dispatch.message.id = d.id)
    (duration : Option ℕ) (waitedType : MessageWaitedType) :
    Avoids QueueMismatch (fun w' => w'.queueOf h.programId h.messageType = rest)
      (waitDispatch hashOf h w dispatch duration waitedType) := by
  unfold waitDispatch
  refine avoids_bind (expect_avoids (by decide)) fun duration _ => ?_
  refine avoids_bind (Q := fun _ => True) ?_ fun inBlocks _ => ?_
  · split
    · exact (by decide : ¬ QueueMismatch .waitForbidden)
    all_goals trivial
  dsimp only
  split
  · exact (by decide : ¬ QueueMismatch .zeroWaitDuration)
  refine avoids_bind (updateState_avoids hashOf
    (P := fun w' _ => w'.queueOf h.programId h.messageType = rest) (by decide) (by decide)
      fun s hs => ?_) fun _ hr => hr
  rw [NativeWorld.queueOf_of_lookup hs] at hq
  rw [hq]
  dsimp only
  rw [if_pos (show d.id = (Dispatch.fromCoreStored dispatch h.messageType h.callReply).id from
    hid.symm)]
  refine avoids_ok.2 fun w' hw' => ?_
  rw [NativeWorld.queueOf_of_programs hw', if_pos rfl]
  -- the waitlist is not a queue
  exact (StoredProgramState.queueOf_eq_of (s := s.setQueue h.messageType rest) rfl rfl _).trans
    (StoredProgramState.queueOf_setQueue _ _ _)

/-- One note gathered or handled: a note that is not the end of a message's
journal only adds to the queues. -/
theorem gatherNote_grows (h : NativeJournalHandler) (g : Gathered H)
    {note : JournalNote MessageId ActorId CodeId} (hn : note.isFinal = false) :
    Avoids QueueMismatch (fun g' => g.1.Grows g'.1) (gatherNote hashOf gen h g note) := by
  obtain ⟨w, pages, allocations, exits⟩ := g
  cases note with
  | exitDispatch | updatePage | updateAllocations => exact Grows.refl w
  | _ => exact avoids_bind (handleNote_grows hashOf gen h w hn) fun _ hw => hw

/-- The notes before the end of a journal only add to the queues. -/
theorem foldlM_gatherNote_grows (h : NativeJournalHandler)
    {pre : List (JournalNote MessageId ActorId CodeId)} (hpre : ∀ n ∈ pre, n.IsMiddle)
    (g : Gathered H) :
    Avoids QueueMismatch (fun g' => g.1.Grows g'.1) (pre.foldlM (gatherNote hashOf gen h) g) :=
  Except.avoids_foldlM pre (Grows.refl g.1) fun g' n hn hg' =>
    (gatherNote_grows hashOf gen h g' (hpre n hn).1).mono fun _ h' => hg'.trans h'

/-- The fold of `handle_journal` over notes in the middle of a journal and a
last note that takes the message at the head of the queue off. -/
theorem foldlM_gatherNote_dequeues (h : NativeJournalHandler) (g : Gathered H) {d : Dispatch}
    {rest : List Dispatch} (hq : g.1.queueOf h.programId h.messageType = d :: rest)
    {pre : List (JournalNote MessageId ActorId CodeId)} (hpre : ∀ n ∈ pre, n.IsMiddle)
    {last : JournalNote MessageId ActorId CodeId}
    (hlast : ∀ (g₁ : Gathered H) rest₁, g₁.1.queueOf h.programId h.messageType = d :: rest₁ →
      Avoids QueueMismatch (fun g₂ => g₂.1.queueOf h.programId h.messageType = rest₁)
        (gatherNote hashOf gen h g₁ last)) :
    Avoids QueueMismatch (fun g' => ∃ Y, g'.1.queueOf h.programId h.messageType = rest ++ Y)
      ((pre ++ [last]).foldlM (gatherNote hashOf gen h) g) := by
  rw [List.foldlM_append]
  refine avoids_bind (foldlM_gatherNote_grows hashOf gen h hpre g) fun g₁ h₁ => ?_
  -- the message is still at the head, with the dispatches the notes sent after the rest
  obtain ⟨Z, hZ⟩ := h₁ h.programId h.messageType
  have hq₁ : g₁.1.queueOf h.programId h.messageType = d :: (rest ++ Z) := by
    rw [← hZ, hq, List.cons_append]
  rw [List.foldlM_cons]
  exact avoids_bind (hlast g₁ _ hq₁) fun g₂ hg₂ => ⟨Z, hg₂⟩

/-- What `handle_journal` does to the queue of a journal the runtime passed
on for the message at its head: it takes that message off, and the other notes
and the exits only add to the queue's end. -/
theorem handleJournal_dequeues (h : NativeJournalHandler) (w : NativeWorld H) {d : Dispatch}
    {rest : List Dispatch} (hq : w.queueOf h.programId h.messageType = d :: rest)
    {notes : List (JournalNote MessageId ActorId CodeId)}
    (hpassed : RuntimeJournalHandler.PassedOn d.id notes) :
    Avoids QueueMismatch (fun w' => ∃ Y, w'.queueOf h.programId h.messageType = rest ++ Y)
      (handleJournal hashOf gen h w notes) := by
  unfold handleJournal
  refine avoids_bind (Q := fun g : Gathered H =>
    ∃ Y, g.1.queueOf h.programId h.messageType = rest ++ Y) ?_ fun g hg => ?_
  · cases hpassed with
    | consumed pre hpre =>
      refine foldlM_gatherNote_dequeues hashOf gen h _ hq hpre fun g₁ rest₁ hq₁ => ?_
      obtain ⟨w₁, pages, allocations, exits⟩ := g₁
      exact avoids_bind (messageConsumed_dequeues hashOf h w₁ hq₁) fun _ hw => hw
    | waited pre hpre dispatch duration waitedType hid =>
      refine foldlM_gatherNote_dequeues hashOf gen h _ hq hpre fun g₁ rest₁ hq₁ => ?_
      obtain ⟨w₁, pages, allocations, exits⟩ := g₁
      exact avoids_bind (waitDispatch_dequeues hashOf h w₁ hq₁ hid duration waitedType)
        fun _ hw => hw
  · obtain ⟨w₁, pages, allocations, exits⟩ := g
    obtain ⟨Y, hY⟩ := hg
    dsimp only at hY ⊢
    split
    · exact (by decide : ¬ QueueMismatch .handledInsideRuntime)
    -- the exits only add to the queues
    refine (Except.avoids_foldlM_rel Grows.refl Grows.trans
      (fun w e => exitDispatch_grows hashOf w e.1 e.2) exits w₁).mono fun w₂ h₂ => ?_
    obtain ⟨Z, hZ⟩ := h₂ h.programId h.messageType
    exact ⟨Y ++ Z, by rw [← hZ, hY, List.append_assoc]⟩

/-- The lone `StopProcessing` of a message leaves the queues: the processor
only marks the block out of gas. -/
theorem handleJournal_stop (h : NativeJournalHandler) (w : NativeWorld H)
    (sd : StoredDispatch MessageId ActorId) (burned : ℕ) :
    handleJournal hashOf gen h w [.stopProcessing sd burned] = .ok (stopProcessing h w) :=
  rfl

end NativeJournalHandler

/-- A journal that leaves its message in the queue: the lone `StopProcessing`
of a dispatch the chunk ran out of gas for. -/
def leavesQueued : List (JournalNote MessageId ActorId CodeId) → Bool
  | [.stopProcessing ..] => true
  | _ => false

/-- How many messages the journals of a run take off the queue. -/
def dequeuedCount
    (entries : List (List (JournalNote MessageId ActorId CodeId) × MessageType × Bool)) : ℕ :=
  entries.countP fun e => !leavesQueued e.1

/-- A journal the runtime passed on for a message it was done with takes it
off the queue. -/
theorem RuntimeJournalHandler.PassedOn.leavesQueued_eq_false {id : MessageId}
    {notes : List (JournalNote MessageId ActorId CodeId)}
    (hpassed : RuntimeJournalHandler.PassedOn id notes) : leavesQueued notes = false := by
  obtain ⟨pre, last, rfl, hlast⟩ : ∃ pre last, notes = pre ++ [last] ∧
      ∀ d burned, last ≠ .stopProcessing d burned := by
    cases hpassed with
    | consumed pre _ => exact ⟨pre, _, rfl, fun _ _ => by simp⟩
    | waited pre _ d duration waitedType _ =>
      exact ⟨pre, _, rfl, fun _ _ => by simp⟩
  unfold leavesQueued
  split
  · rename_i d burned heq
    rcases List.append_eq_singleton_iff.1 heq with ⟨-, hl⟩ | ⟨-, hl⟩
    · exact absurd (List.singleton_inj.1 hl) (hlast d burned)
    · cases hl
  · rfl

section Run

variable {H : Type} (hashOf : StoredProgramState H → ℕ) (gen : IdGen MessageId)

/-- The runtime and the native handler agree on the queue. Applying, in order,
the mega journal of a run of queue `queue` of program `programId` (`RunsOn`),
to a block where that program's queue of the run's type starts with `queue`,
never panics on the queue's head, and takes off exactly the dispatches the run
consumed or waited: all but a last one the run stopped at. The other notes
only add to the queue's end. -/
theorem applyEntries_dequeues (programId : ActorId) (gasAllowanceLeft chunkGasLimit : ℕ)
    {t : MessageType} {queue : List Dispatch}
    {entries : List (List (JournalNote MessageId ActorId CodeId) × MessageType × Bool)}
    (hrun : RunsOn queue entries) (htype : ∀ d ∈ queue, d.messageType = t)
    (w : NativeWorld H) (rest : List Dispatch) (hq : w.queueOf programId t = queue ++ rest) :
    Avoids QueueMismatch
      (fun w' => ∃ Y, w'.queueOf programId t = queue.drop (dequeuedCount entries) ++ rest ++ Y)
      (applyEntries hashOf gen programId gasAllowanceLeft chunkGasLimit w entries) := by
  induction hrun generalizing w rest with
  | nil queue => exact ⟨[], by rw [hq]; simp [dequeuedCount]⟩
  | stop d queue sd burned hid =>
    -- the dispatch the run stopped at stays at the head
    show Avoids _ _ (NativeJournalHandler.handleJournal hashOf gen _ w _ >>= fun w => pure w)
    rw [NativeJournalHandler.handleJournal_stop]
    refine ⟨[], ?_⟩
    show (NativeJournalHandler.stopProcessing _ w).queueOf programId t = _
    unfold NativeWorld.queueOf
    rw [NativeJournalHandler.stopProcessing_programs]
    exact hq.trans (List.append_nil _).symm
  | next d queue notes entries hnotes hrest ih =>
    have hd : d.messageType = t := htype d List.mem_cons_self
    subst hd
    -- the handler of the entry takes `d` off, then the rest of the run goes on
    have hq₀ : w.queueOf programId d.messageType = d :: (queue ++ rest) := hq
    refine avoids_bind (NativeJournalHandler.handleJournal_dequeues hashOf gen
      ⟨programId, d.messageType, d.call, gasAllowanceLeft, chunkGasLimit⟩ w hq₀ hnotes)
      fun w₁ h₁ => ?_
    obtain ⟨Y₁, hY₁⟩ := h₁
    refine (ih (fun d' hd' => htype d' (List.mem_cons_of_mem _ hd')) w₁ (rest ++ Y₁)
      (by rw [hY₁, List.append_assoc])).mono fun w₂ h₂ => ?_
    obtain ⟨Y₂, hY₂⟩ := h₂
    refine ⟨Y₁ ++ Y₂, ?_⟩
    have hcount : dequeuedCount ((notes, d.messageType, d.call) :: entries) =
        dequeuedCount entries + 1 := by
      simp [dequeuedCount, hnotes.leavesQueued_eq_false]
    rw [hY₂, hcount, List.drop_succ_cons, List.append_assoc, List.append_assoc,
      List.append_assoc]

/-- The run that consumed the one dispatch of a program's queue. -/
theorem applyEntries_dequeues_consumed :
    let d : Dispatch := ⟨1, .handle, 2, [], 0, none, none, .canonical, false⟩
    let state : StoredProgramState ℕ := ⟨.exited 0, [d], [], ∅, ∅, ∅, 0, 0⟩
    let w : NativeWorld ℕ :=
      ⟨⟨InBlockTransitions.new ((∅ : AList _).insert 5 .zero), ∅, ⟨0, 10, false⟩⟩,
        (∅ : AList _).insert 5 state, false, ⟨16, 4096, 1⟩⟩
    let entries : List (List (JournalNote MessageId ActorId CodeId) × MessageType × Bool) :=
      [([.messageConsumed d.id], .canonical, false)]
    Avoids QueueMismatch
      (fun w' => ∃ Y, w'.queueOf 5 .canonical = [d].drop (dequeuedCount entries) ++ [] ++ Y)
      (applyEntries (fun _ => 0) ⟨fun m n => m + n, fun m => m + 1⟩ 5 0 0 w entries) := by
  intro d state w entries
  have hrun : RunsOn [d] entries := .next d [] _ [] (.consumed [] (by simp)) (.nil [])
  exact applyEntries_dequeues (fun _ => 0) _ 5 0 0 hrun (by simp [d]) w [] rfl

end Run

end Grows

end Gear.Ethexe.Runtime
