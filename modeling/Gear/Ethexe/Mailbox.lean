import Gear.Ethexe.Transitions
import Gear.Lib.ExceptBind

/-!
# Settling a mailboxed message — `schedule.rs`, `handling/events.rs`

A message a program sends to a user with a value `v` waits in the user's
mailbox, with a `RemoveFromMailbox` task scheduled at its expiry. It is settled
in one of three ways, each inside `update_state` of the program:

* the user claims it (`ValueClaimingRequested`): `claim_value` adds `v` to the
  program's value to receive and pushes the claim, the expiry task is removed,
  and an auto reply is queued on the canonical queue;
* the user replies to it (`ReplyQueueingRequested`): the same, with the user's
  reply queued instead;
* it expires (`remove_from_mailbox`): the claim is pushed with
  `modify_transition`, and an auto reply is queued on the queue of the
  message's type.

The program state is stored by hash: `update_state` reads the state the
program's current hash names, runs the handler, writes the new state under its
hash (`hashOf`, content addressing) and records that hash with `modify_state`.
Of the program state, the queues and the mailbox are modelled; the other
fields are not read or written by these handlers. A user's mailbox is a map
from message id, and the mailbox a map from user, so the whole is one map from
the pair. The schedule of `InBlockTransitions` is kept beside it.

A handler fails with a panic (an `expect`) or with an `anyhow` error that its
`?` passes on; either way the block's processing stops, so a failed handler
returns no state.
-/

namespace Gear.Ethexe

/-- `MessageType`. -/
inductive MessageType
  | canonical
  | injected
deriving DecidableEq, Repr

/-- `SuccessReplyReason`. -/
inductive ReplyReason
  | auto
  | manual
deriving DecidableEq, Repr

/-- `MAX_PAYLOAD_SIZE`. -/
def maxPayloadSize : ℕ := 8 * 1024 * 1024

/-- A reply dispatch, with the fields `Dispatch::reply` fills from its
arguments. -/
structure Dispatch where
  reply ::
  repliedTo : MessageId
  source : ActorId
  payload : List UInt8
  value : ℕ
  reason : ReplyReason
  messageType : MessageType
  call : Bool
deriving DecidableEq, Repr

/-- `MailboxMessage`, without the payload, which no settlement reads. -/
structure MailboxMessage where
  value : ℕ
  messageType : MessageType
deriving DecidableEq, Repr

/-- `Expiring`. -/
structure Expiring (α : Type) where
  value : α
  expiry : ℕ
deriving DecidableEq, Repr

/-- `ScheduledTask`, the variant of the mailbox. -/
inductive ScheduledTask
  | removeFromMailbox (programId userId : ActorId) (messageId : MessageId)
deriving DecidableEq, Repr

/-- `Schedule`: the tasks of each block height. -/
abbrev Schedule := AList fun _ : ℕ => Finset ScheduledTask

/-- How a handler fails: a panic, or an `anyhow` error with its text. -/
inductive Failure
  | panic
  | anyhow (msg : String)
deriving DecidableEq, Repr

/-- An `expect` on an `Option`. -/
def orPanic {α : Type} : Option α → Except Failure α
  | some a => .ok a
  | none => .error .panic

/-- `InBlockTransitions::remove_task`. -/
def Schedule.removeTask (s : Schedule) (expiry : ℕ) (task : ScheduledTask) :
    Except Failure Schedule :=
  match s.lookup expiry with
  | none => .error (.anyhow "No tasks found scheduled for a given block")
  | some tasks =>
    if task ∈ tasks then
      .ok (if tasks.erase task = ∅ then s.erase expiry else s.insert expiry (tasks.erase task))
    else .error (.anyhow "Requested task wasn't found scheduled for a given block")

/-- `Dispatch::new_reply`: the payload is stored, which fails past the size
limit, and the reply is a manual one. -/
def Dispatch.newReply (repliedTo : MessageId) (source : ActorId) (payload : List UInt8)
    (value : ℕ) (messageType : MessageType) (call : Bool) : Except Failure Dispatch :=
  if payload.length ≤ maxPayloadSize then
    .ok (.reply repliedTo source payload value .manual messageType call)
  else .error (.anyhow "payload exceeds size limit")

/-- `ProgramState`: its two queues and its mailbox. -/
structure ProgramState where
  canonicalQueue : List Dispatch
  injectedQueue : List Dispatch
  mailbox : AList fun _ : ActorId × MessageId => Expiring MailboxMessage

namespace ProgramState

/-- `queue_from_msg_type(t).modify_queue(|q| q.queue(d))`. -/
def queue (state : ProgramState) (t : MessageType) (d : Dispatch) : ProgramState :=
  match t with
  | .canonical => { state with canonicalQueue := state.canonicalQueue ++ [d] }
  | .injected => { state with injectedQueue := state.injectedQueue ++ [d] }

/-- The state `remove_and_store_user_mailbox` leaves. -/
def removeMail (state : ProgramState) (userId : ActorId) (messageId : MessageId) : ProgramState :=
  { state with mailbox := state.mailbox.erase (userId, messageId) }

end ProgramState

/-- `cached_queue_size`: the length, saturating at `u8::MAX`. -/
def cachedQueueSize (q : List Dispatch) : ℕ := min q.length 255

/-- The in-block transitions, their schedule, and the program states stored by
hash. -/
structure World (Msg : Type) where
  transitions : InBlockTransitions Msg
  schedule : Schedule
  storage : AList fun _ : H256 => ProgramState

namespace World

variable {Msg : Type} (hashOf : ProgramState → H256)

/-- `TransitionController::update_state`. -/
def updateState (w : World Msg) (programId : ActorId)
    (f : ProgramState → InBlockTransitions Msg → Schedule →
      Except Failure (ProgramState × InBlockTransitions Msg × Schedule)) :
    Except Failure (World Msg) := do
  let st ← orPanic (w.transitions.states.lookup programId)
  let state ← orPanic (w.storage.lookup st.hash)
  let (state', transitions, schedule) ← f state w.transitions w.schedule
  let transitions' ← orPanic (transitions.modifyState programId (hashOf state')
    (cachedQueueSize state'.canonicalQueue) (cachedQueueSize state'.injectedQueue))
  .ok ⟨transitions', schedule, w.storage.insert (hashOf state') state'⟩

/-- `MirrorRequestEvent::ValueClaimingRequested` to program `actorId`. -/
def valueClaimingRequested (w : World Msg) (actorId : ActorId) (claimedId : MessageId)
    (source : ActorId) : Except Failure (World Msg) :=
  w.updateState hashOf actorId fun state transitions schedule =>
    match state.mailbox.lookup (source, claimedId) with
    | none => .ok (state, transitions, schedule)
    | some ⟨msg, expiry⟩ => do
      let transitions' ← orPanic (transitions.claimValue actorId ⟨claimedId, source, msg.value⟩)
      let schedule' ← schedule.removeTask expiry (.removeFromMailbox actorId source claimedId)
      let reply := Dispatch.reply claimedId source [] 0 .auto .canonical false
      .ok ((state.removeMail source claimedId).queue .canonical reply, transitions', schedule')

/-- `MirrorRequestEvent::ReplyQueueingRequested` to program `actorId`. -/
def replyQueueingRequested (w : World Msg) (actorId : ActorId) (repliedTo : MessageId)
    (source : ActorId) (payload : List UInt8) (value : ℕ) : Except Failure (World Msg) :=
  w.updateState hashOf actorId fun state transitions schedule =>
    match state.mailbox.lookup (source, repliedTo) with
    | none => .ok (state, transitions, schedule)
    | some ⟨msg, expiry⟩ => do
      let transitions' ← orPanic (transitions.claimValue actorId ⟨repliedTo, source, msg.value⟩)
      let schedule' ← schedule.removeTask expiry (.removeFromMailbox actorId source repliedTo)
      let reply ← Dispatch.newReply repliedTo source payload value .canonical false
      .ok ((state.removeMail source repliedTo).queue .canonical reply, transitions', schedule')

/-- `Handler::remove_from_mailbox`: the expiry task of message `messageId`. -/
def removeFromMailbox (w : World Msg) (programId userId : ActorId) (messageId : MessageId) :
    Except Failure (World Msg) :=
  w.updateState hashOf programId fun state transitions schedule =>
    match state.mailbox.lookup (userId, messageId) with
    | none => .error .panic
    | some ⟨msg, _⟩ => do
      let transitions' ← orPanic (transitions.modifyTransition programId fun tr =>
        { tr with claims := tr.claims ++ [⟨messageId, userId, msg.value⟩] })
      let reply := Dispatch.reply messageId userId [] 0 .auto msg.messageType false
      .ok ((state.removeMail userId messageId).queue msg.messageType reply, transitions', schedule)

end World

end Gear.Ethexe
