import Mathlib

/-!
# The message context of an execution

`MessageContext` (`core/src/message/context.rs`) collects what one execution
of a program sends: program initialisations, handle messages built in
numbered slots (`send_init`, `send_push`, `send_commit`), at most one reply,
wakes and reply deposits. It hands out message ids from a local nonce, kept
in the `ContextStore` that survives the execution, and counts the bytes of
outgoing handle messages against a limit.

Message, actor and reservation ids are type parameters. The hashes that
derive message ids, `MessageId::generate_outgoing` and `generate_reply`, are
a parameter `IdGen`: what the proofs assume of them is stated where it is
used. Payloads are byte lists; `LimitedVec` is modelled by the length check
of `try_extend_from_slice`. Of the packets and messages only the fields these
functions read or pass on are kept (destination and payload; gas limit,
value, salt and code are carried through unchanged in the source and are
left out), and of the settings and the store only the limits, the nonce and
the set of initialised programs: the fees, the reservation nonce and the
system reservation are not touched here.

Each method takes the context by `&mut self` and returns a `Result`; here it
returns the result together with the context after it, including what an
error path leaves behind.
-/

namespace Gear.Message

/-- `DispatchKind`. -/
inductive DispatchKind
  | init
  | handle
  | reply
  | signal
deriving DecidableEq, Repr

/-- `MessageError`: the variants these functions return. -/
inductive MessageError
  | maxMessageSizeExceed
  | outgoingMessagesAmountLimitExceeded
  | duplicateReply
  | duplicateWaking
  | lateAccess
  | outOfBounds
  | duplicateInit
  | duplicateReplyDeposit
  | incorrectMessageForReplyDeposit
  | outgoingMessagesBytesLimitExceeded
  | outOfBoundsInputSliceOffset
  | outOfBoundsInputSliceLength
deriving DecidableEq, Repr

/-- `ExecutionError`: the variant `reply_*` returns. -/
inductive ExecutionError
  | incorrectEntryForReply
deriving DecidableEq, Repr

/-- `ExtError`, as far as the `reply_*` functions produce it. -/
inductive ExtError
  | message (e : MessageError)
  | execution (e : ExecutionError)
deriving DecidableEq, Repr

/-- `MAX_PAYLOAD_SIZE`. -/
def maxPayloadSize : ℕ := 8 * 1024 * 1024

/-- `LimitedVec::try_extend_from_slice` on a payload. -/
def tryExtendFromSlice (data buffer : List UInt8) : Option (List UInt8) :=
  if data.length + buffer.length ≤ maxPayloadSize then some (data ++ buffer) else none

/-- `MessageId::generate_outgoing` and `MessageId::generate_reply`. -/
structure IdGen (M : Type) where
  outgoing : M → ℕ → M
  reply : M → M

/-- `ContextSettings`: the two limits, which are `u32`. -/
structure ContextSettings where
  outgoingLimit : ℕ
  outgoingBytesLimit : ℕ
  outgoingLimit_lt : outgoingLimit < 2 ^ 32
  outgoingBytesLimit_lt : outgoingBytesLimit < 2 ^ 32

/-- `InitPacket`: the new program's id and the payload. -/
structure InitPacket (P : Type) where
  destination : P
  payload : List UInt8

/-- `HandlePacket`. -/
structure HandlePacket (P : Type) where
  destination : P
  payload : List UInt8

/-- `ReplyPacket`. -/
structure ReplyPacket where
  payload : List UInt8

/-- `InitMessage` and `HandleMessage`: an id, a destination and a payload. -/
structure OutMessage (M P : Type) where
  id : M
  destination : P
  payload : List UInt8

/-- `ReplyMessage`. -/
structure ReplyMessage (M : Type) where
  id : M
  payload : List UInt8

/-- `IncomingMessage`. -/
structure IncomingMessage (M P : Type) where
  id : M
  source : P
  payload : List UInt8

/-- `Dispatch`: a message with its kind, ends and, for a reply, the message
it replies to. -/
structure Dispatch (M P : Type) where
  kind : DispatchKind
  id : M
  source : P
  destination : P
  payload : List UInt8
  replyTo : Option M

/-- `ContextOutcome`: messages with their delay and reservation. -/
structure ContextOutcome (M P R : Type) where
  init : List (OutMessage M P × ℕ × Option R)
  handle : List (OutMessage M P × ℕ × Option R)
  reply : Option (ReplyMessage M × Option R)
  awakening : List (M × ℕ)
  replyDeposits : List (M × ℕ)
  programId : P
  source : P
  originMsgId : M

/-- `ContextOutcomeDrain`. -/
structure ContextOutcomeDrain (M P R : Type) where
  outgoingDispatches : List (Dispatch M P × ℕ × Option R)
  awakening : List (M × ℕ)
  replyDeposits : List (M × ℕ)
  replySent : Bool

/-- `ContextOutcome::drain`: initialisations, then handle messages, then the
reply. -/
def ContextOutcome.drain {M P R : Type} (o : ContextOutcome M P R) : ContextOutcomeDrain M P R where
  outgoingDispatches :=
    o.init.map (fun m => (⟨.init, m.1.id, o.programId, m.1.destination, m.1.payload, none⟩, m.2)) ++
    o.handle.map (fun m => (⟨.handle, m.1.id, o.programId, m.1.destination, m.1.payload, none⟩, m.2)) ++
    match o.reply with
    | some (msg, reservation) =>
      [(⟨.reply, msg.id, o.programId, o.source, msg.payload, some o.originMsgId⟩, 0, reservation)]
    | none => []
  awakening := o.awakening
  replyDeposits := o.replyDeposits
  replySent := o.reply.isSome

/-- `ContextStore`: the programs initialised so far and the local nonce. -/
structure ContextStore (P : Type) where
  initialized : Finset P
  localNonce : ℕ

/-- `OutgoingPayloads`: the payloads of the handle slots (`None` once taken),
the reply's payload, and the bytes counted against the limit. -/
structure OutgoingPayloads where
  handles : AList (fun _ : ℕ => Option (List UInt8))
  reply : Option (List UInt8)
  bytesCounter : ℕ

/-- `MessageContext`. -/
structure MessageContext (M P R : Type) where
  kind : DispatchKind
  current : IncomingMessage M P
  outcome : ContextOutcome M P R
  store : ContextStore P
  outgoingPayloads : OutgoingPayloads
  settings : ContextSettings

/-- `IncomingDispatch`: a kind, a message and the store of an earlier
execution of it, if any. -/
structure IncomingDispatch (M P : Type) where
  kind : DispatchKind
  message : IncomingMessage M P
  context : Option (ContextStore P)

variable {M P R : Type}

/-- `MessageContext::new`: a fresh outcome and fresh payloads; the store is
the dispatch's, or empty. -/
def MessageContext.new (dispatch : IncomingDispatch M P) (programId : P)
    (settings : ContextSettings) : MessageContext M P R where
  kind := dispatch.kind
  current := dispatch.message
  outcome := ⟨[], [], none, [], [], programId, dispatch.message.source, dispatch.message.id⟩
  store := dispatch.context.getD ⟨∅, 0⟩
  outgoingPayloads := ⟨∅, none, 0⟩
  settings := settings

/-- `MessageContext::increase_counter`: the sum, if it is a `u32` within the
limit. -/
def increaseCounter (counter amount limit : ℕ) : Option ℕ :=
  if amount < 2 ^ 32 ∧ counter + amount < 2 ^ 32 ∧ counter + amount ≤ limit then
    some (counter + amount)
  else none

/-- `CheckedRange`: a slice of the incoming payload. -/
structure CheckedRange where
  offset : ℕ
  excludedEnd : ℕ

/-- `CheckedRange::len`. -/
def CheckedRange.len (range : CheckedRange) : ℕ := range.excludedEnd - range.offset

/-- The bytes of the incoming payload a range selects. -/
def CheckedRange.slice (range : CheckedRange) (payload : List UInt8) : List UInt8 :=
  (payload.drop range.offset).take range.len

section Calls

variable [DecidableEq M] [DecidableEq P] (gen : IdGen M) (ctx : MessageContext M P R)

/-- `MessageContext::check_input_range`. -/
def checkInputRange (offset len : ℕ) : Except MessageError CheckedRange :=
  if offset ≥ ctx.current.payload.length then .error .outOfBoundsInputSliceOffset
  else if len > ctx.current.payload.length - offset then .error .outOfBoundsInputSliceLength
  else .ok ⟨offset, offset + len⟩

/-- `MessageContext::check_reply_availability`. -/
def checkReplyAvailability : Except ExtError Unit :=
  if ctx.kind = .init ∨ ctx.kind = .handle then .ok ()
  else .error (.execution .incorrectEntryForReply)

/-- `MessageContext::reply_sent`. -/
def replySent : Bool := ctx.outcome.reply.isSome

/-- `MessageContext::init_program`: a new program's initialisation, under
the next nonce, whose slot is marked taken. -/
def initProgram (packet : InitPacket P) (delay : ℕ) :
    Except MessageError (M × P) × MessageContext M P R :=
  if packet.destination ∈ ctx.store.initialized then (.error .duplicateInit, ctx)
  else
    let last := ctx.store.localNonce
    if last ≥ ctx.settings.outgoingLimit then (.error .outgoingMessagesAmountLimitExceeded, ctx)
    else
      let messageId := gen.outgoing ctx.current.id last
      (.ok (messageId, packet.destination),
        { ctx with
          store := ⟨insert packet.destination ctx.store.initialized, last + 1⟩
          outgoingPayloads :=
            { ctx.outgoingPayloads with handles := ctx.outgoingPayloads.handles.insert last none }
          outcome :=
            { ctx.outcome with
              init := ctx.outcome.init ++ [(⟨messageId, packet.destination, packet.payload⟩, delay, none)] } })

/-- `MessageContext::send_commit`: the slot's payload is taken and prepended
to the packet's; on an error it is put back. -/
def sendCommit (handle : ℕ) (packet : HandlePacket P) (delay : ℕ) (reservation : Option R) :
    Except MessageError M × MessageContext M P R :=
  match ctx.outgoingPayloads.handles.lookup handle with
  | none => (.error .outOfBounds, ctx)
  | some none => (.error .lateAccess, ctx)
  | some (some data) =>
    match increaseCounter ctx.outgoingPayloads.bytesCounter packet.payload.length
        ctx.settings.outgoingBytesLimit with
    | none => (.error .outgoingMessagesBytesLimitExceeded, ctx)
    | some newOutgoingBytes =>
      match tryExtendFromSlice data packet.payload with
      | none => (.error .maxMessageSizeExceed, ctx)
      | some payload =>
        let messageId := gen.outgoing ctx.current.id handle
        (.ok messageId,
          { ctx with
            outcome :=
              { ctx.outcome with
                handle := ctx.outcome.handle ++
                  [(⟨messageId, packet.destination, payload⟩, delay, reservation)] }
            outgoingPayloads :=
              { ctx.outgoingPayloads with
                handles := ctx.outgoingPayloads.handles.insert handle none
                bytesCounter := newOutgoingBytes } })

/-- `MessageContext::send_init`: a new slot under the next nonce. -/
def sendInit : Except MessageError ℕ × MessageContext M P R :=
  let last := ctx.store.localNonce
  if last < ctx.settings.outgoingLimit then
    (.ok last,
      { ctx with
        store := { ctx.store with localNonce := last + 1 }
        outgoingPayloads :=
          { ctx.outgoingPayloads with handles := ctx.outgoingPayloads.handles.insert last (some []) } })
  else (.error .outgoingMessagesAmountLimitExceeded, ctx)

/-- The body shared by `send_push` and `send_push_input`: append `buffer` to
a slot, counting `amount` bytes. -/
def pushToSlot (handle amount : ℕ) (buffer : List UInt8) :
    Except MessageError Unit × MessageContext M P R :=
  match ctx.outgoingPayloads.handles.lookup handle with
  | some (some data) =>
    match increaseCounter ctx.outgoingPayloads.bytesCounter amount
        ctx.settings.outgoingBytesLimit with
    | none => (.error .outgoingMessagesBytesLimitExceeded, ctx)
    | some newOutgoingBytes =>
      match tryExtendFromSlice data buffer with
      | none => (.error .maxMessageSizeExceed, ctx)
      | some data' =>
        (.ok (),
          { ctx with
            outgoingPayloads :=
              { ctx.outgoingPayloads with
                handles := ctx.outgoingPayloads.handles.insert handle (some data')
                bytesCounter := newOutgoingBytes } })
  | some none => (.error .lateAccess, ctx)
  | none => (.error .outOfBounds, ctx)

/-- `MessageContext::send_push`. -/
def sendPush (handle : ℕ) (buffer : List UInt8) : Except MessageError Unit × MessageContext M P R :=
  pushToSlot ctx handle buffer.length buffer

/-- `MessageContext::send_push_input`: the range's bytes of the incoming
payload. -/
def sendPushInput (handle : ℕ) (range : CheckedRange) :
    Except MessageError Unit × MessageContext M P R :=
  pushToSlot ctx handle range.len (range.slice ctx.current.payload)

/-- `MessageContext::reply_commit`: the reply's payload is taken and
prepended to the packet's; on an error it is put back (present, if empty). -/
def replyCommit (packet : ReplyPacket) (reservation : Option R) :
    Except ExtError M × MessageContext M P R :=
  match checkReplyAvailability ctx with
  | .error e => (.error e, ctx)
  | .ok () =>
    if replySent ctx then (.error (.message .duplicateReply), ctx)
    else
      let data := ctx.outgoingPayloads.reply.getD []
      match tryExtendFromSlice data packet.payload with
      | none =>
        (.error (.message .maxMessageSizeExceed),
          { ctx with outgoingPayloads := { ctx.outgoingPayloads with reply := some data } })
      | some payload =>
        let messageId := gen.reply ctx.current.id
        (.ok messageId,
          { ctx with
            outcome := { ctx.outcome with reply := some (⟨messageId, payload⟩, reservation) }
            outgoingPayloads := { ctx.outgoingPayloads with reply := none } })

/-- The body shared by `reply_push` and `reply_push_input`; the reply's
payload is created if absent, also when the push then fails. -/
def pushToReply (buffer : List UInt8) : Except ExtError Unit × MessageContext M P R :=
  match checkReplyAvailability ctx with
  | .error e => (.error e, ctx)
  | .ok () =>
    if replySent ctx then (.error (.message .lateAccess), ctx)
    else
      let data := ctx.outgoingPayloads.reply.getD []
      match tryExtendFromSlice data buffer with
      | none =>
        (.error (.message .maxMessageSizeExceed),
          { ctx with outgoingPayloads := { ctx.outgoingPayloads with reply := some data } })
      | some data' =>
        (.ok (), { ctx with outgoingPayloads := { ctx.outgoingPayloads with reply := some data' } })

/-- `MessageContext::reply_push`. -/
def replyPush (buffer : List UInt8) : Except ExtError Unit × MessageContext M P R :=
  pushToReply ctx buffer

/-- `MessageContext::reply_push_input`. -/
def replyPushInput (range : CheckedRange) : Except ExtError Unit × MessageContext M P R :=
  pushToReply ctx (range.slice ctx.current.payload)

/-- `MessageContext::wake`. -/
def wake (wakerId : M) (delay : ℕ) : Except MessageError Unit × MessageContext M P R :=
  if ctx.outcome.awakening.any (fun v => v.1 = wakerId) then (.error .duplicateWaking, ctx)
  else
    (.ok (), { ctx with
      outcome := { ctx.outcome with awakening := ctx.outcome.awakening ++ [(wakerId, delay)] } })

/-- `MessageContext::reply_deposit`: once per message, and only for a
message sent in this execution. -/
def replyDeposit (messageId : M) (amount : ℕ) : Except MessageError Unit × MessageContext M P R :=
  if ctx.outcome.replyDeposits.any (fun d => d.1 = messageId) then
    (.error .duplicateReplyDeposit, ctx)
  else if !(ctx.outcome.handle.any (fun m => m.1.id = messageId)) &&
      !(ctx.outcome.init.any (fun m => m.1.id = messageId)) then
    (.error .incorrectMessageForReplyDeposit, ctx)
  else
    (.ok (), { ctx with
      outcome := { ctx.outcome with replyDeposits := ctx.outcome.replyDeposits ++ [(messageId, amount)] } })

end Calls

/-! ## Runs -/

/-- A call on the context. An input range is given by offset and length and
goes through `check_input_range`, the only way to build a `CheckedRange`. -/
inductive MsgCall (M P R : Type)
  | initProgram (packet : InitPacket P) (delay : ℕ)
  | sendInit
  | sendPush (handle : ℕ) (buffer : List UInt8)
  | sendPushInput (handle offset len : ℕ)
  | sendCommit (handle : ℕ) (packet : HandlePacket P) (delay : ℕ) (reservation : Option R)
  | replyPush (buffer : List UInt8)
  | replyPushInput (offset len : ℕ)
  | replyCommit (packet : ReplyPacket) (reservation : Option R)
  | wake (wakerId : M) (delay : ℕ)
  | replyDeposit (messageId : M) (amount : ℕ)

section Runs

variable [DecidableEq M] [DecidableEq P] (gen : IdGen M)

/-- A message error as an `ExtError`, the value forgotten. -/
def liftResult {α : Type} (r : Except MessageError α) : Except ExtError Unit :=
  match r with
  | .ok _ => .ok ()
  | .error e => .error (.message e)

/-- One call: its outcome and the context after it. -/
def MsgCall.apply (ctx : MessageContext M P R) :
    MsgCall M P R → Except ExtError Unit × MessageContext M P R
  | .initProgram packet delay =>
    let r := Gear.Message.initProgram gen ctx packet delay
    (liftResult r.1, r.2)
  | .sendInit =>
    let r := Gear.Message.sendInit ctx
    (liftResult r.1, r.2)
  | .sendPush handle buffer =>
    let r := Gear.Message.sendPush ctx handle buffer
    (liftResult r.1, r.2)
  | .sendPushInput handle offset len =>
    match checkInputRange ctx offset len with
    | .error e => (.error (.message e), ctx)
    | .ok range =>
      let r := Gear.Message.sendPushInput ctx handle range
      (liftResult r.1, r.2)
  | .sendCommit handle packet delay reservation =>
    let r := Gear.Message.sendCommit gen ctx handle packet delay reservation
    (liftResult r.1, r.2)
  | .replyPush buffer => Gear.Message.replyPush ctx buffer
  | .replyPushInput offset len =>
    match checkInputRange ctx offset len with
    | .error e => (.error (.message e), ctx)
    | .ok range => Gear.Message.replyPushInput ctx range
  | .replyCommit packet reservation =>
    let r := Gear.Message.replyCommit gen ctx packet reservation
    (r.1.map fun _ => (), r.2)
  | .wake wakerId delay =>
    let r := Gear.Message.wake ctx wakerId delay
    (liftResult r.1, r.2)
  | .replyDeposit messageId amount =>
    let r := Gear.Message.replyDeposit ctx messageId amount
    (liftResult r.1, r.2)

/-- The context after a sequence of calls. -/
def msgRun (ctx : MessageContext M P R) : List (MsgCall M P R) → MessageContext M P R
  | [] => ctx
  | call :: calls => msgRun (call.apply gen ctx).2 calls

end Runs

end Gear.Message
