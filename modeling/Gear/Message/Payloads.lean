import Gear.Message.Bookkeeping

/-!
# Payloads built by parts, and calls that fail

A handle message is built in the slot `send_init` opens: `send_push` and
`send_push_input` append to it, and `send_commit` takes the slot's payload
out, prepends it to the packet's and, on an error, puts it back. The reply is
built the same way in the reply buffer. Two invariants follow a run:

> `SlotHolds h data`: the slot of `h`, opened below the nonce, holds `data` or
> was taken by a commit;
> `ReplyHolds data`: while no reply is sent, the reply buffer holds `data`.

Every call keeps them, `data` growing by what the call appends when it
succeeds (`SlotHolds.apply`, `ReplyHolds.apply`), so a commit after any run,
whatever else it holds, sends the bytes its successful pushes appended,
followed by the packet's payload (`commit_assembles_payload`).

Every call that fails leaves the context as it was, but for the reply calls,
which may leave behind an empty reply buffer where there was none
(`msgCall_atomic`).
-/

namespace Gear.Message

variable {M P R : Type}

/-- What a call appends to the slot `h` when it succeeds, `input` being the
incoming payload: a push into `h`, of its buffer or of its range of the
input. -/
def MsgCall.slotBytes (h : ℕ) (input : List UInt8) : MsgCall M P R → List UInt8
  | .sendPush handle buffer => if handle = h then buffer else []
  | .sendPushInput handle offset len =>
    if handle = h then CheckedRange.slice ⟨offset, offset + len⟩ input else []
  | _ => []

/-- What a call appends to the reply buffer when it succeeds. -/
def MsgCall.replyBytes (input : List UInt8) : MsgCall M P R → List UInt8
  | .replyPush buffer => buffer
  | .replyPushInput offset len => CheckedRange.slice ⟨offset, offset + len⟩ input
  | _ => []

/-- The calls that may leave an empty reply buffer behind when they fail. -/
def MsgCall.writesReply : MsgCall M P R → Bool
  | .replyPush _ | .replyPushInput _ _ | .replyCommit _ _ => true
  | _ => false

/-- The slot of `h` was opened below the nonce and holds `data`, or was
taken. -/
structure SlotHolds (h : ℕ) (data : List UInt8) (ctx : MessageContext M P R) : Prop where
  opened : h < ctx.store.localNonce
  slot : ctx.outgoingPayloads.handles.lookup h = some (some data) ∨
    ctx.outgoingPayloads.handles.lookup h = some none

/-- While no reply is sent, the reply buffer holds `data`. -/
def ReplyHolds (data : List UInt8) (ctx : MessageContext M P R) : Prop :=
  ctx.outcome.reply = none → ctx.outgoingPayloads.reply.getD [] = data

/-! ## The reply calls -/

section Reply

variable (gen : IdGen M) (ctx : MessageContext M P R)

/-- Writing back the reply buffer a context holds changes nothing. -/
theorem withReply_self {data : List UInt8} (h : ctx.outgoingPayloads.reply = some data) :
    { ctx with outgoingPayloads := { ctx.outgoingPayloads with reply := some data } } = ctx := by
  rw [← h]

/-- What a push into the reply can do: fail and change nothing but perhaps
create the empty buffer, or extend the buffer by its bytes. -/
theorem pushToReply_cases (buffer : List UInt8) :
    ((pushToReply ctx buffer).1.toBool = false ∧
        ((pushToReply ctx buffer).2 = ctx ∨
          (ctx.outgoingPayloads.reply = none ∧ (pushToReply ctx buffer).2 =
            { ctx with outgoingPayloads := { ctx.outgoingPayloads with reply := some [] } }))) ∨
      ((pushToReply ctx buffer).1.toBool = true ∧ (pushToReply ctx buffer).2 =
        { ctx with outgoingPayloads :=
          { ctx.outgoingPayloads with reply := some (ctx.outgoingPayloads.reply.getD [] ++ buffer) } }) := by
  unfold pushToReply
  split
  · exact .inl ⟨rfl, .inl rfl⟩
  split
  · exact .inl ⟨rfl, .inl rfl⟩
  dsimp only
  split
  · -- the buffer put back is the one there was, or the new empty one
    refine .inl ⟨rfl, ?_⟩
    cases hr : ctx.outgoingPayloads.reply with
    | none => exact .inr ⟨rfl, rfl⟩
    | some data => exact .inl (withReply_self ctx hr)
  · rename_i data' hext
    rw [tryExtendFromSlice_eq_some hext]
    exact .inr ⟨rfl, rfl⟩

/-- What `reply_commit` can do: fail and change nothing but perhaps create the
empty buffer, or, when no reply was sent, send the buffer followed by the
packet's payload under the reply hash and take the buffer. -/
theorem replyCommit_cases (packet : ReplyPacket) (reservation : Option R) :
    ((replyCommit gen ctx packet reservation).1.toBool = false ∧
        ((replyCommit gen ctx packet reservation).2 = ctx ∨
          (ctx.outgoingPayloads.reply = none ∧ (replyCommit gen ctx packet reservation).2 =
            { ctx with outgoingPayloads := { ctx.outgoingPayloads with reply := some [] } }))) ∨
      ((replyCommit gen ctx packet reservation).1 = .ok (gen.reply ctx.current.id) ∧
        ctx.outcome.reply = none ∧ (replyCommit gen ctx packet reservation).2 =
          { ctx with
            outcome := { ctx.outcome with
              reply := some (⟨gen.reply ctx.current.id,
                ctx.outgoingPayloads.reply.getD [] ++ packet.payload⟩, reservation) }
            outgoingPayloads := { ctx.outgoingPayloads with reply := none } }) := by
  unfold replyCommit
  split
  · exact .inl ⟨rfl, .inl rfl⟩
  split
  · exact .inl ⟨rfl, .inl rfl⟩
  rename_i hsent
  have hnone : ctx.outcome.reply = none := by
    simpa [replySent, Option.isSome_iff_ne_none] using hsent
  dsimp only
  split
  · refine .inl ⟨rfl, ?_⟩
    cases hr : ctx.outgoingPayloads.reply with
    | none => exact .inr ⟨rfl, rfl⟩
    | some data => exact .inl (withReply_self ctx hr)
  · rename_i payload hext
    rw [tryExtendFromSlice_eq_some hext]
    exact .inr ⟨rfl, hnone, rfl⟩

end Reply

/-! ## One call -/

section Step

variable (gen : IdGen M) {ctx : MessageContext M P R}

/-- `check_input_range` builds the range of its offset and length. -/
theorem checkInputRange_eq_ok {offset len : ℕ} {range : CheckedRange}
    (h : checkInputRange ctx offset len = .ok range) : range = ⟨offset, offset + len⟩ := by
  unfold checkInputRange at h
  split_ifs at h
  cases h
  rfl

/-- `send_commit` returns the outgoing hash of the slot's nonce. -/
theorem sendCommit_eq_ok {handle : ℕ} {packet : HandlePacket P} {delay : ℕ}
    {reservation : Option R} {mid : M}
    (h : (sendCommit gen ctx handle packet delay reservation).1 = .ok mid) :
    mid = gen.outgoing ctx.current.id handle := by
  unfold sendCommit at h
  split at h
  · cases h
  · cases h
  · dsimp only at h
    split at h
    · cases h
    · split at h
      · cases h
      · cases h
        rfl

/-- A slot is kept by a call that leaves it and the nonce alone. -/
theorem SlotHolds.of_lookup {h : ℕ} {data : List UInt8} {ctx' : MessageContext M P R}
    (hS : SlotHolds h data ctx) (hn : ctx.store.localNonce ≤ ctx'.store.localNonce)
    (hl : ctx'.outgoingPayloads.handles.lookup h = ctx.outgoingPayloads.handles.lookup h) :
    SlotHolds h data ctx' :=
  ⟨lt_of_lt_of_le hS.opened hn, hl ▸ hS.slot⟩

/-- A push into a slot: it extends `h` only if it names it. -/
theorem SlotHolds.pushToSlot {h : ℕ} {data : List UInt8} (hS : SlotHolds h data ctx)
    (handle amount : ℕ) (buffer : List UInt8) :
    SlotHolds h (data ++ if (Gear.Message.pushToSlot ctx handle amount buffer).1.toBool then
        (if handle = h then buffer else []) else [])
      (Gear.Message.pushToSlot ctx handle amount buffer).2 := by
  rcases pushToSlot_cases ctx handle amount buffer with ⟨hok, heq⟩ | ⟨hok, data', hd, -, heq⟩
  · rw [hok, heq, if_neg Bool.false_ne_true, List.append_nil]
    exact hS
  rw [hok, heq, if_pos rfl]
  by_cases hh : handle = h
  · -- the named slot is open and grows by the buffer
    subst hh
    rw [if_pos rfl]
    have hdata : data' = data := by
      rcases hS.slot with hs | hs
      · rw [hs] at hd
        cases hd
        rfl
      · rw [hs] at hd
        cases hd
    subst hdata
    exact ⟨hS.opened, .inl (AList.lookup_insert _)⟩
  · rw [if_neg hh, List.append_nil]
    exact hS.of_lookup le_rfl (AList.lookup_insert_ne (Ne.symm hh))

/-- A call that keeps the sent reply and the reply buffer's content keeps
`ReplyHolds`. -/
theorem ReplyHolds.of_eq {data : List UInt8} {ctx' : MessageContext M P R}
    (hR : ReplyHolds data ctx) (hr : ctx'.outcome.reply = ctx.outcome.reply)
    (hb : ctx'.outgoingPayloads.reply.getD [] = ctx.outgoingPayloads.reply.getD []) :
    ReplyHolds data ctx' := fun hn => hb ▸ hR (hr ▸ hn)

/-- A push into the reply extends the buffer by its bytes when it succeeds. -/
theorem ReplyHolds.pushToReply {data : List UInt8} (hR : ReplyHolds data ctx) (buffer : List UInt8) :
    ReplyHolds (data ++ if (Gear.Message.pushToReply ctx buffer).1.toBool then buffer else [])
      (Gear.Message.pushToReply ctx buffer).2 := by
  rcases pushToReply_cases ctx buffer with ⟨hok, heq | ⟨hnone, heq⟩⟩ | ⟨hok, heq⟩
  · rw [hok, heq, if_neg Bool.false_ne_true, List.append_nil]
    exact hR
  · -- only the empty buffer is new
    rw [hok, heq, if_neg Bool.false_ne_true, List.append_nil]
    exact hR.of_eq rfl (by rw [hnone]; rfl)
  · rw [hok, heq, if_pos rfl]
    intro hn
    show ctx.outgoingPayloads.reply.getD [] ++ buffer = data ++ buffer
    rw [hR hn]

/-- `wake` leaves the outgoing payloads alone. -/
theorem wake_outgoingPayloads [DecidableEq M] (wakerId : M) (delay : ℕ) :
    (wake ctx wakerId delay).2.outgoingPayloads = ctx.outgoingPayloads := by
  unfold wake
  split <;> rfl

/-- `reply_deposit` leaves the outgoing payloads alone. -/
theorem replyDeposit_outgoingPayloads [DecidableEq M] (messageId : M) (amount : ℕ) :
    (replyDeposit ctx messageId amount).2.outgoingPayloads = ctx.outgoingPayloads := by
  unfold replyDeposit
  split
  · rfl
  split <;> rfl

variable [DecidableEq M] [DecidableEq P]

/-- Every call keeps `SlotHolds`, the slot growing by what the call appends
when it succeeds. -/
theorem SlotHolds.apply {h : ℕ} {data : List UInt8} (hS : SlotHolds h data ctx)
    (call : MsgCall M P R) :
    SlotHolds h (data ++ if (call.apply gen ctx).1.toBool then
        call.slotBytes h ctx.current.payload else []) (call.apply gen ctx).2 := by
  cases call with
  | initProgram packet delay =>
    -- a new slot under the nonce, above `h`
    show SlotHolds h (data ++ if _ then [] else []) (initProgram gen ctx packet delay).2
    rw [ite_self, List.append_nil]
    rcases initProgram_cases gen ctx packet delay with ⟨-, heq⟩ | ⟨-, -, heq⟩
    · rw [heq]
      exact hS
    · rw [heq]
      exact hS.of_lookup (Nat.le_succ _) (AList.lookup_insert_ne (Nat.ne_of_lt hS.opened))
  | sendInit =>
    show SlotHolds h (data ++ if _ then [] else []) (sendInit ctx).2
    rw [ite_self, List.append_nil]
    rcases sendInit_cases ctx with ⟨-, heq⟩ | ⟨-, -, heq⟩
    · rw [heq]
      exact hS
    · rw [heq]
      exact hS.of_lookup (Nat.le_succ _) (AList.lookup_insert_ne (Nat.ne_of_lt hS.opened))
  | sendPush handle buffer =>
    show SlotHolds h (data ++ if (liftResult (Gear.Message.pushToSlot ctx handle buffer.length
      buffer).1).toBool then _ else []) _
    rw [liftResult_toBool]
    exact hS.pushToSlot handle buffer.length buffer
  | sendPushInput handle offset len =>
    cases hrange : checkInputRange ctx offset len with
    | error e =>
      -- the range is refused before the slot is read
      simp only [MsgCall.apply, hrange]
      show SlotHolds h (data ++ if false = true then _ else []) ctx
      rw [if_neg Bool.false_ne_true, List.append_nil]
      exact hS
    | ok range =>
      obtain rfl := checkInputRange_eq_ok hrange
      simp only [MsgCall.apply, hrange]
      rw [liftResult_toBool]
      exact hS.pushToSlot handle _ _
  | sendCommit handle packet delay reservation =>
    show SlotHolds h (data ++ if _ then [] else []) (sendCommit gen ctx handle packet delay reservation).2
    rw [ite_self, List.append_nil]
    rcases sendCommit_cases gen ctx handle packet delay reservation with
      ⟨-, heq⟩ | ⟨-, data', hd, -, heq⟩
    · rw [heq]
      exact hS
    rw [heq]
    by_cases hh : handle = h
    · -- the named slot is taken
      subst hh
      exact ⟨hS.opened, .inr (AList.lookup_insert _)⟩
    · exact hS.of_lookup le_rfl (AList.lookup_insert_ne (Ne.symm hh))
  | replyPush buffer =>
    show SlotHolds h (data ++ if _ then [] else []) (pushToReply ctx buffer).2
    rw [ite_self, List.append_nil]
    have hs := (pushToReply_sameSlots ctx buffer).1
    exact hS.of_lookup hs.nonce.ge (by rw [hs.handles])
  | replyPushInput offset len =>
    show SlotHolds h (data ++ if _ then [] else []) _
    rw [ite_self, List.append_nil]
    cases hrange : checkInputRange ctx offset len with
    | error e =>
      simp only [MsgCall.apply, hrange]
      exact hS
    | ok range =>
      simp only [MsgCall.apply, hrange]
      have hs := (pushToReply_sameSlots ctx (range.slice ctx.current.payload)).1
      exact hS.of_lookup hs.nonce.ge (congrArg (AList.lookup h) hs.handles)
  | replyCommit packet reservation =>
    show SlotHolds h (data ++ if _ then [] else []) (replyCommit gen ctx packet reservation).2
    rw [ite_self, List.append_nil]
    have hs := (replyCommit_spec gen ctx packet reservation).1
    exact hS.of_lookup hs.nonce.ge (by rw [hs.handles])
  | wake wakerId delay =>
    show SlotHolds h (data ++ if _ then [] else []) (wake ctx wakerId delay).2
    rw [ite_self, List.append_nil]
    have hs := (wake_sameSlots ctx wakerId delay).1
    exact hS.of_lookup hs.nonce.ge (by rw [hs.handles])
  | replyDeposit messageId amount =>
    show SlotHolds h (data ++ if _ then [] else []) (replyDeposit ctx messageId amount).2
    rw [ite_self, List.append_nil]
    have hs := (replyDeposit_sameSlots ctx messageId amount).1
    exact hS.of_lookup hs.nonce.ge (by rw [hs.handles])

/-- Every call keeps `ReplyHolds`, the buffer growing by what the call
appends when it succeeds. -/
theorem ReplyHolds.apply {data : List UInt8} (hR : ReplyHolds data ctx) (call : MsgCall M P R) :
    ReplyHolds (data ++ if (call.apply gen ctx).1.toBool then
        call.replyBytes ctx.current.payload else []) (call.apply gen ctx).2 := by
  cases call with
  | initProgram packet delay =>
    -- the slot calls write neither the reply nor its buffer
    show ReplyHolds (data ++ if _ then [] else []) (initProgram gen ctx packet delay).2
    rw [ite_self, List.append_nil]
    rcases initProgram_cases gen ctx packet delay with ⟨-, heq⟩ | ⟨-, -, heq⟩ <;> rw [heq]
    · exact hR
    · exact hR.of_eq rfl rfl
  | sendInit =>
    show ReplyHolds (data ++ if _ then [] else []) (sendInit ctx).2
    rw [ite_self, List.append_nil]
    rcases sendInit_cases ctx with ⟨-, heq⟩ | ⟨-, -, heq⟩ <;> rw [heq]
    · exact hR
    · exact hR.of_eq rfl rfl
  | sendPush handle buffer =>
    show ReplyHolds (data ++ if _ then [] else []) (pushToSlot ctx handle buffer.length buffer).2
    rw [ite_self, List.append_nil]
    rcases pushToSlot_cases ctx handle buffer.length buffer with ⟨-, heq⟩ | ⟨-, _, -, -, heq⟩ <;>
      rw [heq]
    · exact hR
    · exact hR.of_eq rfl rfl
  | sendPushInput handle offset len =>
    show ReplyHolds (data ++ if _ then [] else []) _
    rw [ite_self, List.append_nil]
    cases hrange : checkInputRange ctx offset len with
    | error e =>
      simp only [MsgCall.apply, hrange]
      exact hR
    | ok range =>
      simp only [MsgCall.apply, hrange]
      show ReplyHolds data (pushToSlot ctx handle range.len (range.slice ctx.current.payload)).2
      rcases pushToSlot_cases ctx handle range.len (range.slice ctx.current.payload) with
        ⟨-, heq⟩ | ⟨-, _, -, -, heq⟩ <;> rw [heq]
      · exact hR
      · exact hR.of_eq rfl rfl
  | sendCommit handle packet delay reservation =>
    show ReplyHolds (data ++ if _ then [] else []) (sendCommit gen ctx handle packet delay reservation).2
    rw [ite_self, List.append_nil]
    rcases sendCommit_cases gen ctx handle packet delay reservation with
      ⟨-, heq⟩ | ⟨-, _, -, -, heq⟩ <;> rw [heq]
    · exact hR
    · exact hR.of_eq rfl rfl
  | replyPush buffer => exact hR.pushToReply buffer
  | replyPushInput offset len =>
    cases hrange : checkInputRange ctx offset len with
    | error e =>
      simp only [MsgCall.apply, hrange]
      show ReplyHolds (data ++ if false = true then _ else []) ctx
      rw [if_neg Bool.false_ne_true, List.append_nil]
      exact hR
    | ok range =>
      obtain rfl := checkInputRange_eq_ok hrange
      simp only [MsgCall.apply, hrange]
      exact hR.pushToReply _
  | replyCommit packet reservation =>
    show ReplyHolds (data ++ if _ then [] else []) (replyCommit gen ctx packet reservation).2
    rw [ite_self, List.append_nil]
    rcases replyCommit_cases gen ctx packet reservation with
      ⟨-, heq | ⟨hnone, heq⟩⟩ | ⟨-, -, heq⟩ <;> rw [heq]
    · exact hR
    · exact hR.of_eq rfl (by rw [hnone]; rfl)
    · -- a reply is sent: nothing more is asked of the buffer
      intro hn
      cases hn
  | wake wakerId delay =>
    show ReplyHolds (data ++ if _ then [] else []) (wake ctx wakerId delay).2
    rw [ite_self, List.append_nil]
    exact hR.of_eq (wake_sameSlots ctx wakerId delay).2
      (by rw [wake_outgoingPayloads])
  | replyDeposit messageId amount =>
    show ReplyHolds (data ++ if _ then [] else []) (replyDeposit ctx messageId amount).2
    rw [ite_self, List.append_nil]
    exact hR.of_eq (replyDeposit_sameSlots ctx messageId amount).2
      (by rw [replyDeposit_outgoingPayloads])

end Step

/-! ## Failed calls -/

section Atomic

variable (gen : IdGen M) {ctx : MessageContext M P R}

/-- A call read through `liftResult` that failed took the failure branch of
its cases lemma. -/
theorem liftResult_failed {α : Type} {r : Except MessageError α} {A Q : Prop}
    (h : (r.toBool = false ∧ A) ∨ (r.toBool = true ∧ Q)) (hf : (liftResult r).toBool = false) : A := by
  rcases h with ⟨-, hA⟩ | ⟨hok, -⟩
  · exact hA
  · rw [liftResult_toBool, hok] at hf
    cases hf

/-- A failed `wake` leaves the context as it was. -/
theorem wake_failed [DecidableEq M] (wakerId : M) (delay : ℕ)
    (hf : (wake ctx wakerId delay).1.toBool = false) : (wake ctx wakerId delay).2 = ctx := by
  unfold wake at hf ⊢
  split_ifs at hf ⊢
  · rfl
  · cases hf

/-- A failed `reply_deposit` leaves the context as it was. -/
theorem replyDeposit_failed [DecidableEq M] (messageId : M) (amount : ℕ)
    (hf : (replyDeposit ctx messageId amount).1.toBool = false) :
    (replyDeposit ctx messageId amount).2 = ctx := by
  unfold replyDeposit at hf ⊢
  split_ifs at hf ⊢
  · rfl
  · rfl
  · cases hf

/-- A failed reply push leaves the context as it was, or only an empty reply
buffer where there was none. -/
theorem pushToReply_failed (buffer : List UInt8) (hf : (pushToReply ctx buffer).1.toBool = false) :
    (pushToReply ctx buffer).2 = ctx ∨ (ctx.outgoingPayloads.reply = none ∧
      (pushToReply ctx buffer).2 =
        { ctx with outgoingPayloads := { ctx.outgoingPayloads with reply := some [] } }) := by
  rcases pushToReply_cases ctx buffer with ⟨-, h⟩ | ⟨hok, -⟩
  · exact h
  · rw [hf] at hok
    cases hok

variable [DecidableEq M] [DecidableEq P]

/-- Every call that returns an error leaves the context as it was: the
outcome, the store, the slots, the reply buffer and the bytes counter. The
only exception is the reply buffer of the three calls that write it,
`reply_push`, `reply_push_input` and `reply_commit`, which may be left empty
where there was none. -/
theorem msgCall_atomic (ctx : MessageContext M P R) (call : MsgCall M P R) {e : ExtError}
    (he : (call.apply gen ctx).1 = .error e) :
    (call.apply gen ctx).2 = ctx ∨
      (call.writesReply = true ∧ ctx.outgoingPayloads.reply = none ∧
        (call.apply gen ctx).2 =
          { ctx with outgoingPayloads := { ctx.outgoingPayloads with reply := some [] } }) := by
  have hf : (call.apply gen ctx).1.toBool = false := by
    rw [he]
    rfl
  cases call with
  | initProgram packet delay => exact .inl (liftResult_failed (initProgram_cases gen ctx packet delay) hf)
  | sendInit => exact .inl (liftResult_failed (sendInit_cases ctx) hf)
  | sendPush handle buffer =>
    exact .inl (liftResult_failed (pushToSlot_cases ctx handle buffer.length buffer) hf)
  | sendPushInput handle offset len =>
    cases hrange : checkInputRange ctx offset len with
    | error e' =>
      -- the range is refused before the slot is read
      simp only [MsgCall.apply, hrange, true_or]
    | ok range =>
      simp only [MsgCall.apply, hrange] at hf ⊢
      exact .inl (liftResult_failed (pushToSlot_cases ctx handle range.len _) hf)
  | sendCommit handle packet delay reservation =>
    exact .inl (liftResult_failed (sendCommit_cases gen ctx handle packet delay reservation) hf)
  | replyPush buffer =>
    rcases pushToReply_failed buffer hf with h | ⟨hnone, h⟩
    · exact .inl h
    · exact .inr ⟨rfl, hnone, h⟩
  | replyPushInput offset len =>
    cases hrange : checkInputRange ctx offset len with
    | error e' =>
      simp only [MsgCall.apply, hrange, true_or]
    | ok range =>
      simp only [MsgCall.apply, hrange] at hf ⊢
      rcases pushToReply_failed _ hf with h | ⟨hnone, h⟩
      · exact .inl h
      · exact .inr ⟨rfl, hnone, h⟩
  | replyCommit packet reservation =>
    rcases replyCommit_cases gen ctx packet reservation with ⟨-, h | ⟨hnone, h⟩⟩ | ⟨hok, -⟩
    · exact .inl h
    · exact .inr ⟨rfl, hnone, h⟩
    · -- `he` reads the commit's result through `map`
      have hmap : (Except.map (fun _ => ()) (replyCommit gen ctx packet reservation).1 :
          Except ExtError Unit) = .error e := he
      rw [hok] at hmap
      cases hmap
  | wake wakerId delay =>
    exact .inl (wake_failed wakerId delay ((liftResult_toBool _).symm.trans hf))
  | replyDeposit messageId amount =>
    exact .inl (replyDeposit_failed messageId amount ((liftResult_toBool _).symm.trans hf))

/-- A commit of a slot that was never opened fails and changes nothing. -/
theorem msgCall_atomic_unopened_commit :
    let gen : IdGen ℕ := ⟨fun _ n => n + 1, fun _ => 0⟩
    let ctx : MessageContext ℕ ℕ ℕ :=
      MessageContext.new ⟨.handle, ⟨0, 0, []⟩, none⟩ 0 ⟨4, 16, by decide, by decide⟩
    let call : MsgCall ℕ ℕ ℕ := .sendCommit 5 ⟨3, [4]⟩ 0 none
    (call.apply gen ctx).2 = ctx ∨
      (call.writesReply = true ∧ ctx.outgoingPayloads.reply = none ∧
        (call.apply gen ctx).2 =
          { ctx with outgoingPayloads := { ctx.outgoingPayloads with reply := some [] } }) := by
  intro gen ctx call
  exact msgCall_atomic gen ctx call rfl

end Atomic

/-! ## Runs -/

section Runs

variable [DecidableEq M] [DecidableEq P] (gen : IdGen M)

/-- The bytes the successful calls of a run append, in order. -/
theorem flatMap_msgOks_cons (f : MsgCall M P R → List UInt8) (ctx : MessageContext M P R)
    (call : MsgCall M P R) (calls : List (MsgCall M P R)) :
    (msgOks gen ctx (call :: calls)).flatMap f =
      (if (call.apply gen ctx).1.toBool then f call else []) ++
        (msgOks gen (call.apply gen ctx).2 calls).flatMap f := by
  by_cases hok : (call.apply gen ctx).1.toBool = true
  · simp [msgOks, hok]
  · simp [msgOks, hok]

/-- Along a run the slot of `h` grows by what the successful pushes into it
append. -/
theorem SlotHolds.run {h : ℕ} : ∀ (calls : List (MsgCall M P R)) {data : List UInt8}
    {ctx : MessageContext M P R}, SlotHolds h data ctx →
    SlotHolds h (data ++ (msgOks gen ctx calls).flatMap (MsgCall.slotBytes h ctx.current.payload))
      (msgRun gen ctx calls)
  | [], data, ctx, hS => by
    rw [msgOks, List.flatMap_nil, List.append_nil]
    exact hS
  | call :: calls, data, ctx, hS => by
    have hs : GoodStep gen 0 _ _ _ ctx _ := call.apply_step
    have ih := SlotHolds.run calls (hS.apply gen call)
    rw [hs.current, List.append_assoc, ← flatMap_msgOks_cons] at ih
    exact ih

/-- Along a run, while no reply is sent, the reply buffer grows by what the
successful reply pushes append. -/
theorem ReplyHolds.run : ∀ (calls : List (MsgCall M P R)) {data : List UInt8}
    {ctx : MessageContext M P R}, ReplyHolds data ctx →
    ReplyHolds (data ++ (msgOks gen ctx calls).flatMap (MsgCall.replyBytes ctx.current.payload))
      (msgRun gen ctx calls)
  | [], data, ctx, hR => by
    rw [msgOks, List.flatMap_nil, List.append_nil]
    exact hR
  | call :: calls, data, ctx, hR => by
    have hs : GoodStep gen 0 _ _ _ ctx _ := call.apply_step
    have ih := ReplyHolds.run calls (hR.apply gen call)
    rw [hs.current, List.append_assoc, ← flatMap_msgOks_cons] at ih
    exact ih

/-- For every context, a handle from `send_init`, any run after it and a
successful `send_commit` of the handle: the message sent carries the bytes
the successful pushes into the handle appended, the input ranges read from
the incoming payload, followed by the packet's payload. Likewise a
successful `reply_commit` after any run sends the reply buffer the run
started with, the bytes the successful reply pushes appended and the
packet's payload. -/
theorem commit_assembles_payload (ctx : MessageContext M P R) :
    (∀ {h : ℕ}, (sendInit ctx).1 = .ok h → ∀ (calls : List (MsgCall M P R))
      (packet : HandlePacket P) (delay : ℕ) (reservation : Option R) {mid : M},
      (sendCommit gen (msgRun gen (sendInit ctx).2 calls) h packet delay reservation).1 = .ok mid →
      (sendCommit gen (msgRun gen (sendInit ctx).2 calls) h packet delay reservation).2.outcome.handle =
        (msgRun gen (sendInit ctx).2 calls).outcome.handle ++
          [(⟨mid, packet.destination, (msgOks gen (sendInit ctx).2 calls).flatMap
            (MsgCall.slotBytes h ctx.current.payload) ++ packet.payload⟩, delay, reservation)]) ∧
    (∀ (calls : List (MsgCall M P R)) (packet : ReplyPacket) (reservation : Option R) {mid : M},
      (replyCommit gen (msgRun gen ctx calls) packet reservation).1 = .ok mid →
      (replyCommit gen (msgRun gen ctx calls) packet reservation).2.outcome.reply =
        some (⟨mid, ctx.outgoingPayloads.reply.getD [] ++
          (msgOks gen ctx calls).flatMap (MsgCall.replyBytes ctx.current.payload) ++
            packet.payload⟩, reservation)) := by
  refine ⟨fun {h} hinit calls packet delay reservation mid hmid => ?_,
    fun calls packet reservation mid hmid => ?_⟩
  · -- the slot opened by `send_init` is empty and below the new nonce
    have hopen : SlotHolds h [] (sendInit ctx).2 := by
      rcases sendInit_cases ctx with ⟨hok, -⟩ | ⟨-, hlt, heq⟩
      · rw [hinit] at hok
        cases hok
      have hlast : (sendInit ctx).1 = .ok ctx.store.localNonce := by
        simp only [sendInit, if_pos hlt]
      rw [hinit] at hlast
      cases hlast
      rw [heq]
      exact ⟨Nat.lt_succ_self _, .inl (AList.lookup_insert _)⟩
    have hcur : (sendInit ctx).2.current = ctx.current := by
      rcases sendInit_cases ctx with ⟨-, heq⟩ | ⟨-, -, heq⟩ <;> rw [heq]
    have hS := SlotHolds.run gen calls hopen
    rw [List.nil_append, hcur] at hS
    -- the commit found the slot open, holding what the run appended
    rcases sendCommit_cases gen _ h packet delay reservation with ⟨hok, -⟩ | ⟨-, data, hd, -, heq⟩
    · rw [hmid] at hok
      cases hok
    have hdata : data = (msgOks gen (sendInit ctx).2 calls).flatMap
        (MsgCall.slotBytes h ctx.current.payload) := by
      rcases hS.slot with hs | hs <;> rw [hs] at hd <;> cases hd
      rfl
    rw [heq, ← hdata, sendCommit_eq_ok gen hmid]
  · -- the buffer the run started with, whatever the reply state
    have h0 : ReplyHolds (ctx.outgoingPayloads.reply.getD []) ctx := fun _ => rfl
    have hR := ReplyHolds.run gen calls h0
    rcases replyCommit_cases gen (msgRun gen ctx calls) packet reservation with
      ⟨hok, -⟩ | ⟨hres, hnone, heq⟩
    · rw [hmid] at hok
      cases hok
    rw [hmid] at hres
    cases hres
    rw [heq]
    dsimp only
    rw [hR hnone, List.append_assoc]

/-- Pushes into the handle around a second handle's push, with an input
range in between; and two reply pushes, one of them an input range. -/
theorem commit_assembles_payload_pushes :
    let gen : IdGen ℕ := ⟨fun _ n => n + 1, fun _ => 0⟩
    let ctx : MessageContext ℕ ℕ ℕ :=
      MessageContext.new ⟨.handle, ⟨0, 0, [7, 8]⟩, none⟩ 0 ⟨4, 16, by decide, by decide⟩
    let calls : List (MsgCall ℕ ℕ ℕ) :=
      [.sendPush 0 [1, 2], .sendInit, .sendPushInput 0 1 1, .sendPush 1 [9], .sendPush 0 [3]]
    let replies : List (MsgCall ℕ ℕ ℕ) := [.replyPush [1], .sendInit, .replyPushInput 1 1]
    (sendCommit gen (msgRun gen (sendInit ctx).2 calls) 0 ⟨3, [4]⟩ 0 none).2.outcome.handle =
        (msgRun gen (sendInit ctx).2 calls).outcome.handle ++ [(⟨1, 3, [1, 2, 8, 3, 4]⟩, 0, none)] ∧
      (replyCommit gen (msgRun gen ctx replies) ⟨[9]⟩ none).2.outcome.reply =
        some (⟨0, [1, 8, 9]⟩, none) := by
  intro gen ctx calls replies
  have hinit : (sendInit ctx).1 = .ok 0 := by decide
  have hmid : (sendCommit gen (msgRun gen (sendInit ctx).2 calls) 0 ⟨3, [4]⟩ 0 none).1 = .ok 1 := by
    decide
  have hreply : (replyCommit gen (msgRun gen ctx replies) ⟨[9]⟩ none).1 = .ok 0 := by decide
  have hslot : (msgOks gen (sendInit ctx).2 calls).flatMap
      (MsgCall.slotBytes 0 ctx.current.payload) = [1, 2, 8, 3] := by decide
  have hbuf : (msgOks gen ctx replies).flatMap (MsgCall.replyBytes ctx.current.payload) = [1, 8] := by
    decide
  constructor
  · rw [(commit_assembles_payload gen ctx).1 hinit calls ⟨3, [4]⟩ 0 none hmid, hslot]
    rfl
  · rw [(commit_assembles_payload gen ctx).2 replies ⟨[9]⟩ none hreply, hbuf]
    rfl

end Runs

end Gear.Message
