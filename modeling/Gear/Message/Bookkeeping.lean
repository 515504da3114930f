import Gear.Message.Context
import Gear.Lib.AListSum

/-!
# Bookkeeping of the message context

Every message id an execution hands out comes from the local nonce: an
initialisation takes the next nonce, a slot from `send_init` takes the next
nonce and is committed at most once under it, and the reply's id is the
reply hash. Two invariants say this along any sequence of calls:

> `Bookkeeping`: the slots are the nonces handed out in this execution; each
> such nonce is an initialisation, a committed slot or an open slot, so their
> number is the nonce's advance, which the limit bounds; the bytes counter is
> within its limit;
> `IdsFresh`: the ids sent are the outgoing hashes of distinct nonces whose
> slots are taken, and the reply carries the reply hash.

`IdsFresh` needs what the claim assumes of the hashes: `generate_outgoing` is
injective on `u32` nonces and never meets `generate_reply`.

The bytes counter is exact: every call adds the bytes it counts if it
succeeds (`MsgCall.countedBytes`), and nothing otherwise. A reply is
committed at most once, because a committed reply stays.

Most calls change none of the fields the invariants read, only the error
paths of the slot calls return the context unchanged: `SameSlots` says
this once.
-/

namespace Gear.Message

variable {M P R : Type}

/-- The ids of the initialisations and handle messages sent so far. -/
def sentIds (o : ContextOutcome M P R) : List M :=
  o.init.map (·.1.id) ++ o.handle.map (·.1.id)

/-- The number of slots opened by `send_init` and not committed yet. -/
def uncommitted (p : OutgoingPayloads) : ℕ :=
  p.handles.sumBy fun _ v => if v.isSome then 1 else 0

/-- The bytes a call counts against the limit when it succeeds. -/
def MsgCall.countedBytes : MsgCall M P R → ℕ
  | .sendPush _ buffer => buffer.length
  | .sendPushInput _ _ len => len
  | .sendCommit _ packet _ _ => packet.payload.length
  | _ => 0

/-- The call commits the reply. -/
def MsgCall.isReplyCommit : MsgCall M P R → Bool
  | .replyCommit _ _ => true
  | _ => false

/-! ## Calls that leave the slots alone -/

/-- Two contexts agree on everything the invariants read but the reply. -/
structure SameSlots (ctx ctx' : MessageContext M P R) : Prop where
  nonce : ctx'.store.localNonce = ctx.store.localNonce
  handles : ctx'.outgoingPayloads.handles = ctx.outgoingPayloads.handles
  bytes : ctx'.outgoingPayloads.bytesCounter = ctx.outgoingPayloads.bytesCounter
  init : ctx'.outcome.init = ctx.outcome.init
  handle : ctx'.outcome.handle = ctx.outcome.handle
  current : ctx'.current = ctx.current
  settings : ctx'.settings = ctx.settings

theorem SameSlots.rfl' (ctx : MessageContext M P R) : SameSlots ctx ctx :=
  ⟨rfl, rfl, rfl, rfl, rfl, rfl, rfl⟩

section Calls

variable (gen : IdGen M) (ctx : MessageContext M P R)

theorem wake_sameSlots [DecidableEq M] (wakerId : M) (delay : ℕ) :
    SameSlots ctx (wake ctx wakerId delay).2 ∧
      (wake ctx wakerId delay).2.outcome.reply = ctx.outcome.reply := by
  unfold wake
  split
  · exact ⟨SameSlots.rfl' ctx, rfl⟩
  · exact ⟨⟨rfl, rfl, rfl, rfl, rfl, rfl, rfl⟩, rfl⟩

theorem replyDeposit_sameSlots [DecidableEq M] (messageId : M) (amount : ℕ) :
    SameSlots ctx (replyDeposit ctx messageId amount).2 ∧
      (replyDeposit ctx messageId amount).2.outcome.reply = ctx.outcome.reply := by
  unfold replyDeposit
  split
  · exact ⟨SameSlots.rfl' ctx, rfl⟩
  split
  · exact ⟨SameSlots.rfl' ctx, rfl⟩
  · exact ⟨⟨rfl, rfl, rfl, rfl, rfl, rfl, rfl⟩, rfl⟩

theorem pushToReply_sameSlots (buffer : List UInt8) :
    SameSlots ctx (pushToReply ctx buffer).2 ∧
      (pushToReply ctx buffer).2.outcome.reply = ctx.outcome.reply := by
  unfold pushToReply
  split
  · exact ⟨SameSlots.rfl' ctx, rfl⟩
  split
  · exact ⟨SameSlots.rfl' ctx, rfl⟩
  dsimp only
  split
  · exact ⟨⟨rfl, rfl, rfl, rfl, rfl, rfl, rfl⟩, rfl⟩
  · exact ⟨⟨rfl, rfl, rfl, rfl, rfl, rfl, rfl⟩, rfl⟩

/-- `reply_commit` touches only the reply: it keeps it on an error, and
commits it, with the reply hash as its id, only when there was none. -/
theorem replyCommit_spec (packet : ReplyPacket) (reservation : Option R) :
    SameSlots ctx (replyCommit gen ctx packet reservation).2 ∧
      (((replyCommit gen ctx packet reservation).1.toBool = false ∧
          (replyCommit gen ctx packet reservation).2.outcome.reply = ctx.outcome.reply) ∨
        ((replyCommit gen ctx packet reservation).1.toBool = true ∧ ctx.outcome.reply = none ∧
          ∃ payload, (replyCommit gen ctx packet reservation).2.outcome.reply =
            some (⟨gen.reply ctx.current.id, payload⟩, reservation))) := by
  unfold replyCommit
  split
  · exact ⟨SameSlots.rfl' ctx, .inl ⟨rfl, rfl⟩⟩
  split
  · exact ⟨SameSlots.rfl' ctx, .inl ⟨rfl, rfl⟩⟩
  · rename_i hsent
    have hnone : ctx.outcome.reply = none := by
      simpa [replySent, Option.isSome_iff_ne_none] using hsent
    dsimp only
    split
    · exact ⟨⟨rfl, rfl, rfl, rfl, rfl, rfl, rfl⟩, .inl ⟨rfl, rfl⟩⟩
    · exact ⟨⟨rfl, rfl, rfl, rfl, rfl, rfl, rfl⟩, .inr ⟨rfl, hnone, _, rfl⟩⟩

/-! ## The slot calls -/

/-- What `init_program` can do: fail and change nothing, or send an
initialisation under the next nonce and mark that slot taken. -/
theorem initProgram_cases [DecidableEq P] (packet : InitPacket P) (delay : ℕ) :
    ((initProgram gen ctx packet delay).1.toBool = false ∧ (initProgram gen ctx packet delay).2 = ctx) ∨
      ((initProgram gen ctx packet delay).1.toBool = true ∧
        ctx.store.localNonce < ctx.settings.outgoingLimit ∧
        (initProgram gen ctx packet delay).2 =
          { ctx with
            store := ⟨insert packet.destination ctx.store.initialized, ctx.store.localNonce + 1⟩
            outgoingPayloads :=
              { ctx.outgoingPayloads with
                handles := ctx.outgoingPayloads.handles.insert ctx.store.localNonce none }
            outcome :=
              { ctx.outcome with
                init := ctx.outcome.init ++
                  [(⟨gen.outgoing ctx.current.id ctx.store.localNonce, packet.destination,
                    packet.payload⟩, delay, none)] } }) := by
  unfold initProgram
  split
  · exact .inl ⟨rfl, rfl⟩
  dsimp only
  split
  · exact .inl ⟨rfl, rfl⟩
  · exact .inr ⟨rfl, by omega, rfl⟩

/-- What `send_init` can do: fail and change nothing, or open the slot of
the next nonce. -/
theorem sendInit_cases :
    ((sendInit ctx).1.toBool = false ∧ (sendInit ctx).2 = ctx) ∨
      ((sendInit ctx).1.toBool = true ∧ ctx.store.localNonce < ctx.settings.outgoingLimit ∧
        (sendInit ctx).2 =
          { ctx with
            store := { ctx.store with localNonce := ctx.store.localNonce + 1 }
            outgoingPayloads :=
              { ctx.outgoingPayloads with
                handles := ctx.outgoingPayloads.handles.insert ctx.store.localNonce (some []) } }) := by
  unfold sendInit
  dsimp only
  split
  · exact .inr ⟨rfl, ‹_›, rfl⟩
  · exact .inl ⟨rfl, rfl⟩

theorem increaseCounter_eq_some {counter amount limit new : ℕ}
    (h : increaseCounter counter amount limit = some new) :
    new = counter + amount ∧ counter + amount ≤ limit := by
  unfold increaseCounter at h
  split at h
  · cases h
    exact ⟨rfl, ‹_ ∧ _ ∧ _›.2.2⟩
  · cases h

/-- `try_extend_from_slice` extends without loss, or not at all. -/
theorem tryExtendFromSlice_eq_some {data buffer data' : List UInt8}
    (h : tryExtendFromSlice data buffer = some data') : data' = data ++ buffer := by
  unfold tryExtendFromSlice at h
  split at h
  · cases h
    rfl
  · cases h

/-- What a push into a slot can do: fail and change nothing, or extend an
open slot by the buffer and count `amount` bytes within the limit. -/
theorem pushToSlot_cases (handle amount : ℕ) (buffer : List UInt8) :
    ((pushToSlot ctx handle amount buffer).1.toBool = false ∧
        (pushToSlot ctx handle amount buffer).2 = ctx) ∨
      ((pushToSlot ctx handle amount buffer).1.toBool = true ∧
        ∃ data, ctx.outgoingPayloads.handles.lookup handle = some (some data) ∧
          ctx.outgoingPayloads.bytesCounter + amount ≤ ctx.settings.outgoingBytesLimit ∧
          (pushToSlot ctx handle amount buffer).2 =
            { ctx with
              outgoingPayloads :=
                { ctx.outgoingPayloads with
                  handles := ctx.outgoingPayloads.handles.insert handle (some (data ++ buffer))
                  bytesCounter := ctx.outgoingPayloads.bytesCounter + amount } }) := by
  unfold pushToSlot
  split
  · rename_i data hdata
    split
    · exact .inl ⟨rfl, rfl⟩
    · rename_i new hnew
      obtain ⟨rfl, hle⟩ := increaseCounter_eq_some hnew
      split
      · exact .inl ⟨rfl, rfl⟩
      · rename_i data' hext
        rw [tryExtendFromSlice_eq_some hext]
        exact .inr ⟨rfl, data, hdata, hle, rfl⟩
  · exact .inl ⟨rfl, rfl⟩
  · exact .inl ⟨rfl, rfl⟩

/-- What `send_commit` can do: fail and change nothing (the slot's payload
is put back), or send the slot's message, the slot's payload followed by the
packet's, under its nonce, take the slot and count the packet's bytes within
the limit. -/
theorem sendCommit_cases (handle : ℕ) (packet : HandlePacket P) (delay : ℕ)
    (reservation : Option R) :
    ((sendCommit gen ctx handle packet delay reservation).1.toBool = false ∧
        (sendCommit gen ctx handle packet delay reservation).2 = ctx) ∨
      ((sendCommit gen ctx handle packet delay reservation).1.toBool = true ∧
        ∃ data, ctx.outgoingPayloads.handles.lookup handle = some (some data) ∧
          ctx.outgoingPayloads.bytesCounter + packet.payload.length ≤
            ctx.settings.outgoingBytesLimit ∧
          (sendCommit gen ctx handle packet delay reservation).2 =
            { ctx with
              outcome :=
                { ctx.outcome with
                  handle := ctx.outcome.handle ++
                    [(⟨gen.outgoing ctx.current.id handle, packet.destination,
                      data ++ packet.payload⟩, delay, reservation)] }
              outgoingPayloads :=
                { ctx.outgoingPayloads with
                  handles := ctx.outgoingPayloads.handles.insert handle none
                  bytesCounter := ctx.outgoingPayloads.bytesCounter + packet.payload.length } }) := by
  unfold sendCommit
  split
  · exact .inl ⟨rfl, rfl⟩
  · exact .inl ⟨rfl, rfl⟩
  · rename_i data hdata
    split
    · exact .inl ⟨rfl, rfl⟩
    · rename_i new hnew
      obtain ⟨rfl, hle⟩ := increaseCounter_eq_some hnew
      split
      · exact .inl ⟨rfl, rfl⟩
      · rename_i payload hext
        rw [tryExtendFromSlice_eq_some hext]
        exact .inr ⟨rfl, data, hdata, hle, rfl⟩

end Calls

/-! ## The invariants -/

/-- The slots of an execution whose store started at nonce `L0`: every slot
is a nonce handed out since, each handed-out nonce is an initialisation, a
handle message or an open slot, and the nonce passes `L0` only up to the
limit. -/
structure Bookkeeping (L0 : ℕ) (ctx : MessageContext M P R) : Prop where
  nonce_ge : L0 ≤ ctx.store.localNonce
  nonce_le : ctx.store.localNonce = L0 ∨ ctx.store.localNonce ≤ ctx.settings.outgoingLimit
  keys : ∀ k v, ctx.outgoingPayloads.handles.lookup k = some v →
    L0 ≤ k ∧ k < ctx.store.localNonce
  count : ctx.outcome.init.length + ctx.outcome.handle.length +
    uncommitted ctx.outgoingPayloads + L0 = ctx.store.localNonce
  bytes_le : ctx.outgoingPayloads.bytesCounter ≤ ctx.settings.outgoingBytesLimit

/-- `generate_outgoing` is injective in the `u32` nonce. -/
def NoncesInjective (gen : IdGen M) (cur : M) : Prop :=
  ∀ n m, n < 2 ^ 32 → m < 2 ^ 32 → gen.outgoing cur n = gen.outgoing cur m → n = m

/-- The ids sent are the outgoing hashes of distinct nonces of taken slots,
and the reply's is the reply hash. -/
structure IdsFresh (gen : IdGen M) (L0 : ℕ) (ctx : MessageContext M P R) : Prop where
  sent : ∀ m ∈ sentIds ctx.outcome, ∃ n, m = gen.outgoing ctx.current.id n ∧ L0 ≤ n ∧
    n < ctx.store.localNonce ∧ ctx.outgoingPayloads.handles.lookup n = some none
  nodup : (sentIds ctx.outcome).Nodup
  reply : ∀ r ∈ ctx.outcome.reply, r.1.id = gen.reply ctx.current.id

section Invariants

variable {gen : IdGen M} {L0 : ℕ} {ctx ctx' : MessageContext M P R}

/-- A slot's nonce is a `u32`: it lies below the nonce, which only passes the
start up to the limit. -/
theorem Bookkeeping.lt_of_slot (hB : Bookkeeping L0 ctx) {n : ℕ} (h1 : L0 ≤ n)
    (h2 : n < ctx.store.localNonce) : n < 2 ^ 32 := by
  have := ctx.settings.outgoingLimit_lt
  rcases hB.nonce_le with h | h <;> omega

/-- The next nonce has no slot yet. -/
theorem Bookkeeping.lookup_nonce (hB : Bookkeeping L0 ctx) :
    ctx.outgoingPayloads.handles.lookup ctx.store.localNonce = none := by
  cases h : ctx.outgoingPayloads.handles.lookup ctx.store.localNonce with
  | none => rfl
  | some v => exact absurd (hB.keys _ v h).2 (Nat.lt_irrefl _)

/-- The bound the claim asks for: messages and open slots within the limit. -/
theorem Bookkeeping.count_le (hB : Bookkeeping L0 ctx) :
    ctx.outcome.init.length + ctx.outcome.handle.length + uncommitted ctx.outgoingPayloads ≤
      ctx.settings.outgoingLimit := by
  have := hB.count
  rcases hB.nonce_le with h | h <;> omega

theorem Bookkeeping.of_sameSlots (hB : Bookkeeping L0 ctx) (h : SameSlots ctx ctx') :
    Bookkeeping L0 ctx' := by
  have hu : uncommitted ctx'.outgoingPayloads = uncommitted ctx.outgoingPayloads := by
    unfold uncommitted
    rw [h.handles]
  refine ⟨h.nonce ▸ hB.nonce_ge, ?_, fun k v hk => ?_, ?_, ?_⟩
  · rw [h.nonce, h.settings]
    exact hB.nonce_le
  · rw [h.nonce]
    exact hB.keys k v (h.handles ▸ hk)
  · rw [h.init, h.handle, hu, h.nonce]
    exact hB.count
  · rw [h.bytes, h.settings]
    exact hB.bytes_le

/-- A call that leaves the slots alone keeps the ids fresh if it keeps the
reply, or commits one under the reply hash. -/
theorem IdsFresh.of_sameSlots (hI : IdsFresh gen L0 ctx) (h : SameSlots ctx ctx')
    (hr : ∀ r ∈ ctx'.outcome.reply, r ∈ ctx.outcome.reply ∨ r.1.id = gen.reply ctx.current.id) :
    IdsFresh gen L0 ctx' := by
  have hs : sentIds ctx'.outcome = sentIds ctx.outcome := by
    unfold sentIds
    rw [h.init, h.handle]
  refine ⟨fun m hm => ?_, hs ▸ hI.nodup, fun r hmem => ?_⟩
  · rw [h.current, h.nonce, h.handles]
    exact hI.sent m (hs ▸ hm)
  · rw [h.current]
    rcases hr r hmem with hr | hr
    · exact hI.reply r hr
    · exact hr

/-! ### Slots after an insert -/

/-- Inserting the slot of a nonce `a` between `L0` and a new nonce `n'`
keeps every slot between them. -/
theorem keys_insert {s : AList (fun _ : ℕ => Option (List UInt8))} {n n' a : ℕ}
    {b : Option (List UInt8)} (hkeys : ∀ k v, s.lookup k = some v → L0 ≤ k ∧ k < n)
    (ha : L0 ≤ a ∧ a < n') (hn : n ≤ n') :
    ∀ k v, (s.insert a b).lookup k = some v → L0 ≤ k ∧ k < n' := by
  intro k v hk
  by_cases hka : k = a
  · subst hka
    exact ha
  · rw [AList.lookup_insert_ne hka] at hk
    have := hkeys k v hk
    omega

theorem uncommitted_insert_fresh {p : OutgoingPayloads} {a : ℕ} (h : p.handles.lookup a = none)
    (b : Option (List UInt8)) :
    uncommitted { p with handles := p.handles.insert a b } =
      uncommitted p + if b.isSome then 1 else 0 :=
  AList.sumBy_insert_of_lookup_eq_none h b

theorem uncommitted_insert_open {p : OutgoingPayloads} {a : ℕ} {data : List UInt8}
    (h : p.handles.lookup a = some (some data)) (data' : List UInt8) (bytes : ℕ) :
    uncommitted { p with handles := p.handles.insert a (some data'), bytesCounter := bytes } =
      uncommitted p :=
  AList.sumBy_insert_of_eq h rfl

theorem uncommitted_insert_take {p : OutgoingPayloads} {a : ℕ} {data : List UInt8}
    (h : p.handles.lookup a = some (some data)) (bytes : ℕ) :
    uncommitted { p with handles := p.handles.insert a none, bytesCounter := bytes } + 1 =
      uncommitted p := by
  have hadd : (p.handles.insert a none).sumBy (fun _ v => if v.isSome then 1 else 0) + 1 =
      p.handles.sumBy (fun _ v => if v.isSome then 1 else 0) + 0 :=
    AList.sumBy_insert_add h
  exact hadd

/-! ### Ids after a call -/

/-- A call that sends the id of slot `a`, a slot no sent id has, and takes
that slot keeps the ids fresh. -/
theorem IdsFresh.send_taken (hI : IdsFresh gen L0 ctx) (hinj : NoncesInjective gen ctx.current.id)
    {a : ℕ} (hperm : (sentIds ctx'.outcome).Perm (gen.outgoing ctx.current.id a :: sentIds ctx.outcome))
    (hcur : ctx'.current = ctx.current) (hnonce : ctx.store.localNonce ≤ ctx'.store.localNonce)
    (ha : L0 ≤ a ∧ a < ctx'.store.localNonce)
    (hlt : ∀ n, L0 ≤ n → n < ctx'.store.localNonce → n < 2 ^ 32)
    (hold : ∀ n, ctx.outgoingPayloads.handles.lookup n = some none → n ≠ a)
    (hlook : ctx'.outgoingPayloads.handles = ctx.outgoingPayloads.handles.insert a none)
    (hreply : ctx'.outcome.reply = ctx.outcome.reply) : IdsFresh gen L0 ctx' := by
  refine ⟨fun m hm => ?_, ?_, fun r hr => ?_⟩
  · rw [hcur, hlook]
    rcases List.mem_cons.1 (hperm.mem_iff.1 hm) with rfl | hm
    · exact ⟨a, rfl, ha.1, ha.2, AList.lookup_insert _⟩
    · obtain ⟨n, rfl, h1, h2, h3⟩ := hI.sent m hm
      exact ⟨n, rfl, h1, by omega, by rw [AList.lookup_insert_ne (hold n h3), h3]⟩
  · refine hperm.nodup_iff.2 (List.nodup_cons.2 ⟨fun hm => ?_, hI.nodup⟩)
    obtain ⟨n, hn, h1, h2, h3⟩ := hI.sent _ hm
    -- the same hash of two `u32` nonces: the nonces agree, but `n`'s slot is taken
    have := hinj a n (hlt a ha.1 ha.2) (hlt n h1 (by omega)) hn
    exact hold n h3 this.symm
  · rw [hcur]
    exact hI.reply r (hreply ▸ hr)

/-- A call that sends nothing and keeps every taken slot keeps the ids
fresh. -/
theorem IdsFresh.keep_taken (hI : IdsFresh gen L0 ctx) (hout : ctx'.outcome = ctx.outcome)
    (hcur : ctx'.current = ctx.current) (hnonce : ctx.store.localNonce ≤ ctx'.store.localNonce)
    (hlook : ∀ n, ctx.outgoingPayloads.handles.lookup n = some none →
      ctx'.outgoingPayloads.handles.lookup n = some none) : IdsFresh gen L0 ctx' := by
  refine ⟨fun m hm => ?_, hout ▸ hI.nodup, fun r hr => ?_⟩
  · obtain ⟨n, rfl, h1, h2, h3⟩ := hI.sent m (hout ▸ hm)
    exact ⟨n, by rw [hcur], h1, by omega, hlook n h3⟩
  · rw [hcur]
    exact hI.reply r (hout ▸ hr)

end Invariants

/-! ## One call -/

/-- What one call may do, given whether it succeeded (`ok`), the bytes it
counts and whether it commits the reply: keep both invariants, add its bytes
to the counter if it succeeded, commit a reply only where there was none,
and never lower the nonce or touch the incoming message or the settings. -/
structure GoodStep (gen : IdGen M) (L0 : ℕ) (ok : Bool) (counted : ℕ) (commits : Bool)
    (ctx ctx' : MessageContext M P R) : Prop where
  bookkeeping : Bookkeeping L0 ctx → Bookkeeping L0 ctx'
  ids : Bookkeeping L0 ctx → NoncesInjective gen ctx.current.id → IdsFresh gen L0 ctx →
    IdsFresh gen L0 ctx'
  bytes : ctx'.outgoingPayloads.bytesCounter =
    ctx.outgoingPayloads.bytesCounter + if ok then counted else 0
  reply : (if ok && commits then 1 else 0) + (if ctx.outcome.reply.isSome then 1 else 0) =
    if ctx'.outcome.reply.isSome then 1 else 0
  nonce : ctx.store.localNonce ≤ ctx'.store.localNonce
  current : ctx'.current = ctx.current
  settings : ctx'.settings = ctx.settings

section Step

variable {gen : IdGen M} {L0 : ℕ} {ctx : MessageContext M P R}

/-- A call that does not commit the reply and keeps it counts no reply. -/
theorem reply_count_keep {α : Type} {ok : Bool} {r r' : Option α} (h : r' = r) :
    (if (ok && false) = true then 1 else 0) + (if r.isSome then 1 else 0) =
      if r'.isSome then 1 else 0 := by
  subst h
  simp

/-- A call that leaves the slots and the reply alone and counts nothing. -/
theorem GoodStep.of_sameSlots {ctx' : MessageContext M P R} {ok : Bool} {counted : ℕ}
    (h : SameSlots ctx ctx') (hr : ctx'.outcome.reply = ctx.outcome.reply)
    (hb : ok = true → counted = 0) : GoodStep gen L0 ok counted false ctx ctx' := by
  refine ⟨fun hB => hB.of_sameSlots h, fun _ _ hI => hI.of_sameSlots h (fun r hmem => .inl (hr ▸ hmem)),
    ?_, ?_, h.nonce.ge, h.current, h.settings⟩
  · rw [h.bytes]
    cases ok with
    | false => rfl
    | true => rw [hb rfl]; rfl
  · exact reply_count_keep hr

/-- A failed call that changed nothing. -/
theorem GoodStep.error {counted : ℕ} {commits : Bool} : GoodStep gen L0 false counted commits ctx ctx where
  bookkeeping := id
  ids := fun _ _ => id
  bytes := rfl
  reply := by simp
  nonce := le_rfl
  current := rfl
  settings := rfl

theorem initProgram_step [DecidableEq P] (packet : InitPacket P) (delay : ℕ) :
    GoodStep gen L0 (initProgram gen ctx packet delay).1.toBool 0 false ctx
      (initProgram gen ctx packet delay).2 := by
  rcases initProgram_cases gen ctx packet delay with ⟨hok, h⟩ | ⟨hok, hlt, h⟩
  · rw [hok, h]
    exact GoodStep.error
  rw [hok, h]
  have hlim := ctx.settings.outgoingLimit_lt
  refine ⟨fun hB => ⟨?_, .inr hlt, ?_, ?_, hB.bytes_le⟩, fun hB hinj hI => ?_, rfl, ?_,
    Nat.le_succ _, rfl, rfl⟩
  · exact Nat.le_succ_of_le hB.nonce_ge
  · exact keys_insert hB.keys ⟨hB.nonce_ge, Nat.lt_succ_self _⟩ (Nat.le_succ _)
  · -- the new slot is taken: one more initialisation, no more open slots
    have hu := uncommitted_insert_fresh hB.lookup_nonce (p := ctx.outgoingPayloads) none
    have hc := hB.count
    simp only [List.length_append, List.length_singleton, Option.isSome_none,
      Bool.false_eq_true, if_false] at hu ⊢
    omega
  · refine hI.send_taken hinj (a := ctx.store.localNonce) ?_ rfl (Nat.le_succ _)
      ⟨hB.nonce_ge, Nat.lt_succ_self _⟩ (fun n _ hn => by simp only at hn; omega)
      (fun n hn hna => ?_) rfl rfl
    · simp only [sentIds, List.map_append, List.map_cons, List.map_nil, List.append_assoc,
        List.singleton_append]
      exact List.perm_middle
    · rw [hna, hB.lookup_nonce] at hn
      cases hn
  · exact reply_count_keep rfl

theorem sendInit_step : GoodStep gen L0 (sendInit ctx).1.toBool 0 false ctx (sendInit ctx).2 := by
  rcases sendInit_cases ctx with ⟨hok, h⟩ | ⟨hok, hlt, h⟩
  · rw [hok, h]
    exact GoodStep.error
  rw [hok, h]
  refine ⟨fun hB => ⟨?_, .inr hlt, ?_, ?_, hB.bytes_le⟩, fun hB _ hI => ?_, rfl, ?_,
    Nat.le_succ _, rfl, rfl⟩
  · exact Nat.le_succ_of_le hB.nonce_ge
  · exact keys_insert hB.keys ⟨hB.nonce_ge, Nat.lt_succ_self _⟩ (Nat.le_succ _)
  · -- the new slot is open
    have hu := uncommitted_insert_fresh hB.lookup_nonce (p := ctx.outgoingPayloads) (some [])
    have hc := hB.count
    simp only [Option.isSome_some, if_true] at hu ⊢
    omega
  · refine hI.keep_taken rfl rfl (Nat.le_succ _) fun n hn => ?_
    have hne : n ≠ ctx.store.localNonce := fun hna => by
      rw [hna, hB.lookup_nonce] at hn
      cases hn
    rw [AList.lookup_insert_ne hne]
    exact hn
  · exact reply_count_keep rfl

theorem pushToSlot_step (handle amount : ℕ) (buffer : List UInt8) :
    GoodStep gen L0 (pushToSlot ctx handle amount buffer).1.toBool amount false ctx
      (pushToSlot ctx handle amount buffer).2 := by
  rcases pushToSlot_cases ctx handle amount buffer with ⟨hok, h⟩ | ⟨hok, data, hd, hle, h⟩
  · rw [hok, h]
    exact GoodStep.error
  rw [hok, h]
  refine ⟨fun hB => ⟨hB.nonce_ge, hB.nonce_le, ?_, ?_, hle⟩, fun hB _ hI => ?_, rfl, ?_,
    le_rfl, rfl, rfl⟩
  · exact keys_insert hB.keys (hB.keys handle _ hd) le_rfl
  · -- the slot stays open
    rw [uncommitted_insert_open hd]
    exact hB.count
  · refine hI.keep_taken rfl rfl le_rfl fun n hn => ?_
    have hne : n ≠ handle := fun hna => by
      rw [hna, hd] at hn
      cases hn
    rw [AList.lookup_insert_ne hne]
    exact hn
  · exact reply_count_keep rfl

theorem sendCommit_step (handle : ℕ) (packet : HandlePacket P) (delay : ℕ)
    (reservation : Option R) :
    GoodStep gen L0 (sendCommit gen ctx handle packet delay reservation).1.toBool
      packet.payload.length false ctx (sendCommit gen ctx handle packet delay reservation).2 := by
  rcases sendCommit_cases gen ctx handle packet delay reservation with
    ⟨hok, h⟩ | ⟨hok, data, hd, hle, h⟩
  · rw [hok, h]
    exact GoodStep.error
  rw [hok, h]
  refine ⟨fun hB => ⟨hB.nonce_ge, hB.nonce_le, ?_, ?_, hle⟩, fun hB hinj hI => ?_, rfl, ?_,
    le_rfl, rfl, rfl⟩
  · exact keys_insert hB.keys (hB.keys handle _ hd) le_rfl
  · -- the slot is taken: one more handle message, one open slot less
    have hu := uncommitted_insert_take hd (ctx.outgoingPayloads.bytesCounter + packet.payload.length)
    have hc := hB.count
    simp only [List.length_append, List.length_singleton] at hu ⊢
    omega
  · have hslot := hB.keys handle _ hd
    refine hI.send_taken hinj (a := handle) ?_ rfl le_rfl hslot
      (fun n h1 h2 => hB.lt_of_slot h1 h2) (fun n hn hna => ?_) rfl rfl
    · simp only [sentIds, List.map_append, List.map_cons, List.map_nil, ← List.append_assoc]
      exact List.perm_append_singleton _ _
    · rw [hna, hd] at hn
      cases hn
  · exact reply_count_keep rfl

theorem pushToReply_step (buffer : List UInt8) :
    GoodStep gen L0 (pushToReply ctx buffer).1.toBool 0 false ctx (pushToReply ctx buffer).2 :=
  GoodStep.of_sameSlots (pushToReply_sameSlots ctx buffer).1 (pushToReply_sameSlots ctx buffer).2
    fun _ => rfl

theorem replyCommit_step (packet : ReplyPacket) (reservation : Option R) :
    GoodStep gen L0 (replyCommit gen ctx packet reservation).1.toBool 0 true ctx
      (replyCommit gen ctx packet reservation).2 := by
  obtain ⟨h, hr⟩ := replyCommit_spec gen ctx packet reservation
  have hids : ∀ r ∈ (replyCommit gen ctx packet reservation).2.outcome.reply,
      r ∈ ctx.outcome.reply ∨ r.1.id = gen.reply ctx.current.id := by
    intro r hmem
    rcases hr with ⟨-, hr⟩ | ⟨-, -, payload, hr⟩
    · exact .inl (hr ▸ hmem)
    · rw [hr, Option.mem_some_iff] at hmem
      exact .inr (by rw [← hmem])
  refine ⟨fun hB => hB.of_sameSlots h, fun _ _ hI => hI.of_sameSlots h hids, ?_, ?_,
    h.nonce.ge, h.current, h.settings⟩
  · rw [h.bytes]
    simp
  · -- a reply is committed only where there was none
    rcases hr with ⟨hok, hr⟩ | ⟨hok, hnone, payload, hr⟩
    · rw [hok, hr]
      simp
    · rw [hok, hr, hnone]
      rfl

theorem wake_step [DecidableEq M] (wakerId : M) (delay : ℕ) :
    GoodStep gen L0 (wake ctx wakerId delay).1.toBool 0 false ctx (wake ctx wakerId delay).2 :=
  GoodStep.of_sameSlots (wake_sameSlots ctx wakerId delay).1 (wake_sameSlots ctx wakerId delay).2
    fun _ => rfl

theorem replyDeposit_step [DecidableEq M] (messageId : M) (amount : ℕ) :
    GoodStep gen L0 (replyDeposit ctx messageId amount).1.toBool 0 false ctx
      (replyDeposit ctx messageId amount).2 :=
  GoodStep.of_sameSlots (replyDeposit_sameSlots ctx messageId amount).1
    (replyDeposit_sameSlots ctx messageId amount).2 fun _ => rfl

theorem liftResult_toBool {α : Type} (r : Except MessageError α) :
    (liftResult r).toBool = r.toBool := by
  cases r <;> rfl

/-- A checked range counts its length. -/
theorem checkInputRange_len {offset len : ℕ} {range : CheckedRange}
    (h : checkInputRange ctx offset len = .ok range) : range.len = len := by
  unfold checkInputRange at h
  split_ifs at h
  cases h
  simp [CheckedRange.len]

/-- Every call is a good step. -/
theorem MsgCall.apply_step [DecidableEq M] [DecidableEq P] (call : MsgCall M P R) :
    GoodStep gen L0 (call.apply gen ctx).1.toBool call.countedBytes call.isReplyCommit ctx
      (call.apply gen ctx).2 := by
  cases call with
  | initProgram packet delay =>
    show GoodStep gen L0 (liftResult (Gear.Message.initProgram gen ctx packet delay).1).toBool 0 false ctx _
    rw [liftResult_toBool]
    exact initProgram_step packet delay
  | sendInit =>
    show GoodStep gen L0 (liftResult (Gear.Message.sendInit ctx).1).toBool 0 false ctx _
    rw [liftResult_toBool]
    exact sendInit_step
  | sendPush handle buffer =>
    show GoodStep gen L0 (liftResult (Gear.Message.pushToSlot ctx handle buffer.length buffer).1).toBool
      buffer.length false ctx _
    rw [liftResult_toBool]
    exact pushToSlot_step handle buffer.length buffer
  | sendPushInput handle offset len =>
    dsimp only [MsgCall.apply]
    split
    · exact GoodStep.error
    · rename_i range hrange
      show GoodStep gen L0 (liftResult (Gear.Message.pushToSlot ctx handle range.len _).1).toBool len false ctx _
      rw [liftResult_toBool, ← checkInputRange_len hrange]
      exact pushToSlot_step handle range.len _
  | sendCommit handle packet delay reservation =>
    show GoodStep gen L0 (liftResult (Gear.Message.sendCommit gen ctx handle packet delay reservation).1).toBool
      packet.payload.length false ctx _
    rw [liftResult_toBool]
    exact sendCommit_step handle packet delay reservation
  | replyPush buffer => exact pushToReply_step buffer
  | replyPushInput offset len =>
    dsimp only [MsgCall.apply]
    split
    · exact GoodStep.error
    · exact pushToReply_step _
  | replyCommit packet reservation =>
    show GoodStep gen L0 ((Gear.Message.replyCommit gen ctx packet reservation).1.map fun _ => ()).toBool 0 true
      ctx _
    have hmap : ((Gear.Message.replyCommit gen ctx packet reservation).1.map fun _ => ()).toBool =
        (Gear.Message.replyCommit gen ctx packet reservation).1.toBool := by
      cases (Gear.Message.replyCommit gen ctx packet reservation).1 <;> rfl
    rw [hmap]
    exact replyCommit_step packet reservation
  | wake wakerId delay =>
    show GoodStep gen L0 (liftResult (Gear.Message.wake ctx wakerId delay).1).toBool 0 false ctx _
    rw [liftResult_toBool]
    exact wake_step wakerId delay
  | replyDeposit messageId amount =>
    show GoodStep gen L0 (liftResult (Gear.Message.replyDeposit ctx messageId amount).1).toBool 0 false ctx _
    rw [liftResult_toBool]
    exact replyDeposit_step messageId amount

end Step

/-! ## Runs -/

/-- The calls of a run that succeed, in order. -/
def msgOks [DecidableEq M] [DecidableEq P] (gen : IdGen M) (ctx : MessageContext M P R) :
    List (MsgCall M P R) → List (MsgCall M P R)
  | [] => []
  | call :: calls =>
    if (call.apply gen ctx).1.toBool then call :: msgOks gen (call.apply gen ctx).2 calls
    else msgOks gen (call.apply gen ctx).2 calls

/-- What a run does: `GoodStep` summed over its calls. -/
structure GoodRun (gen : IdGen M) (L0 counted commits : ℕ) (ctx ctx' : MessageContext M P R) :
    Prop where
  bookkeeping : Bookkeeping L0 ctx → Bookkeeping L0 ctx'
  ids : Bookkeeping L0 ctx → NoncesInjective gen ctx.current.id → IdsFresh gen L0 ctx →
    IdsFresh gen L0 ctx'
  bytes : ctx'.outgoingPayloads.bytesCounter = ctx.outgoingPayloads.bytesCounter + counted
  reply : commits + (if ctx.outcome.reply.isSome then 1 else 0) =
    if ctx'.outcome.reply.isSome then 1 else 0
  nonce : ctx.store.localNonce ≤ ctx'.store.localNonce
  current : ctx'.current = ctx.current
  settings : ctx'.settings = ctx.settings

section Run

variable {gen : IdGen M} {L0 : ℕ}

theorem GoodRun.refl (ctx : MessageContext M P R) : GoodRun gen L0 0 0 ctx ctx :=
  ⟨id, fun _ _ => id, rfl, Nat.zero_add _, le_rfl, rfl, rfl⟩

/-- A good step followed by a good run. -/
theorem GoodStep.then_run {ok commits : Bool} {c c' k : ℕ} {ctx ctx' ctx'' : MessageContext M P R}
    (hs : GoodStep gen L0 ok c commits ctx ctx') (hr : GoodRun gen L0 c' k ctx' ctx'') :
    GoodRun gen L0 ((if ok then c else 0) + c') ((if ok && commits then 1 else 0) + k) ctx ctx'' where
  bookkeeping := fun hB => hr.bookkeeping (hs.bookkeeping hB)
  ids := fun hB hinj hI =>
    hr.ids (hs.bookkeeping hB) (hs.current ▸ hinj) (hs.ids hB hinj hI)
  bytes := by
    rw [hr.bytes, hs.bytes]
    omega
  reply := by
    have h1 := hs.reply
    have h2 := hr.reply
    omega
  nonce := hs.nonce.trans hr.nonce
  current := hr.current.trans hs.current
  settings := hr.settings.trans hs.settings

variable [DecidableEq M] [DecidableEq P]

/-- Every run is good, counting the bytes and the reply commits of the calls
that succeed. -/
theorem msgRun_good (ctx : MessageContext M P R) (calls : List (MsgCall M P R)) :
    GoodRun gen L0 (((msgOks gen ctx calls).map MsgCall.countedBytes).sum)
      ((msgOks gen ctx calls).countP MsgCall.isReplyCommit) ctx (msgRun gen ctx calls) := by
  induction calls generalizing ctx with
  | nil => exact GoodRun.refl ctx
  | cons call calls ih =>
    have hs : GoodStep gen L0 _ _ _ ctx _ := call.apply_step
    have hrun := hs.then_run (ih (call.apply gen ctx).2)
    -- the step's outcome decides whether the call is among the successful ones
    cases hok : (call.apply gen ctx).1.toBool with
    | false =>
      simp only [hok, Bool.false_eq_true, if_false, Bool.false_and, Nat.zero_add] at hrun
      simpa only [msgOks, msgRun, hok, Bool.false_eq_true, if_false] using hrun
    | true =>
      simp only [hok, if_true, Bool.true_and] at hrun
      simp only [msgOks, msgRun, hok, if_true, List.map_cons, List.sum_cons, List.countP_cons]
      rw [Nat.add_comm (List.countP _ _)]
      cases hrc : call.isReplyCommit <;> simpa [hrc] using hrun

theorem msgRun_append (ctx : MessageContext M P R) (l₁ l₂ : List (MsgCall M P R)) :
    msgRun gen ctx (l₁ ++ l₂) = msgRun gen (msgRun gen ctx l₁) l₂ := by
  induction l₁ generalizing ctx with
  | nil => rfl
  | cons call l₁ ih => exact ih (call.apply gen ctx).2

/-- The local nonce only grows along a run. -/
theorem msgRun_take_nonce_le (ctx : MessageContext M P R) (calls : List (MsgCall M P R))
    {m n : ℕ} (h : m ≤ n) :
    (msgRun gen ctx (calls.take m)).store.localNonce ≤
      (msgRun gen ctx (calls.take n)).store.localNonce := by
  have hsplit : calls.take n = calls.take m ++ (calls.take n).drop m := by
    conv_lhs => rw [← List.take_append_drop m (calls.take n)]
    rw [List.take_take, Nat.min_eq_left h]
  rw [hsplit, msgRun_append]
  have hg : GoodRun gen 0 _ _ _ _ :=
    msgRun_good (msgRun gen ctx (calls.take m)) ((calls.take n).drop m)
  exact hg.nonce

end Run

/-! ## The drained outcome -/

/-- The drained dispatches' ids: those sent, then the reply's. -/
theorem drain_ids (o : ContextOutcome M P R) :
    o.drain.outgoingDispatches.map (·.1.id) = sentIds o ++ (o.reply.map (·.1.id)).toList := by
  unfold ContextOutcome.drain sentIds
  cases o.reply <;> simp [Function.comp_def]

/-- With the hashes as assumed, the drained dispatches have distinct ids. -/
theorem IdsFresh.drain_nodup {gen : IdGen M} {L0 : ℕ} {ctx : MessageContext M P R}
    (hB : Bookkeeping L0 ctx) (hI : IdsFresh gen L0 ctx)
    (hreply : ∀ n, n < 2 ^ 32 → gen.outgoing ctx.current.id n ≠ gen.reply ctx.current.id) :
    (ctx.outcome.drain.outgoingDispatches.map (·.1.id)).Nodup := by
  rw [drain_ids]
  cases hr : ctx.outcome.reply with
  | none => simpa using hI.nodup
  | some r =>
    have hrid : r.1.id = gen.reply ctx.current.id := hI.reply r hr
    refine List.nodup_append.2 ⟨hI.nodup, List.nodup_singleton _, fun a ha b hb => ?_⟩
    obtain ⟨n, rfl, h1, h2, -⟩ := hI.sent a ha
    rw [Option.map_some, Option.toList_some, List.mem_singleton] at hb
    rw [hb, hrid]
    exact hreply n (hB.lt_of_slot h1 h2)

/-! ## A fresh context -/

section New

variable (dispatch : IncomingDispatch M P) (programId : P) (settings : ContextSettings)

theorem new_bookkeeping :
    Bookkeeping (dispatch.context.getD ⟨∅, 0⟩).localNonce
      (MessageContext.new dispatch programId settings : MessageContext M P R) where
  nonce_ge := le_rfl
  nonce_le := .inl rfl
  keys := fun k v h => by simp [MessageContext.new] at h
  count := by simp [MessageContext.new, uncommitted]
  bytes_le := Nat.zero_le _

theorem new_idsFresh (gen : IdGen M) (L0 : ℕ) :
    IdsFresh gen L0 (MessageContext.new dispatch programId settings : MessageContext M P R) where
  sent := fun m hm => by simp [MessageContext.new, sentIds] at hm
  nodup := List.nodup_nil
  reply := fun r hr => by simp [MessageContext.new] at hr

end New

/-! ## The bookkeeping of every execution -/

/-- Along any sequence of calls on a fresh context, with or without a stored
store: (a) if `generate_outgoing` is injective on `u32` nonces and never
meets `generate_reply`, the drained dispatches have distinct ids; (b) the
messages sent and the slots still open stay within the outgoing limit, and
the local nonce only grows; (c) the bytes counter stays within its limit and
is the sum of what the successful calls count: the bytes of `send_push` and
`send_push_input` and the packet payloads of `send_commit`; (d) at most one
`reply_commit` succeeds. -/
theorem run_message_bookkeeping [DecidableEq M] [DecidableEq P] (gen : IdGen M)
    (dispatch : IncomingDispatch M P) (programId : P) (settings : ContextSettings)
    (calls : List (MsgCall M P R)) :
    (NoncesInjective gen dispatch.message.id →
      (∀ n, n < 2 ^ 32 → gen.outgoing dispatch.message.id n ≠ gen.reply dispatch.message.id) →
      ((msgRun gen (MessageContext.new dispatch programId settings) calls).outcome.drain.outgoingDispatches.map
        (·.1.id)).Nodup) ∧
    (msgRun gen (MessageContext.new dispatch programId settings) calls).outcome.init.length +
        (msgRun gen (MessageContext.new dispatch programId settings) calls).outcome.handle.length +
        uncommitted (msgRun gen (MessageContext.new dispatch programId settings) calls).outgoingPayloads ≤
      settings.outgoingLimit ∧
    (∀ m n, m ≤ n →
      (msgRun gen (MessageContext.new dispatch programId settings) (calls.take m)).store.localNonce ≤
        (msgRun gen (MessageContext.new dispatch programId settings) (calls.take n)).store.localNonce) ∧
    (msgRun gen (MessageContext.new dispatch programId settings) calls).outgoingPayloads.bytesCounter ≤
      settings.outgoingBytesLimit ∧
    (msgRun gen (MessageContext.new dispatch programId settings) calls).outgoingPayloads.bytesCounter =
      ((msgOks gen (MessageContext.new dispatch programId settings) calls).map MsgCall.countedBytes).sum ∧
    (msgOks gen (MessageContext.new dispatch programId settings) calls).countP MsgCall.isReplyCommit ≤ 1 := by
  have hB0 := new_bookkeeping (R := R) dispatch programId settings
  have hrun : GoodRun gen (dispatch.context.getD ⟨∅, 0⟩).localNonce _ _
      (MessageContext.new dispatch programId settings) _ :=
    msgRun_good (MessageContext.new dispatch programId settings) calls
  have hB := hrun.bookkeeping hB0
  have hset : (msgRun gen (MessageContext.new dispatch programId settings) calls).settings =
      settings := hrun.settings
  refine ⟨fun hinj hreply => ?_, ?_, fun m n h => msgRun_take_nonce_le _ calls h, ?_, ?_, ?_⟩
  · have hcur := hrun.current
    refine IdsFresh.drain_nodup hB
      (hrun.ids hB0 hinj (new_idsFresh dispatch programId settings gen _)) ?_
    rw [hcur]
    exact hreply
  · have hle := hB.count_le
    rwa [hset] at hle
  · have hle := hB.bytes_le
    rwa [hset] at hle
  · rw [hrun.bytes]
    exact Nat.zero_add _
  · -- the fresh context has no reply, and a run commits at most the one it ends with
    have h := hrun.reply
    have hnone : (MessageContext.new dispatch programId settings : MessageContext M P R).outcome.reply =
        none := rfl
    rw [hnone, Option.isSome_none, if_neg Bool.false_ne_true, Nat.add_zero] at h
    rw [h]
    split <;> omega

/-- An open slot filled, committed, a program initialised and a reply sent:
the drained ids are distinct under injective hashes. -/
theorem run_message_bookkeeping_send_and_reply :
    ((msgRun ⟨fun _ n => n + 1, fun _ => 0⟩
        (MessageContext.new ⟨.handle, ⟨0, 0, [7]⟩, none⟩ 0 ⟨4, 16, by decide, by decide⟩)
        [.sendInit, .sendPush 0 [1, 2], .sendCommit 0 ⟨3, [4]⟩ 0 none, .initProgram ⟨5, []⟩ 0,
          .replyCommit ⟨[]⟩ (none : Option ℕ)]).outcome.drain.outgoingDispatches.map
      (·.1.id)).Nodup :=
  (run_message_bookkeeping ⟨fun _ n => n + 1, fun _ => 0⟩ ⟨.handle, ⟨0, 0, [7]⟩, none⟩ 0
    ⟨4, 16, by decide, by decide⟩ _).1 (fun _ _ _ _ h => Nat.succ.inj h)
    (fun n _ => Nat.succ_ne_zero n)

/-- A `reply_push` succeeds without counting its bytes: the counter holds the
bytes of handle messages only. -/
theorem reply_push_uncounted :
    ((MsgCall.replyPush [1] : MsgCall ℕ ℕ ℕ).apply ⟨fun _ n => n + 1, fun _ => 0⟩
        (MessageContext.new ⟨.handle, ⟨0, 0, []⟩, none⟩ 0 ⟨1, 1, by decide, by decide⟩)).1 = .ok () ∧
      ((MsgCall.replyPush [1] : MsgCall ℕ ℕ ℕ).apply ⟨fun _ n => n + 1, fun _ => 0⟩
        (MessageContext.new ⟨.handle, ⟨0, 0, []⟩, none⟩ 0 ⟨1, 1, by decide, by decide⟩)).2.outgoingPayloads.bytesCounter = 0 :=
  ⟨rfl, rfl⟩

end Gear.Message
