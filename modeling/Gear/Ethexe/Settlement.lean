import Gear.Ethexe.Mailbox
import Gear.Ethexe.Finalize

/-!
# The three settlements of a mailboxed message

Each settlement removes the message from the mailbox, queues one reply and
pushes the claim `{m, user, v}` (`Settled`). They differ in the value to
receive: the claim and the reply events go through `claim_value`, which adds
`v`, while the expiry pushes the claim by `modify_transition` and adds nothing.
When the message was mailboxed the program's value to receive went down by
`v` (the Mirror sent `v` to the Router); the Mirror pays the claim out of its
own balance, so only the event paths get `v` back from the Router for it.

> `settlements_value_to_receive`: from any world in which the message is in
> the mailbox, the three settlements that succeed are each `Settled`, the two
> events add `v` to the value to receive and the expiry leaves it as it was.
-/

namespace Gear.Ethexe

namespace InBlockTransitions

variable {Msg : Type}

/-- The value to receive of actor `a`'s transition; a transition not made yet
would start at zero. -/
def valueToReceiveOf (t : InBlockTransitions Msg) (a : ActorId) : ℤ :=
  ((t.modifications.lookup a).map (·.valueToReceive.1)).getD 0

/-- The claims of actor `a`'s transition. -/
def claimsOf (t : InBlockTransitions Msg) (a : ActorId) : List ValueClaim :=
  ((t.modifications.lookup a).map (·.claims)).getD []

/-- A `modify` at `a` ran its closure on the transition found there, or on a
fresh one, stored what it returned at `a`, and kept the other transitions. -/
theorem modify_lookup {t t' : InBlockTransitions Msg} {a : ActorId}
    {f : StateHashWithQueueSize → NonFinalTransition Msg →
      Option (StateHashWithQueueSize × NonFinalTransition Msg)}
    (h : t.modify a f = some t') :
    ∃ st st' tr', t.states.lookup a = some st ∧
      f st ((t.modifications.lookup a).getD (.empty st.hash)) = some (st', tr') ∧
      t'.states.lookup a = some st' ∧ t'.modifications.lookup a = some tr' ∧
      ∀ b, b ≠ a → t'.modifications.lookup b = t.modifications.lookup b := by
  obtain ⟨st, st', tr', hst, hf, hs, hm, -⟩ := modify_eq_some h
  refine ⟨st, st', tr', hst, hf, by rw [hs, AList.lookup_insert], by rw [hm, AList.lookup_insert],
    fun b hb => ?_⟩
  rw [hm, AList.lookup_insert_ne hb]

/-- `modify_state` records the new state and keeps every transition's value
and claims; one it creates is empty. -/
theorem modifyState_views {t t' : InBlockTransitions Msg} {a : ActorId} {h : H256} {cq iq : ℕ}
    (hm : t.modifyState a h cq iq = some t') :
    t'.states.lookup a = some ⟨h, cq, iq⟩ ∧
      (∀ b, t'.valueToReceiveOf b = t.valueToReceiveOf b) ∧ ∀ b, t'.claimsOf b = t.claimsOf b := by
  obtain ⟨st, st', tr', -, hf, hs, hma, hother⟩ := modify_lookup hm
  cases hf
  refine ⟨hs, fun b => ?_, fun b => ?_⟩ <;> by_cases hb : b = a
  · subst hb
    cases hl : t.modifications.lookup b <;>
      simp [valueToReceiveOf, hma, hl, NonFinalTransition.empty, I128.zero]
  · simp [valueToReceiveOf, hother b hb]
  · subst hb
    cases hl : t.modifications.lookup b <;> simp [claimsOf, hma, hl, NonFinalTransition.empty]
  · simp [claimsOf, hother b hb]

/-- `claim_value` adds the claimed value to actor `a`'s value to receive and
pushes the claim. -/
theorem claimValue_views {t t' : InBlockTransitions Msg} {a : ActorId} {claim : ValueClaim}
    (h : t.claimValue a claim = some t') :
    t'.valueToReceiveOf a = t.valueToReceiveOf a + claim.value ∧
      t'.claimsOf a = t.claimsOf a ++ [claim] := by
  obtain ⟨st, st', tr', -, hf, -, hma, -⟩ := modify_lookup h
  simp only [Option.bind_eq_bind, Option.bind_eq_some_iff, Option.some.injEq, Prod.mk.injEq] at hf
  obtain ⟨v, hv, v', hv', -, rfl⟩ := hf
  have hval : v.1 = claim.value := by
    unfold I128.tryFromU128 at hv
    split at hv
    · cases hv
      rfl
    · cases hv
  have hsum : v'.1 = ((t.modifications.lookup a).getD (.empty st.hash)).valueToReceive.1 + v.1 := by
    unfold I128.checkedAdd at hv'
    split at hv'
    · cases hv'
      rfl
    · cases hv'
  constructor
  · cases hl : t.modifications.lookup a <;>
      simp_all [valueToReceiveOf, NonFinalTransition.empty, I128.zero]
  · cases hl : t.modifications.lookup a <;> simp [claimsOf, hma, hl, NonFinalTransition.empty]

/-- `modify_transition` pushing a claim keeps the value to receive. -/
theorem pushClaim_views {t t' : InBlockTransitions Msg} {a : ActorId} {claim : ValueClaim}
    (h : t.modifyTransition a (fun tr => { tr with claims := tr.claims ++ [claim] }) = some t') :
    t'.valueToReceiveOf a = t.valueToReceiveOf a ∧ t'.claimsOf a = t.claimsOf a ++ [claim] := by
  obtain ⟨st, st', tr', -, hf, -, hma, -⟩ := modify_lookup h
  cases hf
  constructor
  · cases hl : t.modifications.lookup a <;>
      simp [valueToReceiveOf, hma, hl, NonFinalTransition.empty, I128.zero]
  · cases hl : t.modifications.lookup a <;> simp [claimsOf, hma, hl, NonFinalTransition.empty]

end InBlockTransitions

theorem orPanic_eq_ok {α : Type} {o : Option α} {a : α} : orPanic o = .ok a ↔ o = some a := by
  cases o <;> simp [orPanic]

namespace World

variable {Msg : Type} (hashOf : ProgramState → H256)

/-- The state of program `a`, read as `update_state` reads it. -/
def programState (w : World Msg) (a : ActorId) : Option ProgramState :=
  (w.transitions.states.lookup a).bind fun st => w.storage.lookup st.hash

/-- `update_state` runs the handler on the program's state and stores what it
returns as the program's state. -/
theorem updateState_eq_ok {w w' : World Msg} {a : ActorId}
    {f : ProgramState → InBlockTransitions Msg → Schedule →
      Except Failure (ProgramState × InBlockTransitions Msg × Schedule)}
    (h : w.updateState hashOf a f = .ok w') :
    ∃ state state' tr, w.programState a = some state ∧
      f state w.transitions w.schedule = .ok (state', tr, w'.schedule) ∧
      w'.programState a = some state' ∧
      tr.modifyState a (hashOf state') (cachedQueueSize state'.canonicalQueue)
        (cachedQueueSize state'.injectedQueue) = some w'.transitions := by
  unfold updateState at h
  obtain ⟨st, hst, h⟩ := Except.bind_eq_ok.mp h
  obtain ⟨state, hstate, h⟩ := Except.bind_eq_ok.mp h
  obtain ⟨⟨state', tr, sch⟩, hf, h⟩ := Except.bind_eq_ok.mp h
  obtain ⟨tr', htr, h⟩ := Except.bind_eq_ok.mp h
  cases h
  have hmod := orPanic_eq_ok.mp htr
  refine ⟨state, state', tr, ?_, hf, ?_, hmod⟩
  · simp [programState, orPanic_eq_ok.mp hst, orPanic_eq_ok.mp hstate]
  · simp [programState, (InBlockTransitions.modifyState_views hmod).1]

/-- What settling message `m` of user `u` did to program `a`: the message left
the mailbox, `reply` was queued on `queue`, and the claim `{m, u, v}` was
pushed. -/
structure Settled (w w' : World Msg) (a u : ActorId) (m : MessageId) (v : ℕ)
    (queue : MessageType) (reply : Dispatch) : Prop where
  state : ∃ state, w.programState a = some state ∧
    w'.programState a = some ((state.removeMail u m).queue queue reply)
  claims : w'.transitions.claimsOf a = w.transitions.claimsOf a ++ [⟨m, u, v⟩]

section

variable {w w' : World Msg} {a u : ActorId} {m : MessageId} {state : ProgramState}
  {msg : MailboxMessage} {expiry : ℕ}

/-- A claim of a message in the mailbox settles it, removes its expiry task
and adds its value to the value to receive. -/
theorem valueClaimingRequested_settles (hs : w.programState a = some state)
    (hm : state.mailbox.lookup (u, m) = some ⟨msg, expiry⟩)
    (h : w.valueClaimingRequested hashOf a m u = .ok w') :
    Settled w w' a u m msg.value .canonical (.reply m u [] 0 .auto .canonical false) ∧
      w.schedule.removeTask expiry (.removeFromMailbox a u m) = .ok w'.schedule ∧
      w'.transitions.valueToReceiveOf a = w.transitions.valueToReceiveOf a + msg.value := by
  obtain ⟨state₀, state', tr, hs₀, hf, hs', hmod⟩ := updateState_eq_ok hashOf h
  rw [hs] at hs₀
  cases hs₀
  rw [hm] at hf
  obtain ⟨t₁, ht₁, hf⟩ := Except.bind_eq_ok.mp hf
  obtain ⟨s₁, hs₁, hf⟩ := Except.bind_eq_ok.mp hf
  cases hf
  have hclaim := InBlockTransitions.claimValue_views (orPanic_eq_ok.mp ht₁)
  have hviews := InBlockTransitions.modifyState_views hmod
  refine ⟨⟨⟨state, hs, hs'⟩, ?_⟩, hs₁, ?_⟩
  · rw [hviews.2.2, hclaim.2]
  · rw [hviews.2.1, hclaim.1]

/-- A reply to a message in the mailbox settles it as a claim does, with the
user's reply queued. -/
theorem replyQueueingRequested_settles {payload : List UInt8} {value : ℕ}
    (hs : w.programState a = some state)
    (hm : state.mailbox.lookup (u, m) = some ⟨msg, expiry⟩)
    (h : w.replyQueueingRequested hashOf a m u payload value = .ok w') :
    Settled w w' a u m msg.value .canonical (.reply m u payload value .manual .canonical false) ∧
      w.schedule.removeTask expiry (.removeFromMailbox a u m) = .ok w'.schedule ∧
      w'.transitions.valueToReceiveOf a = w.transitions.valueToReceiveOf a + msg.value := by
  obtain ⟨state₀, state', tr, hs₀, hf, hs', hmod⟩ := updateState_eq_ok hashOf h
  rw [hs] at hs₀
  cases hs₀
  rw [hm] at hf
  obtain ⟨t₁, ht₁, hf⟩ := Except.bind_eq_ok.mp hf
  obtain ⟨s₁, hs₁, hf⟩ := Except.bind_eq_ok.mp hf
  obtain ⟨reply, hreply, hf⟩ := Except.bind_eq_ok.mp hf
  cases hf
  -- the payload fits, so the reply is the manual one
  have hr : reply = .reply m u payload value .manual .canonical false := by
    unfold Dispatch.newReply at hreply
    split at hreply
    · cases hreply
      rfl
    · cases hreply
  subst hr
  have hclaim := InBlockTransitions.claimValue_views (orPanic_eq_ok.mp ht₁)
  have hviews := InBlockTransitions.modifyState_views hmod
  refine ⟨⟨⟨state, hs, hs'⟩, ?_⟩, hs₁, ?_⟩
  · rw [hviews.2.2, hclaim.2]
  · rw [hviews.2.1, hclaim.1]

/-- The expiry of a message in the mailbox settles it with an auto reply on
the queue of its type, and leaves the value to receive as it was. -/
theorem removeFromMailbox_settles (hs : w.programState a = some state)
    (hm : state.mailbox.lookup (u, m) = some ⟨msg, expiry⟩)
    (h : w.removeFromMailbox hashOf a u m = .ok w') :
    Settled w w' a u m msg.value msg.messageType (.reply m u [] 0 .auto msg.messageType false) ∧
      w'.schedule = w.schedule ∧
      w'.transitions.valueToReceiveOf a = w.transitions.valueToReceiveOf a := by
  obtain ⟨state₀, state', tr, hs₀, hf, hs', hmod⟩ := updateState_eq_ok hashOf h
  rw [hs] at hs₀
  cases hs₀
  rw [hm] at hf
  obtain ⟨t₁, ht₁, hf⟩ := Except.bind_eq_ok.mp hf
  simp only [Except.ok.injEq, Prod.mk.injEq] at hf
  obtain ⟨rfl, rfl, hsch⟩ := hf
  have hclaim := InBlockTransitions.pushClaim_views (orPanic_eq_ok.mp ht₁)
  have hviews := InBlockTransitions.modifyState_views hmod
  refine ⟨⟨⟨state, hs, hs'⟩, ?_⟩, hsch.symm, ?_⟩
  · rw [hviews.2.2, hclaim.2]
  · rw [hviews.2.1, hclaim.1]

end

theorem settlements_value_to_receive {w w₁ w₂ w₃ : World Msg} {a u : ActorId} {m : MessageId}
    {state : ProgramState} {msg : MailboxMessage} {expiry : ℕ} {payload : List UInt8} {value : ℕ}
    (hs : w.programState a = some state)
    (hm : state.mailbox.lookup (u, m) = some ⟨msg, expiry⟩)
    (h₁ : w.valueClaimingRequested hashOf a m u = .ok w₁)
    (h₂ : w.replyQueueingRequested hashOf a m u payload value = .ok w₂)
    (h₃ : w.removeFromMailbox hashOf a u m = .ok w₃) :
    Settled w w₁ a u m msg.value .canonical (.reply m u [] 0 .auto .canonical false) ∧
    Settled w w₂ a u m msg.value .canonical (.reply m u payload value .manual .canonical false) ∧
    Settled w w₃ a u m msg.value msg.messageType (.reply m u [] 0 .auto msg.messageType false) ∧
    w₁.transitions.valueToReceiveOf a = w.transitions.valueToReceiveOf a + msg.value ∧
    w₂.transitions.valueToReceiveOf a = w.transitions.valueToReceiveOf a + msg.value ∧
    w₃.transitions.valueToReceiveOf a = w.transitions.valueToReceiveOf a := by
  obtain ⟨hset₁, -, hv₁⟩ := valueClaimingRequested_settles hashOf hs hm h₁
  obtain ⟨hset₂, -, hv₂⟩ := replyQueueingRequested_settles hashOf hs hm h₂
  obtain ⟨hset₃, -, hv₃⟩ := removeFromMailbox_settles hashOf hs hm h₃
  exact ⟨hset₁, hset₂, hset₃, hv₁, hv₂, hv₃⟩

/-- Program 1, at state hash 7, whose message 2 of value 1 waits in the
mailbox of user 3 until block 10, and no transition yet. -/
def mailboxedWorld : World Unit where
  transitions := .new (AList.singleton 1 ⟨7, 0, 0⟩)
  schedule := AList.singleton 10 {.removeFromMailbox 1 3 2}
  storage := AList.singleton 7 ⟨[], [], AList.singleton (3, 2) ⟨⟨1, .canonical⟩, 10⟩⟩

theorem settlements_value_to_receive_at_unit_value : ∃ w₁ w₂ w₃,
    mailboxedWorld.valueClaimingRequested (fun _ => 8) 1 2 3 = .ok w₁ ∧
    mailboxedWorld.replyQueueingRequested (fun _ => 8) 1 2 3 [] 0 = .ok w₂ ∧
    mailboxedWorld.removeFromMailbox (fun _ => 8) 1 3 2 = .ok w₃ ∧
    w₁.transitions.valueToReceiveOf 1 = 1 ∧ w₂.transitions.valueToReceiveOf 1 = 1 ∧
    w₃.transitions.valueToReceiveOf 1 = 0 := by
  obtain ⟨w₁, h₁⟩ : ∃ w₁, mailboxedWorld.valueClaimingRequested (fun _ => 8) 1 2 3 = .ok w₁ :=
    ⟨_, rfl⟩
  obtain ⟨w₂, h₂⟩ : ∃ w₂, mailboxedWorld.replyQueueingRequested (fun _ => 8) 1 2 3 [] 0 = .ok w₂ :=
    ⟨_, rfl⟩
  obtain ⟨w₃, h₃⟩ : ∃ w₃, mailboxedWorld.removeFromMailbox (fun _ => 8) 1 3 2 = .ok w₃ := ⟨_, rfl⟩
  obtain ⟨-, -, -, hv₁, hv₂, hv₃⟩ := settlements_value_to_receive (fun _ => 8) rfl rfl h₁ h₂ h₃
  refine ⟨w₁, w₂, w₃, h₁, h₂, h₃, ?_, ?_, ?_⟩
  · rw [hv₁]
    rfl
  · rw [hv₂]
    rfl
  · rw [hv₃]
    rfl

end World

end Gear.Ethexe
