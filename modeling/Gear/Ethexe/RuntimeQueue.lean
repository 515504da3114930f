import Gear.Ethexe.RuntimeJournal

/-!
# The queue of one program — `process_queue_with_report` of `ethexe-runtime-common`

The runtime processes a program's canonical or injected queue in one call. It
reads the queue, fixes the block config of the runtime (a value of 100 per gas,
no reservations), and runs the dispatches in order: each is processed by
`process_dispatch` against the program state and the allowance the ones before
left, and its journal is walked at once by a fresh `RuntimeJournalHandler`,
which charges the allowance and the executable balance, writes the program's
pages and allocations and its state hash. The loop breaks on a
`StopProcessing` and as soon as the run's `Limiter` is exhausted. At the end
the gas spent is the allowance the run used up.

`processQueueLoop` is the loop, with its body `dispatchStep`; a run carries
the loop's locals and the effects of `RuntimeInterface` so far: the
allocations storage and the last program state whose hash was written.

`processQueue_accounts` is the accounting of a whole run, for every queue and
every executor that burns within the gas counter it is given: the run never
panics for the accounting, the gas it reports spent is what the allowance
lost, and the last state it writes has an executable balance that, plus the
value of all the gas its report charged, is the balance the run started from.
One dispatch keeps that ledger (`dispatchStep_keeps`, from the shape of
`process_dispatch`'s journals and `RuntimeJournalHandler.handleJournal_charges`),
and the run keeps it by induction on the queue (`processQueueLoop_keeps`).

Scope: the promises of injected messages (`parse_journal_for_injected_dispatch`),
the lazy pages and the forbidden syscalls of the block config are not modelled;
the notes a handler passes on are returned in the mega journal as they are.
-/

namespace Gear.Ethexe.Runtime

open Gear.Processor
open Gear.Message (IdGen)
open Except (Avoids avoids_bind)

/-- `MAX_OUTGOING_MESSAGES_PER_RUN`. -/
def maxOutgoingMessagesPerRun : ℕ := 16

/-- `MAX_OUTGOING_MESSAGES_BYTES_PER_RUN`. -/
def maxOutgoingMessagesBytesPerRun : ℕ := 4 * 1024

/-- `MAX_CALL_REPLIES_PER_RUN`. -/
def maxCallRepliesPerRun : ℕ := 1

/-- The `BlockConfig` of `process_queue_with_report`: the fields processing
reads. -/
def runtimeBlockConfig (costs : ProcessCosts) : BlockConfig :=
  ⟨GasMultiplier.fromValuePerGas 100, costs, 0⟩

/-- The locals of the loop of `process_queue_with_report`, with the effects of
the runtime interface so far. -/
structure QueueRun (H : Type) where
  storage : AllocationsStorage H
  programState : ProgramState H
  gasAllowance : GasAllowanceCounter
  limiter : Limiter
  megaJournal : List (List (JournalNote MessageId ActorId CodeId) × MessageType × Bool)
  report : QueueReport
  /-- The program state of the last `update_state_hash`. -/
  stateWritten : Option (ProgramState H)

/-- The limiter a run starts with. -/
def Limiter.start : Limiter :=
  ⟨maxOutgoingMessagesPerRun, maxOutgoingMessagesBytesPerRun, maxCallRepliesPerRun⟩

/-- The run before the first dispatch. -/
def QueueRun.start {H : Type} (storage : AllocationsStorage H) (programState : ProgramState H)
    (gasAllowance : GasAllowanceCounter) : QueueRun H :=
  ⟨storage, programState, gasAllowance, Limiter.start, [], .empty, none⟩

section Queue

variable {H : Type} [DecidableEq H] [Gear.Memory.IntervalsTreeOps] (gen : IdGen MessageId)
  (actorBytes : ActorId → List UInt8)
  (execute : Executor) (hash : IntervalsTree → H) (pageHash : List UInt8 → H)

/-- The body of the loop of `process_queue_with_report` on one dispatch: the
run after it, and whether the loop goes on. -/
def dispatchStep (blockConfig : BlockConfig) (ctx : ProcessQueueContext) (run : QueueRun H)
    (dispatch : Dispatch) : Except Panic (QueueRun H × Bool) := do
  -- `ctx.gas_allowance` is the counter the handlers charge
  let journal ← processDispatch gen actorBytes run.storage execute dispatch blockConfig
    run.programState { ctx with gasAllowance := run.gasAllowance }
  let handler : RuntimeJournalHandler H :=
    { storage := run.storage
      programState := run.programState
      gasAllowanceCounter := run.gasAllowance
      gasMultiplier := blockConfig.gasMultiplier
      messageType := ctx.queueType
      isFirstExecution := dispatch.context.isNone
      stopProcessing := false
      callReply := dispatch.call
      limiter := run.limiter }
  let (handler, unhandled, newState, dispatchReport) ←
    handler.handleJournalWithReport hash pageHash journal
  .ok ({ storage := handler.storage
         programState := handler.programState
         gasAllowance := handler.gasAllowanceCounter
         limiter := handler.limiter
         megaJournal := run.megaJournal ++ [(unhandled, dispatch.messageType, dispatch.call)]
         report := run.report.extend dispatchReport
         stateWritten := newState.or run.stateWritten },
    -- the loop breaks on a `StopProcessing` and once a limit is reached
    !handler.stopProcessing && handler.limiter.status == .withinLimits)

/-- The `for` loop of `process_queue_with_report` over the queue. -/
def processQueueLoop (blockConfig : BlockConfig) (ctx : ProcessQueueContext) :
    QueueRun H → List Dispatch → Except Panic (QueueRun H)
  | run, [] => .ok run
  | run, dispatch :: queue => do
    let (run, goOn) ← dispatchStep gen actorBytes execute hash pageHash blockConfig ctx run dispatch
    if goOn then processQueueLoop blockConfig ctx run queue else .ok run

/-- `process_queue_with_report`: the run at its end, whose mega journal and
report the code returns, and the gas spent. `queueHash` gives the hash of the
program's queue of each type, `messageQueue` reads a queue by its hash. -/
def processQueueWithReport (costs : ProcessCosts) (messageQueue : H → Option (List Dispatch))
    (queueHash : MessageType → Option H) (ctx : ProcessQueueContext)
    (programState : ProgramState H) (storage : AllocationsStorage H) :
    Except Panic (QueueRun H × ℕ) :=
  match queueHash ctx.queueType with
  -- an empty queue: nothing to process
  | none => .ok (.start storage programState ctx.gasAllowance, 0)
  | some h => do
    let queue ← expect (messageQueue h) .cannotGetMessageQueue
    let run ← processQueueLoop gen actorBytes execute hash pageHash (runtimeBlockConfig costs) ctx
      (.start storage programState ctx.gasAllowance) queue
    let gasSpent ← expect (checkedSub ctx.gasAllowance.value run.gasAllowance.value)
      .cannotSpendMoreGasThanAllowed
    .ok (run, gasSpent)

end Queue

/-! ## The accounting of a run -/

/-- The ledger of a run that started from the executable balance `balance`
and the allowance `allowance`: the balance left plus the value of the gas the
report charged is `balance`, the allowance was only charged, and the state
last written is the state in memory. -/
structure QueueRun.Ledger {H : Type} (m : GasMultiplier) (balance allowance : ℕ)
    (run : QueueRun H) : Prop where
  balance : run.programState.executableBalance + spentOf m run.report.gasBurned = balance
  allowance : run.gasAllowance.value ≤ allowance
  written : ∀ s, run.stateWritten = some s → s = run.programState

theorem QueueRun.ledger_start {H : Type} (m : GasMultiplier) (storage : AllocationsStorage H)
    (programState : ProgramState H) (gasAllowance : GasAllowanceCounter) :
    (QueueRun.start storage programState gasAllowance).Ledger m programState.executableBalance
      gasAllowance.value :=
  ⟨by simp [QueueRun.start, QueueReport.empty], le_rfl, fun _ h => by cases h⟩

section Accounting

variable {H : Type} [DecidableEq H] [Gear.Memory.IntervalsTreeOps] (gen : IdGen MessageId)
  (actorBytes : ActorId → List UInt8)
  (execute : Executor) (hash : IntervalsTree → H) (pageHash : List UInt8 → H)

/-- One dispatch keeps the ledger: its journal has the plan, its gas is what
the balance buys, so the handler charges the balance the value of the gas and
writes the state. -/
theorem dispatchStep_keeps (hexec : execute.BurnsWithin) (blockConfig : BlockConfig)
    (ctx : ProcessQueueContext) {balance allowance : ℕ} {run : QueueRun H}
    (hrun : run.Ledger blockConfig.gasMultiplier balance allowance) (dispatch : Dispatch) :
    Avoids Accounting (fun r => r.1.Ledger blockConfig.gasMultiplier balance allowance)
      (dispatchStep gen actorBytes execute hash pageHash blockConfig ctx run dispatch) := by
  unfold dispatchStep
  refine avoids_bind (processDispatch_accounts gen actorBytes run.storage execute hexec)
    fun journal ⟨g, hg, burned, hle, hshape⟩ => ?_
  refine avoids_bind (RuntimeJournalHandler.handleJournal_charges hash pageHash _ hshape hg
    (hle.trans (min_le_left _ _))) fun r hr => ?_
  obtain ⟨h, unhandled, newState, dispatchReport⟩ := r
  obtain ⟨hb, ha, hw⟩ := hr
  refine ⟨?_, ha.trans hrun.allowance, fun s hs => ?_⟩
  · -- the charges of this dispatch come on top of those before it
    have hb₀ := hrun.balance
    simp only [QueueReport.extend, spentOf_append] at hb ⊢
    omega
  · -- the handler wrote the state it leaves
    dsimp only at hw hs ⊢
    rw [hw, Option.some_or, Option.some.injEq] at hs
    exact hs.symm

/-- The whole loop keeps the ledger, by induction on the queue. -/
theorem processQueueLoop_keeps (hexec : execute.BurnsWithin) (blockConfig : BlockConfig)
    (ctx : ProcessQueueContext) {balance allowance : ℕ} (queue : List Dispatch) {run : QueueRun H}
    (hrun : run.Ledger blockConfig.gasMultiplier balance allowance) :
    Avoids Accounting (QueueRun.Ledger blockConfig.gasMultiplier balance allowance)
      (processQueueLoop gen actorBytes execute hash pageHash blockConfig ctx run queue) := by
  induction queue generalizing run with
  | nil => exact hrun
  | cons dispatch queue ih =>
    refine avoids_bind (dispatchStep_keeps gen actorBytes execute hash pageHash hexec blockConfig
      ctx hrun dispatch) fun ⟨run', goOn⟩ hrun' => ?_
    -- the run goes on or breaks; either way it ends with the ledger kept
    cases goOn
    · exact hrun'
    · exact ih hrun'

/-- The accounting of `process_queue_with_report`, for every queue of every
program and every executor that burns within its gas counter: the run never
panics for the accounting; the gas it reports spent is what the allowance
lost; and the state it last writes has an executable balance that, plus the
value of the gas its report charged, is the balance it started from. -/
theorem processQueue_accounts (hexec : execute.BurnsWithin) (costs : ProcessCosts)
    (messageQueue : H → Option (List Dispatch)) (queueHash : MessageType → Option H)
    (ctx : ProcessQueueContext) (programState : ProgramState H) (storage : AllocationsStorage H) :
    Avoids Accounting (fun r =>
        r.2 + r.1.gasAllowance.value = ctx.gasAllowance.value ∧
        ∀ s, r.1.stateWritten = some s →
          s.executableBalance + spentOf (GasMultiplier.fromValuePerGas 100) r.1.report.gasBurned =
            programState.executableBalance)
      (processQueueWithReport gen actorBytes execute hash pageHash costs messageQueue queueHash
        ctx programState storage) := by
  unfold processQueueWithReport
  split
  · exact ⟨by simp [QueueRun.start], fun s hs => by cases hs⟩
  · refine avoids_bind (avoids_expect (by simp [Accounting])) fun queue _ => ?_
    refine avoids_bind (processQueueLoop_keeps gen actorBytes execute hash pageHash hexec
      (runtimeBlockConfig costs) ctx queue (QueueRun.ledger_start _ _ _ _)) fun run hrun => ?_
    -- the allowance was only charged, so the gas spent does not underflow
    have hle := hrun.allowance
    simp only [expect, checkedSub, if_pos hle, Except.ok_bind]
    refine ⟨Nat.sub_add_cancel hle, fun s hs => ?_⟩
    rw [hrun.written s hs]
    exact hrun.balance

end Accounting

/-- An executor whose executions all fail for the system burns nothing; on an
exited program with one message queued, the run keeps the ledger. -/
theorem processQueue_accounts_exited :
    let execute : Executor := fun _ => .system
    let costs : ProcessCosts := ⟨⟨0, 0, 0, 0, 0, 0⟩, ⟨0, 0⟩, ⟨0, 0⟩, 0⟩
    let dispatch : Dispatch := ⟨1, .handle, 2, [], 0, none, none, .canonical, false⟩
    let ctx : ProcessQueueContext := ⟨0, .canonical, ⟨1000, by decide⟩, none⟩
    let programState : ProgramState ℕ := ⟨.exited 0, 0, 500⟩
    execute.BurnsWithin ∧
      Avoids Accounting (fun r =>
          r.2 + r.1.gasAllowance.value = ctx.gasAllowance.value ∧
          ∀ s, r.1.stateWritten = some s →
            s.executableBalance + spentOf (GasMultiplier.fromValuePerGas 100) r.1.report.gasBurned =
              programState.executableBalance)
        (processQueueWithReport ⟨fun m n => m + n, fun m => m + 1⟩ (fun _ => []) execute
          (fun _ => 0) (fun _ => 0) costs (fun _ => some [dispatch]) (fun _ => some 0) ctx
          programState ∅) := by
  intro execute costs dispatch ctx programState
  have hexec : execute.BurnsWithin := fun _ => Nat.zero_le _
  exact ⟨hexec, processQueue_accounts _ _ _ _ _ hexec _ _ _ _ _ _⟩

/-! ## The limits of a run -/

/-- What the dispatches of a run took from its limits: the notes each passed
on, for its call reply flag. -/
def runLimitUse
    (megaJournal : List (List (JournalNote MessageId ActorId CodeId) × MessageType × Bool)) :
    ℕ × ℕ × ℕ :=
  (megaJournal.map fun e => limitUse e.2.2 e.1).sum

theorem runLimitUse_concat
    (megaJournal : List (List (JournalNote MessageId ActorId CodeId) × MessageType × Bool))
    (e : List (JournalNote MessageId ActorId CodeId) × MessageType × Bool) :
    runLimitUse (megaJournal ++ [e]) = runLimitUse megaJournal + limitUse e.2.2 e.1 := by
  simp [runLimitUse]

/-- The limits of a run: its limiter is the run's limits less what its
dispatches took, and what all of them but the last took leaves some of each. -/
structure QueueRun.Limited {H : Type} (run : QueueRun H) : Prop where
  limiter : run.limiter = Limiter.start.consume (runLimitUse run.megaJournal)
  beforeLast : Limiter.start.Leaves (runLimitUse run.megaJournal.dropLast)

theorem Limiter.start_leaves_zero : Limiter.start.Leaves 0 := ⟨by decide, by decide, by decide⟩

theorem QueueRun.limited_start {H : Type} (storage : AllocationsStorage H)
    (programState : ProgramState H) (gasAllowance : GasAllowanceCounter) :
    (QueueRun.start storage programState gasAllowance).Limited ∧
      Limiter.start.Leaves (runLimitUse (QueueRun.start storage programState gasAllowance).megaJournal) :=
  ⟨⟨rfl, Limiter.start_leaves_zero⟩, Limiter.start_leaves_zero⟩

section Limits

variable {H : Type} [DecidableEq H] [Gear.Memory.IntervalsTreeOps] (gen : IdGen MessageId)
  (actorBytes : ActorId → List UInt8)
  (execute : Executor) (hash : IntervalsTree → H) (pageHash : List UInt8 → H)

/-- One dispatch, from a run whose dispatches left some of each limit: the
run after it is limited, and the loop goes on only if its dispatches still
leave some of each. -/
theorem dispatchStep_limits (blockConfig : BlockConfig) (ctx : ProcessQueueContext)
    {run : QueueRun H} (hrun : run.Limited)
    (hleaves : Limiter.start.Leaves (runLimitUse run.megaJournal)) (dispatch : Dispatch) :
    Avoids (fun _ => False)
      (fun r => r.1.Limited ∧ (r.2 = true → Limiter.start.Leaves (runLimitUse r.1.megaJournal)))
      (dispatchStep gen actorBytes execute hash pageHash blockConfig ctx run dispatch) := by
  unfold dispatchStep
  refine avoids_bind (Except.avoids_trivial _) fun journal _ => ?_
  refine avoids_bind (RuntimeJournalHandler.handleJournal_limits hash pageHash _ journal)
    fun r hr => ?_
  obtain ⟨h, unhandled, newState, dispatchReport⟩ := r
  dsimp only at hr ⊢
  have hlim : h.limiter = Limiter.start.consume
      (runLimitUse (run.megaJournal ++ [(unhandled, dispatch.messageType, dispatch.call)])) := by
    rw [runLimitUse_concat, Limiter.consume_add, ← hrun.limiter]
    exact hr
  refine ⟨⟨hlim, ?_⟩, fun hgo => ?_⟩
  · rw [List.dropLast_concat]
    exact hleaves
  · -- the loop goes on only while the limiter is within its limits
    simp only [Bool.and_eq_true, Bool.not_eq_true', beq_iff_eq] at hgo
    rw [← Limiter.consume_status, ← hlim]
    exact hgo.2

/-- The whole loop keeps the limits, by induction on the queue. -/
theorem processQueueLoop_limits (blockConfig : BlockConfig) (ctx : ProcessQueueContext)
    (queue : List Dispatch) {run : QueueRun H} (hrun : run.Limited)
    (hleaves : Limiter.start.Leaves (runLimitUse run.megaJournal)) :
    Avoids (fun _ => False) QueueRun.Limited
      (processQueueLoop gen actorBytes execute hash pageHash blockConfig ctx run queue) := by
  induction queue generalizing run with
  | nil => exact hrun
  | cons dispatch queue ih =>
    refine avoids_bind (dispatchStep_limits gen actorBytes execute hash pageHash blockConfig ctx
      hrun hleaves dispatch) fun ⟨run', goOn⟩ ⟨hrun', hgo⟩ => ?_
    -- a run that breaks ends here; one that goes on still leaves some of each limit
    cases goOn
    · exact hrun'
    · exact ih hrun' (hgo rfl)

/-- The limits of `process_queue_with_report`, for every queue: the limiter
it ends with is the run's limits (16 messages, 4096 bytes, one call reply)
less what the notes its dispatches passed on took, and every dispatch but the
last found the run within the limits: the messages, bytes and call replies
all the dispatches before the last passed on are below them. -/
theorem processQueue_within_limits (costs : ProcessCosts)
    (messageQueue : H → Option (List Dispatch)) (queueHash : MessageType → Option H)
    (ctx : ProcessQueueContext) (programState : ProgramState H) (storage : AllocationsStorage H) :
    Avoids (fun _ => False) (fun r =>
        r.1.limiter = Limiter.start.consume (runLimitUse r.1.megaJournal) ∧
        Limiter.start.Leaves (runLimitUse r.1.megaJournal.dropLast))
      (processQueueWithReport gen actorBytes execute hash pageHash costs messageQueue queueHash
        ctx programState storage) := by
  have hstart := QueueRun.limited_start storage programState ctx.gasAllowance
  unfold processQueueWithReport
  split
  · exact ⟨hstart.1.limiter, hstart.1.beforeLast⟩
  · refine avoids_bind (Except.avoids_trivial _) fun queue _ => ?_
    refine avoids_bind (processQueueLoop_limits gen actorBytes execute hash pageHash _ ctx queue
      hstart.1 hstart.2) fun run hrun => ?_
    exact avoids_bind (Except.avoids_trivial _) fun _ _ => ⟨hrun.limiter, hrun.beforeLast⟩

end Limits

/-! ## The order of a run -/

/-- The mega journal of a run against the queue it ran: its entries are, in
order, those of the queue's first dispatches, each with the dispatch's type
and call flag, each passing on notes that end by consuming or waiting its
message; only the last entry may instead be the `StopProcessing` of its
message alone. -/
inductive RunsOn :
    List Dispatch → List (List (JournalNote MessageId ActorId CodeId) × MessageType × Bool) → Prop
  | nil (queue : List Dispatch) : RunsOn queue []
  | stop (d : Dispatch) (queue : List Dispatch) (sd : StoredDispatch MessageId ActorId)
      (burned : ℕ) (hid : sd.message.id = d.id) :
      RunsOn (d :: queue) [([.stopProcessing sd burned], d.messageType, d.call)]
  | next (d : Dispatch) (queue : List Dispatch) (notes : List (JournalNote MessageId ActorId CodeId))
      (entries : List (List (JournalNote MessageId ActorId CodeId) × MessageType × Bool))
      (hnotes : RuntimeJournalHandler.PassedOn d.id notes) (hrest : RunsOn queue entries) :
      RunsOn (d :: queue) ((notes, d.messageType, d.call) :: entries)

section Order

variable {H : Type} [DecidableEq H] [Gear.Memory.IntervalsTreeOps] (gen : IdGen MessageId)
  (actorBytes : ActorId → List UInt8)
  (execute : Executor) (hash : IntervalsTree → H) (pageHash : List UInt8 → H)

/-- One dispatch adds one entry to the mega journal: notes that consume or
wait its message, or its `StopProcessing` alone, after which the loop
breaks. -/
theorem dispatchStep_passesOn (hexec : execute.BurnsWithin) (blockConfig : BlockConfig)
    (ctx : ProcessQueueContext) (run : QueueRun H) (dispatch : Dispatch) :
    Avoids (fun _ => False) (fun r =>
        (∃ notes, RuntimeJournalHandler.PassedOn dispatch.id notes ∧
          r.1.megaJournal = run.megaJournal ++ [(notes, dispatch.messageType, dispatch.call)]) ∨
        ∃ (sd : StoredDispatch MessageId ActorId) (burned : ℕ), sd.message.id = dispatch.id ∧
          r.1.megaJournal = run.megaJournal ++
            [([.stopProcessing sd burned], dispatch.messageType, dispatch.call)] ∧ r.2 = false)
      (dispatchStep gen actorBytes execute hash pageHash blockConfig ctx run dispatch) := by
  unfold dispatchStep
  refine avoids_bind ((processDispatch_accounts gen actorBytes run.storage execute hexec).weaken
    fun _ => False.elim) fun journal ⟨_, _, burned, _, hshape⟩ => ?_
  refine avoids_bind (RuntimeJournalHandler.handleJournal_passesOn hash pageHash _ hshape)
    fun r hr => ?_
  obtain ⟨h, unhandled, newState, dispatchReport⟩ := r
  dsimp only at hr ⊢
  rcases hr with hpassed | ⟨sd, hid, hnotes, hstop⟩
  · exact .inl ⟨unhandled, hpassed, rfl⟩
  · -- a stop ends the loop
    refine .inr ⟨sd, burned, hid, by rw [hnotes], ?_⟩
    simp [hstop]

/-- The loop adds to the mega journal the entries of the queue it runs, in
order, by induction on the queue. -/
theorem processQueueLoop_runsOn (hexec : execute.BurnsWithin) (blockConfig : BlockConfig)
    (ctx : ProcessQueueContext) (queue : List Dispatch) (run : QueueRun H) :
    Avoids (fun _ => False)
      (fun run' => ∃ entries, run'.megaJournal = run.megaJournal ++ entries ∧ RunsOn queue entries)
      (processQueueLoop gen actorBytes execute hash pageHash blockConfig ctx run queue) := by
  induction queue generalizing run with
  | nil => exact ⟨[], (List.append_nil _).symm, .nil _⟩
  | cons dispatch queue ih =>
    refine avoids_bind (dispatchStep_passesOn gen actorBytes execute hash pageHash hexec
      blockConfig ctx run dispatch) fun ⟨run₁, goOn⟩ hstep => ?_
    rcases hstep with ⟨notes, hnotes, hmega⟩ | ⟨sd, burned, hid, hmega, hgo⟩
    · -- the dispatch was done with; the loop goes on or breaks after it
      cases goOn
      · exact ⟨_, hmega, .next _ _ _ _ hnotes (.nil _)⟩
      · refine (ih run₁).mono fun run₂ ⟨entries, hmega₂, hrest⟩ => ?_
        exact ⟨_, by rw [hmega₂, hmega, List.append_assoc, List.singleton_append],
          .next _ _ _ _ hnotes hrest⟩
    · -- the dispatch stopped the loop
      cases hgo
      exact ⟨_, hmega, .stop _ _ sd burned hid⟩

/-- The order of `process_queue_with_report`, for every queue and every
executor that burns within its gas counter: the mega journal it returns is,
entry by entry, that of the queue's first dispatches, in the queue's order,
each entry with its dispatch's type and call flag and passing on notes that
end by consuming or waiting that dispatch's message; only the last entry may
instead be the `StopProcessing` of its message alone. -/
theorem processQueue_runs_in_order (hexec : execute.BurnsWithin) (costs : ProcessCosts)
    (messageQueue : H → Option (List Dispatch)) (queueHash : MessageType → Option H)
    (ctx : ProcessQueueContext) (programState : ProgramState H) (storage : AllocationsStorage H) :
    Avoids (fun _ => False) (fun r => ∀ h queue, queueHash ctx.queueType = some h →
        messageQueue h = some queue → RunsOn queue r.1.megaJournal)
      (processQueueWithReport gen actorBytes execute hash pageHash costs messageQueue queueHash
        ctx programState storage) := by
  unfold processQueueWithReport
  split
  · -- an empty queue: no entries
    exact fun _ _ _ _ => .nil _
  · rename_i h₀ hhash
    cases hq₀ : messageQueue h₀ with
    | none => simp [expect]
    | some queue =>
      simp only [expect, Except.ok_bind]
      refine avoids_bind (processQueueLoop_runsOn gen actorBytes execute hash pageHash hexec _ ctx
        queue _) fun run hrun => ?_
      obtain ⟨entries, hmega, hruns⟩ := hrun
      refine avoids_bind (Except.avoids_trivial _) fun _ _ => ?_
      intro h queue' hh hq
      -- the queue read is the one the loop ran, from a run with no entries yet
      rw [hhash, Option.some.injEq] at hh
      subst hh
      rw [hq₀, Option.some.injEq] at hq
      subst hq
      rw [hmega]
      exact hruns

end Order

/-- The one message queued for an exited program is run first. -/
theorem processQueue_runs_in_order_exited :
    let execute : Executor := fun _ => .system
    let costs : ProcessCosts := ⟨⟨0, 0, 0, 0, 0, 0⟩, ⟨0, 0⟩, ⟨0, 0⟩, 0⟩
    let dispatch : Dispatch := ⟨1, .handle, 2, [], 0, none, none, .canonical, false⟩
    let messageQueue : ℕ → Option (List Dispatch) := fun _ => some [dispatch]
    let queueHash : MessageType → Option ℕ := fun _ => some 0
    let ctx : ProcessQueueContext := ⟨0, .canonical, ⟨1000, by decide⟩, none⟩
    execute.BurnsWithin ∧
      Avoids (fun _ => False) (fun r => ∀ h queue, queueHash ctx.queueType = some h →
          messageQueue h = some queue → RunsOn queue r.1.megaJournal)
        (processQueueWithReport ⟨fun m n => m + n, fun m => m + 1⟩ (fun _ => []) execute
          (fun _ => 0) (fun _ => 0) costs messageQueue queueHash ctx ⟨.exited 0, 0, 500⟩ ∅) := by
  intro execute costs dispatch messageQueue queueHash ctx
  have hexec : execute.BurnsWithin := fun _ => Nat.zero_le _
  exact ⟨hexec, processQueue_runs_in_order _ _ _ _ _ hexec costs messageQueue queueHash ctx _ _⟩

end Gear.Ethexe.Runtime
