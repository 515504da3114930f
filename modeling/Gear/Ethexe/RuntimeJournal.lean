import Gear.Ethexe.Runtime

/-!
# The runtime's journal handler — `RuntimeJournalHandler` of `ethexe-runtime-common`

Right after `process_dispatch`, the runtime walks the journal once with
`handle_journal_with_report`. It applies there only what changes the program's
own state record: a `MessageDispatched` marks a program initialised or
terminated, a `GasBurned` charges the block's allowance and the program's
executable balance, a `StopProcessing` charges the allowance and stops the
queue, and the pages and allocations notes are gathered and applied once the
walk is over. Every other note is passed on, unhandled, to the handler of the
block (`NativeJournalHandler`), which is not part of this model; on the way a
`SendDispatch` lowers the run's `Limiter`, and the messages of an injected
message whose panic is not charged are dropped with it.

The executable balance pays for the gas at the rate of the block's
`GasMultiplier`; an underflow there panics. `handleJournal_charges` says what
one walk does to the balance on any journal with the plan of
`Gear.Processor.Shaped`: the single `GasBurned` is the walk's first note, it is
charged against the balance the message was given its gas from, and when that
gas fits what the balance buys, the charge never underflows and takes exactly
its value.

The `BTreeMap`s the walk fills are lists of entries in key order, kept by
`btreeInsert`. The hash a write of page data returns is a function `pageHash`
of the data; the program state written at the end is returned as it is.
-/

namespace Gear.Ethexe.Runtime

open Gear.Processor

/-! ## The limiter and the report -/

/-- `Limiter`: what the rest of the run may still send. -/
structure Limiter where
  outgoingMessages : ℕ
  outgoingMessagesBytes : ℕ
  callReplies : ℕ

/-- `LimitsStatus`. -/
inductive LimitsStatus
  | withinLimits
  | outgoingMessagesLimitExceeded
  | outgoingMessagesBytesLimitExceeded
  | callRepliesLimitExceeded
deriving DecidableEq, Repr

/-- `Limiter::status`. -/
def Limiter.status (l : Limiter) : LimitsStatus :=
  if l.outgoingMessages = 0 then .outgoingMessagesLimitExceeded
  else if l.outgoingMessagesBytes = 0 then .outgoingMessagesBytesLimitExceeded
  else if l.callReplies = 0 then .callRepliesLimitExceeded
  else .withinLimits

/-- `RuntimeDispatchReport`. -/
structure DispatchReport where
  messageId : MessageId
  source : ActorId
  outcome : DispatchOutcome ActorId (ProcessErrorCase ActorId)

/-- `RuntimeGasBurnReport`. -/
structure GasBurnReport where
  messageId : MessageId
  amount : ℕ
  chargedToExecutableBalance : Bool

/-- `RuntimeQueueReport`. -/
structure QueueReport where
  dispatched : List DispatchReport
  gasBurned : List GasBurnReport

/-- `RuntimeQueueReport::default`. -/
def QueueReport.empty : QueueReport := ⟨[], []⟩

/-- `RuntimeQueueReport::extend`. -/
def QueueReport.extend (r other : QueueReport) : QueueReport :=
  ⟨r.dispatched ++ other.dispatched, r.gasBurned ++ other.gasBurned⟩

/-! ## `BTreeMap`s in key order -/

/-- `BTreeMap::insert` on its entries in key order. -/
def btreeInsert {V : Type} (k : ℕ) (v : V) : List (ℕ × V) → List (ℕ × V)
  | [] => [(k, v)]
  | (k', v') :: rest =>
    if k < k' then (k, v) :: (k', v') :: rest
    else if k = k' then (k, v) :: rest
    else (k', v') :: btreeInsert k v rest

/-- `entry(k).or_insert_with(BTreeMap::new).insert(k₂, v)`. -/
def btreeEntryInsert {V : Type} (k k₂ : ℕ) (v : V) :
    List (ℕ × List (ℕ × V)) → List (ℕ × List (ℕ × V))
  | [] => [(k, [(k₂, v)])]
  | (k', m) :: rest =>
    if k < k' then (k, [(k₂, v)]) :: (k', m) :: rest
    else if k = k' then (k, btreeInsert k₂ v m) :: rest
    else (k', m) :: btreeEntryInsert k k₂ v rest

/-! ## The handler -/

/-- `RuntimeJournalHandler`; `storage` holds the allocations by hash. -/
structure RuntimeJournalHandler (H : Type) where
  storage : AllocationsStorage H
  programState : ProgramState H
  gasAllowanceCounter : GasAllowanceCounter
  gasMultiplier : GasMultiplier
  messageType : MessageType
  isFirstExecution : Bool
  stopProcessing : Bool
  callReply : Bool
  limiter : Limiter

/-- The locals of `handle_journal_with_report` along its walk. -/
structure Walk where
  pageUpdates : List (ActorId × List (ℕ × List UInt8))
  allocationsUpdate : List (ActorId × IntervalsTree)
  skippedNotes : ℕ
  messagesToSkip : Finset MessageId
  report : QueueReport
  filtered : List (JournalNote MessageId ActorId CodeId)

/-- The walk before its first note. -/
def Walk.empty : Walk := ⟨[], [], 0, ∅, .empty, []⟩

/-- The gear page of a page number, which `MemoryPages::page_region` indexes
its sixteen regions with. -/
def toGearPage (page : ℕ) : Except Panic GearPage :=
  if h : page < maxPages then .ok ⟨page, h⟩ else .error .regionIndexOutOfBounds

namespace RuntimeJournalHandler

variable {H : Type} [DecidableEq H] [Gear.Memory.IntervalsTreeOps] (hash : IntervalsTree → H)
  (pageHash : List UInt8 → H)

/-- `message_dispatched`: an init that succeeded marks the program initialised,
one that failed terminates it. -/
def messageDispatched (h : RuntimeJournalHandler H)
    (outcome : DispatchOutcome ActorId (ProcessErrorCase ActorId)) :
    Except Panic (RuntimeJournalHandler H) :=
  match outcome with
  | .initSuccess _ =>
    match h.programState.program with
    | .active state =>
      if state.initialized then .error .alreadyInitialized
      else .ok { h with
        programState := { h.programState with program := .active { state with initialized := true } } }
    | _ => .error .initInactiveProgram
  | .initFailure _ origin _ =>
    .ok { h with programState := { h.programState with program := .terminated origin } }
  | _ => .ok h

/-- `charge_exec_balance`. -/
def chargeExecBalance (h : RuntimeJournalHandler H) (gasBurned : ℕ) :
    Except Panic (RuntimeJournalHandler H) := do
  let spentValue ← expect (h.gasMultiplier.gasToValue gasBurned) .divisionByZero
  let executableBalance ← expect (checkedSub h.programState.executableBalance spentValue)
    .insufficientExecutableBalance
  .ok { h with programState := { h.programState with executableBalance } }

/-- `should_charge_exec_balance_on_panic`. -/
def shouldChargeExecBalanceOnPanic (h : RuntimeJournalHandler H) (gasBurned : ℕ) : Bool :=
  decide (gasBurned > injectedMessagePanicGasChargeThreshold) || h.messageType != .injected ||
    !h.isFirstExecution

/-- The closure of `filter_map` in `handle_journal_with_report`, on one note. -/
def handleNote (hw : RuntimeJournalHandler H × Walk) (note : JournalNote MessageId ActorId CodeId) :
    Except Panic (RuntimeJournalHandler H × Walk) :=
  let (h, w) := hw
  match note with
  | .messageDispatched messageId source outcome => do
    let h ← h.messageDispatched outcome
    .ok (h, { w with
      report := { w.report with dispatched := w.report.dispatched ++ [⟨messageId, source, outcome⟩] } })
  | .updatePage programId pageNumber data =>
    .ok (h, { w with pageUpdates := btreeEntryInsert programId pageNumber data w.pageUpdates })
  | .updateAllocations programId allocations =>
    .ok (h, { w with allocationsUpdate := btreeInsert programId allocations w.allocationsUpdate })
  | .gasBurned messageId amount isPanic =>
    let h := { h with gasAllowanceCounter := (h.gasAllowanceCounter.charge amount).2 }
    -- a panicked injected message below the threshold is not charged
    let charged := !isPanic || h.shouldChargeExecBalanceOnPanic amount
    let w := { w with
      report := { w.report with gasBurned := w.report.gasBurned ++ [⟨messageId, amount, charged⟩] } }
    if charged then do
      let h ← h.chargeExecBalance amount
      .ok (h, w)
    else .ok (h, { w with messagesToSkip := insert messageId w.messagesToSkip })
  | .stopProcessing _ gasBurned =>
    .ok ({ h with
        gasAllowanceCounter := (h.gasAllowanceCounter.charge gasBurned).2
        stopProcessing := true },
      { w with filtered := w.filtered ++ [note] })
  | .sendDispatch messageId dispatch _ _ =>
    if messageId ∈ w.messagesToSkip then .ok (h, w)
    else if dispatch.payload.length < 2 ^ 32 then
      let limiter : Limiter :=
        ⟨h.limiter.outgoingMessages - 1,
          h.limiter.outgoingMessagesBytes - dispatch.payload.length,
          if dispatch.isReply && h.callReply then h.limiter.callReplies - 1
          else h.limiter.callReplies⟩
      .ok ({ h with limiter },
        { w with skippedNotes := w.skippedNotes + 1, filtered := w.filtered ++ [note] })
    else .error .payloadTooBig
  | _ => .ok (h, { w with skippedNotes := w.skippedNotes + 1, filtered := w.filtered ++ [note] })

/-- `update_pages_data`: the data of each page is written, and its hash set
in the program's pages. -/
def updatePagesData (h : RuntimeJournalHandler H) (pagesData : List (ℕ × List UInt8)) :
    Except Panic (RuntimeJournalHandler H) :=
  if pagesData.isEmpty then .ok h
  else
    match h.programState.program with
    | .active state => do
      let pages ← pagesData.mapM fun e => do
        let page ← toGearPage e.1
        .ok (⟨page, pageHash e.2⟩ : Σ _ : GearPage, H)
      .ok { h with programState := { h.programState with
        program := .active { state with
          pagesHash := state.pagesHash.updateAndStoreRegions pages.toAList } } }
    | _ => .error .pagesOfInactiveProgram

/-- `update_allocations`: the allocations are updated through their hash, and
the pages they no longer hold are removed. -/
def updateAllocations (h : RuntimeJournalHandler H) (newAllocations : IntervalsTree) :
    Except Panic (RuntimeJournalHandler H) :=
  match h.programState.program with
  | .active state =>
    match Gear.Ethexe.updateAllocations hash h.storage state.allocationsHash newAllocations with
    | .error _ => .error .modifyAllocations
    | .ok (removedPages, allocationsHash, storage) => do
      let pagesHash ←
        if removedPages.isEmpty then .ok state.pagesHash
        else do
          let pages ← removedPages.mapM toGearPage
          .ok (state.pagesHash.removeAndStoreRegions pages)
      .ok { h with
        storage
        programState := { h.programState with
          program := .active { state with allocationsHash, pagesHash } } }
  | _ => .error .allocationsOfInactiveProgram

/-- `handle_journal_with_report`: the notes passed on, the program state
written when a note was handled here, and the report. -/
def handleJournalWithReport (h : RuntimeJournalHandler H)
    (journal : List (JournalNote MessageId ActorId CodeId)) :
    Except Panic (RuntimeJournalHandler H × List (JournalNote MessageId ActorId CodeId) ×
      Option (ProgramState H) × QueueReport) := do
  let (h, w) ← journal.foldlM handleNote (h, .empty)
  let h ← w.pageUpdates.foldlM (fun h e => h.updatePagesData pageHash e.2) h
  let h ← w.allocationsUpdate.foldlM (fun h e => h.updateAllocations hash e.2) h
  .ok (h, w.filtered, if journal.length ≠ w.skippedNotes then some h.programState else none,
    w.report)

end RuntimeJournalHandler

/-! ## What a walk does to the executable balance -/

/-- The value the gas of a report took from the executable balance: the value
of each amount charged to it. -/
def spentOf (m : GasMultiplier) (l : List GasBurnReport) : ℕ :=
  ((l.filter (·.chargedToExecutableBalance)).map fun r => (m.gasToValue r.amount).getD 0).sum

@[simp] theorem spentOf_nil (m : GasMultiplier) : spentOf m [] = 0 := rfl

theorem spentOf_append (m : GasMultiplier) (l l' : List GasBurnReport) :
    spentOf m (l ++ l') = spentOf m l + spentOf m l' := by
  simp [spentOf, List.filter_append]

theorem spentOf_singleton (m : GasMultiplier) (r : GasBurnReport) :
    spentOf m [r] = if r.chargedToExecutableBalance then (m.gasToValue r.amount).getD 0 else 0 := by
  cases hr : r.chargedToExecutableBalance <;> simp [spentOf, hr]

/-! ## What a walk takes from the limits -/

/-- What passing a note on takes from the run's limits, for a handler of a
call or not: a `SendDispatch` takes a message, the bytes of its payload, and a
call reply when it sends a reply of a call. -/
def noteLimitUse (callReply : Bool) : JournalNote MessageId ActorId CodeId → ℕ × ℕ × ℕ
  | .sendDispatch _ dispatch _ _ =>
    (1, dispatch.payload.length, if dispatch.isReply && callReply then 1 else 0)
  | _ => 0

/-- What the notes passed on take from the limits. -/
def limitUse (callReply : Bool) (notes : List (JournalNote MessageId ActorId CodeId)) :
    ℕ × ℕ × ℕ :=
  (notes.map (noteLimitUse callReply)).sum

theorem limitUse_append (callReply : Bool) (l l' : List (JournalNote MessageId ActorId CodeId)) :
    limitUse callReply (l ++ l') = limitUse callReply l + limitUse callReply l' := by
  simp [limitUse]

theorem limitUse_singleton (callReply : Bool) (n : JournalNote MessageId ActorId CodeId) :
    limitUse callReply [n] = noteLimitUse callReply n := by
  simp [limitUse]

/-- The limiter less a use, saturating at zero as `saturating_sub` does. -/
def Limiter.consume (l : Limiter) (use : ℕ × ℕ × ℕ) : Limiter :=
  ⟨l.outgoingMessages - use.1, l.outgoingMessagesBytes - use.2.1, l.callReplies - use.2.2⟩

@[simp] theorem Limiter.consume_zero (l : Limiter) : l.consume 0 = l := rfl

theorem Limiter.consume_add (l : Limiter) (u v : ℕ × ℕ × ℕ) :
    l.consume (u + v) = (l.consume u).consume v := by
  simp [Limiter.consume, Nat.sub_sub]

/-- A use that leaves some of each limit. -/
def Limiter.Leaves (l : Limiter) (use : ℕ × ℕ × ℕ) : Prop :=
  use.1 < l.outgoingMessages ∧ use.2.1 < l.outgoingMessagesBytes ∧ use.2.2 < l.callReplies

/-- The limiter less a use is within its limits exactly when the use leaves
some of each. -/
theorem Limiter.consume_status {l : Limiter} {use : ℕ × ℕ × ℕ} :
    (l.consume use).status = .withinLimits ↔ l.Leaves use := by
  unfold Limiter.status Limiter.consume Limiter.Leaves
  split_ifs <;> simp_all <;> omega

namespace RuntimeJournalHandler

variable {H : Type}

open Except

/-- A handler that kept the executable balance and charged the allowance no
more: what every call of the walk but a `GasBurned` leaves. -/
def Frame (h h' : RuntimeJournalHandler H) : Prop :=
  h'.programState.executableBalance = h.programState.executableBalance ∧
    h'.gasAllowanceCounter.value ≤ h.gasAllowanceCounter.value

theorem allowance_charge_le (c : GasAllowanceCounter) (amount : ℕ) :
    (c.charge amount).2.value ≤ c.value := by
  unfold GasAllowanceCounter.charge
  split <;> simp

theorem Frame.refl (h : RuntimeJournalHandler H) : Frame h h := ⟨rfl, le_rfl⟩

theorem Frame.trans {h h' h'' : RuntimeJournalHandler H} (h₁ : Frame h h') (h₂ : Frame h' h'') :
    Frame h h'' :=
  ⟨h₂.1.trans h₁.1, h₂.2.trans h₁.2⟩

/-- What the calls that write the program leave of the handler: they change
the program's status, pages and allocations and the storage, nothing else. -/
structure WritesProgram (h h' : RuntimeJournalHandler H) : Prop where
  executableBalance : h'.programState.executableBalance = h.programState.executableBalance
  gasAllowanceCounter : h'.gasAllowanceCounter = h.gasAllowanceCounter
  limiter : h'.limiter = h.limiter
  callReply : h'.callReply = h.callReply
  stopProcessing : h'.stopProcessing = h.stopProcessing

theorem WritesProgram.refl (h : RuntimeJournalHandler H) : WritesProgram h h :=
  ⟨rfl, rfl, rfl, rfl, rfl⟩

theorem WritesProgram.trans {h h' h'' : RuntimeJournalHandler H} (h₁ : WritesProgram h h')
    (h₂ : WritesProgram h' h'') : WritesProgram h h'' :=
  ⟨h₂.1.trans h₁.1, h₂.2.trans h₁.2, h₂.3.trans h₁.3, h₂.4.trans h₁.4, h₂.5.trans h₁.5⟩

theorem WritesProgram.frame {h h' : RuntimeJournalHandler H} (hw : WritesProgram h h') :
    Frame h h' :=
  ⟨hw.executableBalance, (congrArg GasAllowanceCounter.value hw.gasAllowanceCounter).le⟩

variable (hash : IntervalsTree → H) (pageHash : List UInt8 → H)

theorem avoids_toGearPage (page : ℕ) : Avoids Accounting (fun _ => True) (toGearPage page) := by
  unfold toGearPage
  split
  · trivial
  · simp [Accounting]

theorem messageDispatched_writes (h : RuntimeJournalHandler H)
    (outcome : DispatchOutcome ActorId (ProcessErrorCase ActorId)) :
    Avoids Accounting (WritesProgram h) (h.messageDispatched outcome) := by
  unfold messageDispatched
  split
  · split
    · split
      · simp [Accounting]
      · exact avoids_ok.2 ⟨rfl, rfl, rfl, rfl, rfl⟩
    · simp [Accounting]
  · exact avoids_ok.2 ⟨rfl, rfl, rfl, rfl, rfl⟩
  · exact WritesProgram.refl h

theorem updatePagesData_writes (h : RuntimeJournalHandler H) (pagesData : List (ℕ × List UInt8)) :
    Avoids Accounting (WritesProgram h) (h.updatePagesData pageHash pagesData) := by
  unfold updatePagesData
  split
  · exact WritesProgram.refl h
  · split
    · -- only a page past the regions can fail
      refine avoids_bind (avoids_mapM _ fun e _ =>
        avoids_bind (avoids_toGearPage e.1) fun _ _ => trivial) fun _ _ =>
          avoids_ok.2 ⟨rfl, rfl, rfl, rfl, rfl⟩
    · simp [Accounting]

/-- Every note but `GasBurned` leaves the balance and the gas report, charges
the allowance no more, and is skipped at most once. -/
theorem handleNote_frame (hw : RuntimeJournalHandler H × Walk)
    {note : JournalNote MessageId ActorId CodeId} (hnote : note.isGasBurned = false) :
    Avoids Accounting (fun hw' => Frame hw.1 hw'.1 ∧
        hw'.2.report.gasBurned = hw.2.report.gasBurned ∧ hw'.2.skippedNotes ≤ hw.2.skippedNotes + 1)
      (handleNote hw note) := by
  obtain ⟨h, w⟩ := hw
  cases note with
  | messageDispatched messageId source outcome =>
    exact avoids_bind (messageDispatched_writes h outcome) fun h' hw => ⟨hw.frame, rfl, Nat.le_succ _⟩
  | gasBurned => cases hnote
  | stopProcessing d gasBurned =>
    exact ⟨⟨rfl, allowance_charge_le _ _⟩, rfl, Nat.le_succ _⟩
  | sendDispatch messageId dispatch delay reservation =>
    simp only [handleNote]
    split
    · exact ⟨Frame.refl h, rfl, Nat.le_succ _⟩
    · split
      · exact ⟨Frame.refl h, rfl, le_rfl⟩
      · simp [Accounting]
  | updatePage => exact ⟨Frame.refl h, rfl, Nat.le_succ _⟩
  | updateAllocations => exact ⟨Frame.refl h, rfl, Nat.le_succ _⟩
  | _ => exact ⟨Frame.refl h, rfl, le_rfl⟩

/-- A run of notes with no `GasBurned` among them keeps the balance and the
gas report, and skips at most its notes. -/
theorem foldlM_handleNote_frame (hw : RuntimeJournalHandler H × Walk)
    (l : List (JournalNote MessageId ActorId CodeId)) (hl : ∀ n ∈ l, n.isGasBurned = false) :
    Avoids Accounting (fun hw' => Frame hw.1 hw'.1 ∧ hw'.2.report.gasBurned = hw.2.report.gasBurned ∧
        hw'.2.skippedNotes ≤ hw.2.skippedNotes + l.length)
      (l.foldlM handleNote hw) := by
  induction l generalizing hw with
  | nil => exact ⟨Frame.refl _, rfl, le_rfl⟩
  | cons n l ih =>
    rw [List.foldlM_cons]
    refine avoids_bind (handleNote_frame hw (hl n (List.mem_cons_self ..))) fun hw₁ ⟨hf, hr, hs⟩ => ?_
    refine (ih hw₁ fun n' hn' => hl n' (List.mem_cons_of_mem _ hn')).mono
      fun hw₂ ⟨hf₂, hr₂, hs₂⟩ => ⟨hf.trans hf₂, hr₂.trans hr, ?_⟩
    simp only [List.length_cons]
    omega

theorem chargeExecBalance_of_le {h : RuntimeJournalHandler H} {gasBurned v : ℕ}
    (hv : h.gasMultiplier.gasToValue gasBurned = some v)
    (hle : v ≤ h.programState.executableBalance) :
    h.chargeExecBalance gasBurned = .ok { h with programState := { h.programState with
      executableBalance := h.programState.executableBalance - v } } := by
  simp only [chargeExecBalance, hv, expect, Except.ok_bind, checkedSub, if_pos hle]

/-- `GasBurned` of gas that the balance buys: charged, it takes the value of
the gas from the balance and books it in the report; not charged, it takes
nothing and books nothing. -/
theorem handleNote_gasBurned (h : RuntimeJournalHandler H) (w : Walk) {id : MessageId}
    {burned g : ℕ} (isPanic : Bool)
    (hg : h.gasMultiplier.valueToGas h.programState.executableBalance = some g) (hle : burned ≤ g) :
    Avoids Accounting (fun hw => hw.1.programState.executableBalance +
        spentOf h.gasMultiplier hw.2.report.gasBurned =
          h.programState.executableBalance + spentOf h.gasMultiplier w.report.gasBurned ∧
        hw.1.gasAllowanceCounter.value ≤ h.gasAllowanceCounter.value ∧
        hw.2.skippedNotes = w.skippedNotes)
      (handleNote (h, w) (.gasBurned id burned isPanic)) := by
  obtain ⟨v, hv, hvle⟩ := h.gasMultiplier.gasToValue_le_of_le_valueToGas hg hle
  have hallow := allowance_charge_le h.gasAllowanceCounter burned
  simp only [handleNote]
  split
  case isTrue hc =>
    -- the allowance is charged first; the charge of the balance reads only the rest
    rw [chargeExecBalance_of_le
      (h := { h with gasAllowanceCounter := (h.gasAllowanceCounter.charge burned).2 }) hv hvle,
      Except.ok_bind]
    refine ⟨?_, hallow, rfl⟩
    simp only [spentOf_append, spentOf_singleton, hc, if_true, hv, Option.getD_some]
    omega
  case isFalse hc =>
    rw [Bool.not_eq_true] at hc
    exact ⟨by simp [spentOf_append, spentOf_singleton, hc], hallow, rfl⟩

/-- The end of a `Shaped` journal: notes in the middle, then its last notes,
none of them a `GasBurned`. -/
theorem not_gasBurned_of_mem {body ending : List (JournalNote MessageId ActorId CodeId)}
    (hbody : ∀ n ∈ body, n.IsMiddle) (hending : ∀ n ∈ ending, n.isGasBurned = false) :
    ∀ n ∈ body ++ ending, n.isGasBurned = false := by
  intro n hn
  rcases List.mem_append.1 hn with hn | hn
  · exact (hbody n hn).2
  · exact hending n hn

/-- What one walk does to the executable balance: on a journal with the plan
of `Shaped`, whose gas the balance buys, the walk never underflows the
balance, and what it leaves plus the value of the gas it reports charged is
the balance it started from. It handles the journal's first note here, so it
skips fewer notes than the journal has. -/
theorem walk_charges (h : RuntimeJournalHandler H) {journal : List (JournalNote MessageId ActorId CodeId)}
    {id : MessageId} {source : ActorId} {burned g : ℕ} (hshape : Shaped id source burned journal)
    (hg : h.gasMultiplier.valueToGas h.programState.executableBalance = some g) (hle : burned ≤ g) :
    Avoids Accounting (fun hw => hw.1.programState.executableBalance +
        spentOf h.gasMultiplier hw.2.report.gasBurned = h.programState.executableBalance ∧
        hw.1.gasAllowanceCounter.value ≤ h.gasAllowanceCounter.value ∧
        hw.2.skippedNotes < journal.length)
      (journal.foldlM handleNote (h, .empty)) := by
  cases hshape with
  | stop d hid =>
    -- the stop charges the allowance and is passed on, not skipped
    exact ⟨by simp [Walk.empty, QueueReport.empty], allowance_charge_le _ _, by simp [Walk.empty]⟩
  | wait isPanic body d duration waitedType hbody hid =>
    rw [List.foldlM_cons]
    refine avoids_bind (handleNote_gasBurned h .empty isPanic hg hle) fun hw₁ ⟨hl₁, ha₁, hs₁⟩ => ?_
    refine (foldlM_handleNote_frame hw₁ _ (not_gasBurned_of_mem hbody ?_)).mono
      fun hw ⟨hf, hr, hs⟩ => ?_
    · intro n hn
      rw [List.mem_singleton.1 hn]
      rfl
    · simp only [hr, hf.1]
      refine ⟨by simpa [Walk.empty, QueueReport.empty] using hl₁, hf.2.trans ha₁, ?_⟩
      simp only [hs₁, Walk.empty, List.length_cons] at hs ⊢
      omega
  | consume isPanic body outcome hbody =>
    rw [List.foldlM_cons]
    refine avoids_bind (handleNote_gasBurned h .empty isPanic hg hle) fun hw₁ ⟨hl₁, ha₁, hs₁⟩ => ?_
    refine (foldlM_handleNote_frame hw₁ _ (not_gasBurned_of_mem hbody ?_)).mono
      fun hw ⟨hf, hr, hs⟩ => ?_
    · intro n hn
      simp only [List.mem_cons, List.not_mem_nil, or_false] at hn
      rcases hn with rfl | rfl <;> rfl
    · simp only [hr, hf.1]
      refine ⟨by simpa [Walk.empty, QueueReport.empty] using hl₁, hf.2.trans ha₁, ?_⟩
      simp only [hs₁, Walk.empty, List.length_cons] at hs ⊢
      omega

variable [DecidableEq H] [Gear.Memory.IntervalsTreeOps]

theorem updateAllocations_writes (h : RuntimeJournalHandler H) (newAllocations : IntervalsTree) :
    Avoids Accounting (WritesProgram h) (h.updateAllocations hash newAllocations) := by
  unfold updateAllocations
  split
  · split
    · simp [Accounting]
    · -- the allocations are written; only a removed page past the regions can fail
      dsimp only
      split
      · exact avoids_ok.2 ⟨rfl, rfl, rfl, rfl, rfl⟩
      · exact avoids_bind (avoids_mapM _ fun p _ => avoids_toGearPage p) fun _ _ =>
          avoids_ok.2 ⟨rfl, rfl, rfl, rfl, rfl⟩
  · simp [Accounting]

/-- `handle_journal_with_report` on a journal with the plan of `Shaped`,
whose gas the executable balance buys: it never panics for an underflow of
the balance, and the balance it leaves plus the value of the gas its report
charges is the balance it started from; the allowance is only charged, and
the program state is written. -/
theorem handleJournal_charges (h : RuntimeJournalHandler H)
    {journal : List (JournalNote MessageId ActorId CodeId)} {id : MessageId} {source : ActorId}
    {burned g : ℕ} (hshape : Shaped id source burned journal)
    (hg : h.gasMultiplier.valueToGas h.programState.executableBalance = some g) (hle : burned ≤ g) :
    Avoids Accounting (fun r => r.1.programState.executableBalance +
        spentOf h.gasMultiplier r.2.2.2.gasBurned = h.programState.executableBalance ∧
        r.1.gasAllowanceCounter.value ≤ h.gasAllowanceCounter.value ∧
        r.2.2.1 = some r.1.programState)
      (h.handleJournalWithReport hash pageHash journal) := by
  unfold handleJournalWithReport
  refine avoids_bind (walk_charges h hshape hg hle) fun ⟨h₁, w⟩ ⟨hl₁, ha₁, hs₁⟩ => ?_
  -- the pages and the allocations are applied after the walk and write the program only
  refine avoids_bind (avoids_foldlM_rel WritesProgram.refl WritesProgram.trans
    (fun s (e : ActorId × List (ℕ × List UInt8)) => updatePagesData_writes pageHash s e.2) _ h₁)
    fun h₂ hw₂ => ?_
  refine avoids_bind (avoids_foldlM_rel WritesProgram.refl WritesProgram.trans
    (fun s (e : ActorId × IntervalsTree) => updateAllocations_writes hash s e.2) _ h₂)
    fun h₃ hw₃ => ?_
  have hf := (hw₂.trans hw₃).frame
  exact ⟨by rw [hf.1]; exact hl₁, hf.2.trans ha₁, if_pos (Nat.ne_of_gt hs₁)⟩

/-- The limiter along a walk: the limiter the walk started with, less what
the notes passed on so far take for the handler's call reply flag. -/
structure LimitsKept (limiter : Limiter) (callReply : Bool) (hw : RuntimeJournalHandler H × Walk) :
    Prop where
  limiter : hw.1.limiter = limiter.consume (limitUse callReply hw.2.filtered)
  callReply : hw.1.callReply = callReply

omit [DecidableEq H] [Gear.Memory.IntervalsTreeOps] in
theorem chargeExecBalance_limiter (h : RuntimeJournalHandler H) (gasBurned : ℕ) :
    Avoids (fun _ => False) (fun h' => h'.limiter = h.limiter ∧ h'.callReply = h.callReply)
      (h.chargeExecBalance gasBurned) := by
  unfold chargeExecBalance
  exact avoids_bind (avoids_trivial _) fun _ _ => avoids_bind (avoids_trivial _) fun _ _ =>
    avoids_ok.2 ⟨rfl, rfl⟩

omit [DecidableEq H] [Gear.Memory.IntervalsTreeOps] in
/-- Every note keeps the limiter of the walk: a `SendDispatch` passed on takes
its use from the limiter, every other note passed on takes nothing. -/
theorem handleNote_limits {limiter : Limiter} {callReply : Bool} (hw : RuntimeJournalHandler H × Walk)
    (hkept : LimitsKept limiter callReply hw) (note : JournalNote MessageId ActorId CodeId) :
    Avoids (fun _ => False) (LimitsKept limiter callReply) (handleNote hw note) := by
  obtain ⟨h, w⟩ := hw
  obtain ⟨hl, hc⟩ := hkept
  dsimp only at hl hc
  have hpass : ∀ n, noteLimitUse callReply n = 0 →
      h.limiter = limiter.consume (limitUse callReply (w.filtered ++ [n])) := by
    intro n hn
    rw [limitUse_append, limitUse_singleton, hn, add_zero]
    exact hl
  cases note with
  | messageDispatched messageId source outcome =>
    exact avoids_bind ((messageDispatched_writes h outcome).weaken fun _ => False.elim)
      fun h' hw => ⟨hw.limiter.trans hl, hw.callReply.trans hc⟩
  | gasBurned messageId amount isPanic =>
    simp only [handleNote]
    split
    · exact avoids_bind (chargeExecBalance_limiter _ amount) fun h' hh =>
        ⟨hh.1.trans hl, hh.2.trans hc⟩
    · exact ⟨hl, hc⟩
  | stopProcessing d gasBurned => exact ⟨hpass _ rfl, hc⟩
  | sendDispatch messageId dispatch delay reservation =>
    simp only [handleNote]
    split
    · exact ⟨hl, hc⟩
    · split
      · -- the message is passed on and its use taken from the limiter
        refine avoids_ok.2 ⟨?_, hc⟩
        rw [limitUse_append, limitUse_singleton, Limiter.consume_add, ← hl]
        simp only [noteLimitUse, Limiter.consume, hc]
        split_ifs <;> rfl
      · simp
  | updatePage => exact ⟨hl, hc⟩
  | updateAllocations => exact ⟨hl, hc⟩
  | _ => exact ⟨hpass _ rfl, hc⟩

/-- What `handle_journal_with_report` takes from the limiter, on every journal:
the use of the notes it passes on. -/
theorem handleJournal_limits (h : RuntimeJournalHandler H)
    (journal : List (JournalNote MessageId ActorId CodeId)) :
    Avoids (fun _ => False) (fun r => r.1.limiter = h.limiter.consume (limitUse h.callReply r.2.1))
      (h.handleJournalWithReport hash pageHash journal) := by
  unfold handleJournalWithReport
  refine avoids_bind (avoids_foldlM journal (⟨rfl, rfl⟩ : LimitsKept h.limiter h.callReply (h, .empty))
    fun hw note _ hkept => handleNote_limits hw hkept note) fun ⟨h₁, w⟩ hkept => ?_
  -- the pages and the allocations leave the limiter
  refine avoids_bind ((avoids_foldlM_rel WritesProgram.refl WritesProgram.trans
    (fun s (e : ActorId × List (ℕ × List UInt8)) => updatePagesData_writes pageHash s e.2) _
      h₁).weaken fun _ => False.elim) fun h₂ hw₂ => ?_
  refine avoids_bind ((avoids_foldlM_rel WritesProgram.refl WritesProgram.trans
    (fun s (e : ActorId × IntervalsTree) => updateAllocations_writes hash s e.2) _ h₂).weaken
      fun _ => False.elim) fun h₃ hw₃ => ?_
  exact (hw₂.trans hw₃).limiter.trans hkept.limiter

/-! ## A cheap panic of an injected message is free -/

/-- A `SendDispatch` of the message `id`. -/
def sendOf (id : MessageId) : JournalNote MessageId ActorId CodeId → Bool
  | .sendDispatch messageId _ _ _ => messageId == id
  | _ => false

omit [DecidableEq H] [Gear.Memory.IntervalsTreeOps] in
/-- Once a message is to be skipped it stays so, and none of its dispatches is
passed on. -/
theorem handleNote_skips {id : MessageId} (hw : RuntimeJournalHandler H × Walk)
    (hskip : id ∈ hw.2.messagesToSkip) (hnone : ∀ n ∈ hw.2.filtered, sendOf id n = false)
    (note : JournalNote MessageId ActorId CodeId) :
    Avoids (fun _ => False)
      (fun hw' => id ∈ hw'.2.messagesToSkip ∧ ∀ n ∈ hw'.2.filtered, sendOf id n = false)
      (handleNote hw note) := by
  obtain ⟨h, w⟩ := hw
  dsimp only at hskip hnone
  -- a note passed on that is not a dispatch of the message
  have hpass : ∀ n, sendOf id n = false → ∀ m ∈ w.filtered ++ [n], sendOf id m = false := by
    intro n hn m hm
    rcases List.mem_append.1 hm with hm | hm
    · exact hnone m hm
    · rw [List.mem_singleton.1 hm]
      exact hn
  cases note with
  | messageDispatched messageId source outcome =>
    exact avoids_bind (avoids_trivial _) fun _ _ => ⟨hskip, hnone⟩
  | gasBurned messageId amount isPanic =>
    simp only [handleNote]
    split
    · exact avoids_bind (avoids_trivial _) fun _ _ => ⟨hskip, hnone⟩
    · exact ⟨Finset.mem_insert_of_mem hskip, hnone⟩
  | stopProcessing d gasBurned => exact ⟨hskip, hpass _ rfl⟩
  | sendDispatch messageId dispatch delay reservation =>
    simp only [handleNote]
    split
    · exact ⟨hskip, hnone⟩
    · -- a dispatch passed on is of a message not to be skipped
      rename_i hnot
      have hne : sendOf id (.sendDispatch messageId dispatch delay reservation) = false := by
        simp only [sendOf, beq_eq_false_iff_ne]
        rintro rfl
        exact hnot hskip
      split
      · exact ⟨hskip, hpass _ hne⟩
      · simp
  | updatePage => exact ⟨hskip, hnone⟩
  | updateAllocations => exact ⟨hskip, hnone⟩
  | _ => exact ⟨hskip, hpass _ rfl⟩

omit [DecidableEq H] [Gear.Memory.IntervalsTreeOps] in
theorem foldlM_handleNote_skips {id : MessageId} (hw : RuntimeJournalHandler H × Walk)
    (hskip : id ∈ hw.2.messagesToSkip) (hnone : ∀ n ∈ hw.2.filtered, sendOf id n = false)
    (l : List (JournalNote MessageId ActorId CodeId)) :
    Avoids (fun _ => False)
      (fun hw' => id ∈ hw'.2.messagesToSkip ∧ ∀ n ∈ hw'.2.filtered, sendOf id n = false)
      (l.foldlM handleNote hw) :=
  avoids_foldlM l ⟨hskip, hnone⟩ fun hw' note _ ⟨hskip', hnone'⟩ =>
    handleNote_skips hw' hskip' hnone' note

omit [DecidableEq H] [Gear.Memory.IntervalsTreeOps] in
/-- The `GasBurned` of a panic the handler does not charge: the allowance is
charged, the report books the gas uncharged, and the message is to be
skipped. -/
theorem handleNote_gasBurned_uncharged (h : RuntimeJournalHandler H) (w : Walk) {id : MessageId}
    {amount : ℕ} (hcharge : h.shouldChargeExecBalanceOnPanic amount = false) :
    handleNote (h, w) (.gasBurned id amount true) =
      .ok ({ h with gasAllowanceCounter := (h.gasAllowanceCounter.charge amount).2 },
        { w with
          report := { w.report with gasBurned := w.report.gasBurned ++ [⟨id, amount, false⟩] }
          messagesToSkip := insert id w.messagesToSkip }) := by
  have hcharge' : ({ h with gasAllowanceCounter := (h.gasAllowanceCounter.charge amount).2 } :
      RuntimeJournalHandler H).shouldChargeExecBalanceOnPanic amount = false := hcharge
  simp only [handleNote, Bool.not_true, Bool.false_or, hcharge']
  rfl

/-- A cheap panic of an injected message's first execution is free: on a
journal that starts with the `GasBurned` of a panic of at most
`INJECTED_MESSAGE_PANIC_GAS_CHARGE_THRESHOLD` gas and burns nothing else, the
handler never underflows the executable balance and leaves it as it was, its
report books the gas as not charged, and none of the message's dispatches is
passed on. -/
theorem handleJournal_free_panic (h : RuntimeJournalHandler H) {id : MessageId} {amount : ℕ}
    (hinjected : h.messageType = .injected) (hfirst : h.isFirstExecution = true)
    (hcheap : amount ≤ injectedMessagePanicGasChargeThreshold)
    (rest : List (JournalNote MessageId ActorId CodeId)) (hrest : ∀ n ∈ rest, n.isGasBurned = false) :
    Avoids Accounting (fun r =>
        r.1.programState.executableBalance = h.programState.executableBalance ∧
        r.2.2.2.gasBurned = [⟨id, amount, false⟩] ∧
        ∀ n ∈ r.2.1, sendOf id n = false)
      (h.handleJournalWithReport hash pageHash (.gasBurned id amount true :: rest)) := by
  have hcharge : h.shouldChargeExecBalanceOnPanic amount = false := by
    simp [shouldChargeExecBalanceOnPanic, hinjected, hfirst, hcheap]
  unfold handleJournalWithReport
  rw [List.foldlM_cons, handleNote_gasBurned_uncharged h .empty hcharge, Except.ok_bind]
  -- after the panic nothing is charged, and the message's dispatches are dropped
  refine avoids_bind ((foldlM_handleNote_frame _ rest hrest).and
    (foldlM_handleNote_skips _ (Finset.mem_insert_self id _) (by simp [Walk.empty]) rest))
    fun ⟨h₁, w⟩ ⟨⟨hf₁, hr₁, _⟩, _, hnone⟩ => ?_
  refine avoids_bind (avoids_foldlM_rel WritesProgram.refl WritesProgram.trans
    (fun s (e : ActorId × List (ℕ × List UInt8)) => updatePagesData_writes pageHash s e.2) _ h₁)
    fun h₂ hw₂ => ?_
  refine avoids_bind (avoids_foldlM_rel WritesProgram.refl WritesProgram.trans
    (fun s (e : ActorId × IntervalsTree) => updateAllocations_writes hash s e.2) _ h₂)
    fun h₃ hw₃ => ?_
  refine ⟨?_, ?_, hnone⟩
  · rw [(hw₂.trans hw₃).executableBalance, hf₁.1]
  · simpa [Walk.empty, QueueReport.empty] using hr₁

/-! ## How the notes passed on end -/

/-- The notes the walk handles itself and never passes on. -/
def handledHere : JournalNote MessageId ActorId CodeId → Bool
  | .messageDispatched .. | .gasBurned .. | .updatePage .. | .updateAllocations .. => true
  | _ => false

omit [DecidableEq H] [Gear.Memory.IntervalsTreeOps] in
/-- One note leaves the notes passed on so far, or passes itself on after
them, when the walk does not handle it itself. -/
theorem handleNote_filtered (hw : RuntimeJournalHandler H × Walk)
    (note : JournalNote MessageId ActorId CodeId) :
    Avoids (fun _ => False) (fun hw' => hw'.2.filtered = hw.2.filtered ∨
        hw'.2.filtered = hw.2.filtered ++ [note] ∧ handledHere note = false)
      (handleNote hw note) := by
  obtain ⟨h, w⟩ := hw
  cases note with
  | messageDispatched => exact avoids_bind (avoids_trivial _) fun _ _ => .inl rfl
  | gasBurned =>
    simp only [handleNote]
    split
    · exact avoids_bind (avoids_trivial _) fun _ _ => .inl rfl
    · exact .inl rfl
  | sendDispatch =>
    simp only [handleNote]
    split
    · exact .inl rfl
    · split
      · exact .inr ⟨rfl, rfl⟩
      · simp
  | updatePage => exact .inl rfl
  | updateAllocations => exact .inl rfl
  | stopProcessing => exact .inr ⟨rfl, rfl⟩
  | _ => exact .inr ⟨rfl, rfl⟩

omit [DecidableEq H] [Gear.Memory.IntervalsTreeOps] in
/-- A walk passes on, after what it had, only notes of its list that it does
not handle itself. -/
theorem foldlM_handleNote_filtered (hw : RuntimeJournalHandler H × Walk)
    (l : List (JournalNote MessageId ActorId CodeId)) :
    Avoids (fun _ => False) (fun hw' => ∃ passed, hw'.2.filtered = hw.2.filtered ++ passed ∧
        ∀ n ∈ passed, n ∈ l ∧ handledHere n = false)
      (l.foldlM handleNote hw) := by
  induction l generalizing hw with
  | nil => exact ⟨[], (List.append_nil _).symm, fun _ h => by cases h⟩
  | cons note l ih =>
    rw [List.foldlM_cons]
    refine avoids_bind (handleNote_filtered hw note) fun hw₁ h₁ => ?_
    refine (ih hw₁).mono fun hw₂ ⟨passed, hpassed, hmem⟩ => ?_
    -- the note itself, if passed on, comes before what the rest passes on
    rcases h₁ with h₁ | ⟨h₁, hhere⟩
    · refine ⟨passed, by rw [hpassed, h₁], fun n hn => ?_⟩
      exact ⟨List.mem_cons_of_mem _ (hmem n hn).1, (hmem n hn).2⟩
    · refine ⟨note :: passed, by rw [hpassed, h₁, List.append_assoc, List.singleton_append],
        fun n hn => ?_⟩
      rcases List.mem_cons.1 hn with rfl | hn
      · exact ⟨List.mem_cons_self .., hhere⟩
      · exact ⟨List.mem_cons_of_mem _ (hmem n hn).1, (hmem n hn).2⟩

/-- How the notes passed on for the message `id` end when it was done with:
notes in the middle, then its `MessageConsumed` or the `WaitDispatch` of its
message. -/
inductive PassedOn (id : MessageId) : List (JournalNote MessageId ActorId CodeId) → Prop
  | consumed (pre : List (JournalNote MessageId ActorId CodeId)) (hpre : ∀ n ∈ pre, n.IsMiddle) :
      PassedOn id (pre ++ [.messageConsumed id])
  | waited (pre : List (JournalNote MessageId ActorId CodeId)) (hpre : ∀ n ∈ pre, n.IsMiddle)
      (d : StoredDispatch MessageId ActorId) (duration : Option ℕ) (waitedType : MessageWaitedType)
      (hid : d.message.id = id) :
      PassedOn id (pre ++ [.waitDispatch d duration waitedType])

omit [DecidableEq H] [Gear.Memory.IntervalsTreeOps] in
/-- What the walk passes on of the body of a journal and one note it handles
itself after it, from a walk that passed nothing on: notes of the body. -/
theorem walk_body_middle (hw : RuntimeJournalHandler H × Walk) (hempty : hw.2.filtered = [])
    {body : List (JournalNote MessageId ActorId CodeId)} (hbody : ∀ n ∈ body, n.IsMiddle)
    {last : JournalNote MessageId ActorId CodeId} (hlast : handledHere last = true) :
    Avoids (fun _ => False) (fun hw' => ∀ n ∈ hw'.2.filtered, n.IsMiddle)
      ((body ++ [last]).foldlM handleNote hw) := by
  refine (foldlM_handleNote_filtered hw _).mono fun hw' ⟨passed, hpassed, hmem⟩ n hn => ?_
  rw [hpassed, hempty, List.nil_append] at hn
  obtain ⟨hn, hhere⟩ := hmem n hn
  rcases List.mem_append.1 hn with hn | hn
  · exact hbody n hn
  · rw [List.mem_singleton.1 hn, hlast] at hhere
    cases hhere

omit [DecidableEq H] [Gear.Memory.IntervalsTreeOps] in
/-- What a walk passes on of a journal with the plan of `Shaped`: notes in the
middle that end by consuming or waiting the message, or the `StopProcessing`
of the message alone, which stops the handler. -/
theorem walk_passesOn (h : RuntimeJournalHandler H)
    {journal : List (JournalNote MessageId ActorId CodeId)} {id : MessageId} {source : ActorId}
    {burned : ℕ} (hshape : Shaped id source burned journal) :
    Avoids (fun _ => False) (fun hw => PassedOn id hw.2.filtered ∨
        ∃ d : StoredDispatch MessageId ActorId, d.message.id = id ∧
          hw.2.filtered = [.stopProcessing d burned] ∧ hw.1.stopProcessing = true)
      (journal.foldlM handleNote (h, .empty)) := by
  cases hshape with
  | stop d hid => exact .inr ⟨d, hid, rfl, rfl⟩
  | wait isPanic body d duration waitedType hbody hid =>
    -- the `GasBurned` passes nothing on, the body only its own notes
    rw [List.foldlM_cons]
    refine avoids_bind (handleNote_filtered _ _) fun hw₁ h₁ => ?_
    have hempty : hw₁.2.filtered = [] := by
      rcases h₁ with h₁ | ⟨-, hhere⟩
      · exact h₁
      · cases hhere
    rw [List.foldlM_append]
    refine avoids_bind ((foldlM_handleNote_filtered hw₁ body).and (avoids_trivial _))
      fun hw₂ ⟨⟨passed, hpassed, hmem⟩, _⟩ => ?_
    -- the `WaitDispatch` is the last note, and it is passed on
    refine .inl (.waited _ (fun n hn => ?_) d duration waitedType hid)
    rw [hpassed, hempty, List.nil_append] at hn
    exact hbody n (hmem n hn).1
  | consume isPanic body outcome hbody =>
    rw [List.foldlM_cons]
    refine avoids_bind (handleNote_filtered _ _) fun hw₁ h₁ => ?_
    have hempty : hw₁.2.filtered = [] := by
      rcases h₁ with h₁ | ⟨-, hhere⟩
      · exact h₁
      · cases hhere
    rw [show body ++ [.messageDispatched id source outcome, .messageConsumed id] =
      (body ++ [.messageDispatched id source outcome]) ++ [.messageConsumed id] by simp,
      List.foldlM_append]
    -- the `MessageDispatched` is handled here; the `MessageConsumed` is passed on last
    refine avoids_bind (walk_body_middle hw₁ hempty hbody rfl) fun hw₂ hmiddle => ?_
    exact .inl (.consumed _ hmiddle)

/-- What `handle_journal_with_report` passes on of a journal with the plan of
`Shaped`: notes that end by consuming or waiting the message, or the
`StopProcessing` of the message alone, after which the handler stops. -/
theorem handleJournal_passesOn (h : RuntimeJournalHandler H)
    {journal : List (JournalNote MessageId ActorId CodeId)} {id : MessageId} {source : ActorId}
    {burned : ℕ} (hshape : Shaped id source burned journal) :
    Avoids (fun _ => False) (fun r => PassedOn id r.2.1 ∨
        ∃ d : StoredDispatch MessageId ActorId, d.message.id = id ∧
          r.2.1 = [.stopProcessing d burned] ∧ r.1.stopProcessing = true)
      (h.handleJournalWithReport hash pageHash journal) := by
  unfold handleJournalWithReport
  refine avoids_bind (walk_passesOn h hshape) fun ⟨h₁, w⟩ hpassed => ?_
  -- the pages and the allocations leave the notes and the stop flag
  refine avoids_bind ((avoids_foldlM_rel WritesProgram.refl WritesProgram.trans
    (fun s (e : ActorId × List (ℕ × List UInt8)) => updatePagesData_writes pageHash s e.2) _
      h₁).weaken fun _ => False.elim) fun h₂ hw₂ => ?_
  refine avoids_bind ((avoids_foldlM_rel WritesProgram.refl WritesProgram.trans
    (fun s (e : ActorId × IntervalsTree) => updateAllocations_writes hash s e.2) _ h₂).weaken
      fun _ => False.elim) fun h₃ hw₃ => ?_
  rcases hpassed with hpassed | ⟨d, hid, hfiltered, hstop⟩
  · exact .inl hpassed
  · exact .inr ⟨d, hid, hfiltered, (hw₂.trans hw₃).stopProcessing.trans hstop⟩

end RuntimeJournalHandler

/-- The first execution of an injected message that panics after five gas and
sends a message: the message is dropped and the balance left as it was. -/
theorem RuntimeJournalHandler.handleJournal_free_panic_send :
    let h : RuntimeJournalHandler ℕ :=
      ⟨∅, ⟨.exited 0, 0, 700⟩, ⟨100, by decide⟩, GasMultiplier.one, .injected, true, false, false,
        ⟨16, 4096, 1⟩⟩
    let d : Processor.Dispatch MessageId ActorId := ⟨.handle, 9, 3, 4, [1, 2], none, 0, none⟩
    (h.messageType = .injected ∧ h.isFirstExecution = true ∧
      5 ≤ injectedMessagePanicGasChargeThreshold) ∧
      Except.Avoids Accounting (fun r =>
          r.1.programState.executableBalance = h.programState.executableBalance ∧
          r.2.2.2.gasBurned = [⟨7, 5, false⟩] ∧
          ∀ n ∈ r.2.1, sendOf 7 n = false)
        (h.handleJournalWithReport (fun _ => 0) (fun _ => 0)
          [.gasBurned 7 5 true, .sendDispatch 7 d 0 none, .messageConsumed 7]) := by
  intro h d
  have hinjected : h.messageType = .injected := rfl
  have hfirst : h.isFirstExecution = true := rfl
  have hcheap : 5 ≤ injectedMessagePanicGasChargeThreshold := by decide
  exact ⟨⟨hinjected, hfirst, hcheap⟩, handleJournal_free_panic _ _ h hinjected hfirst hcheap _
    (by decide)⟩

end Gear.Ethexe.Runtime
