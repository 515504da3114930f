import Gear.Ethexe.Mailbox
import Gear.Lib.AListSum

/-!
# The user mailboxes, stored by hash — `state.rs`

`Mailbox` of `ethexe-runtime-common` keeps, for each user, the hash of the
user's `UserMailbox`, a map from message id to the message and its expiry,
which lives in the storage under that hash. `add_and_store_user_mailbox`
reads the user's mailbox (the empty one for a user without), adds the
message and writes the mailbox back under its new hash.
`remove_and_store_user_mailbox` reads it and removes the message; if the
message was there, it writes back what is left, or drops the user when
nothing is left. The `changed` flag is set by every add and by every remove
that finds its message.

The storage is content addressed: each mailbox is stored under its hash, and
the hash is taken collision-free (`Hasher`); a storage holding each entry under
its hash is `ContentAddressed`, and writing keeps it so and keeps every entry it
held. A `BTreeMap` is an `AList`; two `AList`s that differ only in the order of
their entries are the same `BTreeMap`, so maps are compared by their lookups.

The flat map of `ProgramState.mailbox`, from user and message id, is what the
two levels represent (`Represents`): each user present names a stored,
non-empty mailbox that holds exactly the user's entries of the flat map, and a
user absent has none there. Both calls keep the representation, the add
inserting into the flat map and the remove erasing from it
(`Represents.add`, `Represents.remove`), and never fail on a represented
mailbox; so along every sequence of calls from the empty mailbox, no user maps
to an empty mailbox, `into_values` returns exactly the entries added and not
removed, a remove returns what the flat map holds and leaves everything alone
when that is nothing, and an add and a remove of a fresh id give the user back
the hash it had (`run_user_mailboxes`).
-/

namespace Gear.Ethexe

/-- `UserMailbox`. -/
abbrev UserMailbox := AList fun _ : MessageId => Expiring MailboxMessage

/-- A collision-free hash. -/
structure Hasher (α H : Type) where
  hash : α → H
  injective : Function.Injective hash

/-- The user mailboxes of the storage, by hash. -/
abbrev UserMailboxStorage (H : Type) := AList fun _ : H => UserMailbox

/-- `Mailbox`: the hash of each user's mailbox and the `changed` flag. -/
structure Mailbox (H : Type) where
  inner : AList fun _ : ActorId => H
  changed : Bool

/-- The flat map the mailbox stands for, from user and message id. -/
abbrev FlatMailbox := AList fun _ : ActorId × MessageId => Expiring MailboxMessage

variable {H : Type} [DecidableEq H]

/-- `QueryableStorage::query` of a `MaybeHashOf<UserMailbox>`: the empty
mailbox without a hash, the stored one with, nothing when it is not stored. -/
def queryUserMailbox (storage : UserMailboxStorage H) : Option H → Option UserMailbox
  | none => some ∅
  | some hash => storage.lookup hash

/-- `Storage::write_user_mailbox`: stored under its hash. -/
def writeUserMailbox (hasher : Hasher UserMailbox H) (storage : UserMailboxStorage H)
    (mailbox : UserMailbox) : H × UserMailboxStorage H :=
  (hasher.hash mailbox, storage.insert (hasher.hash mailbox) mailbox)

namespace Mailbox

/-- `Mailbox::default`. -/
def empty : Mailbox H := ⟨∅, false⟩

/-- `add_and_store_user_mailbox`; the `expect` on the query is a panic. -/
def addAndStoreUserMailbox (hasher : Hasher UserMailbox H) (mb : Mailbox H)
    (storage : UserMailboxStorage H) (userId : ActorId) (messageId : MessageId)
    (message : MailboxMessage) (expiry : ℕ) : Except Failure (Mailbox H × UserMailboxStorage H) := do
  let mailbox ← orPanic (queryUserMailbox storage (mb.inner.lookup userId))
  let (hash, storage) := writeUserMailbox hasher storage (mailbox.insert messageId ⟨message, expiry⟩)
  .ok (⟨mb.inner.insert userId hash, true⟩, storage)

/-- `remove_and_store_user_mailbox`: `UserMailbox::store` of a mailbox left
non-empty always writes, so its `expect` never fires. -/
def removeAndStoreUserMailbox (hasher : Hasher UserMailbox H) (mb : Mailbox H)
    (storage : UserMailboxStorage H) (userId : ActorId) (messageId : MessageId) :
    Except Failure (Option (Expiring MailboxMessage) × Mailbox H × UserMailboxStorage H) := do
  let mailbox ← orPanic (queryUserMailbox storage (mb.inner.lookup userId))
  match mailbox.lookup messageId with
  | none => .ok (none, mb, storage)
  | some value =>
    let mailbox := mailbox.erase messageId
    if mailbox.entries.isEmpty then .ok (some value, ⟨mb.inner.erase userId, true⟩, storage)
    else
      let (hash, storage) := writeUserMailbox hasher storage mailbox
      .ok (some value, ⟨mb.inner.insert userId hash, true⟩, storage)

/-- The loop of `into_values`: each user's mailbox read by its hash, where a
hash not stored panics. -/
def readUserMailboxes (storage : UserMailboxStorage H) :
    List (Σ _ : ActorId, H) → Except Failure (List (ActorId × UserMailbox))
  | [] => .ok []
  | ⟨userId, hash⟩ :: rest => do
    let mailbox ← orPanic (storage.lookup hash)
    let mailboxes ← readUserMailboxes storage rest
    .ok ((userId, mailbox) :: mailboxes)

/-- `into_values`. -/
def intoValues (mb : Mailbox H) (storage : UserMailboxStorage H) :
    Except Failure (List (ActorId × UserMailbox)) :=
  readUserMailboxes storage mb.inner.entries

end Mailbox

/-- The calls on the mailbox. -/
inductive MailboxCall
  | add (userId : ActorId) (messageId : MessageId) (message : MailboxMessage) (expiry : ℕ)
  | remove (userId : ActorId) (messageId : MessageId)

/-- The mailbox and the storage after a sequence of calls. -/
def mailboxRun (hasher : Hasher UserMailbox H) :
    Mailbox H × UserMailboxStorage H → List MailboxCall →
      Except Failure (Mailbox H × UserMailboxStorage H)
  | s, [] => .ok s
  | (mb, storage), .add userId messageId message expiry :: calls =>
    match mb.addAndStoreUserMailbox hasher storage userId messageId message expiry with
    | .ok s => mailboxRun hasher s calls
    | .error f => .error f
  | (mb, storage), .remove userId messageId :: calls =>
    match mb.removeAndStoreUserMailbox hasher storage userId messageId with
    | .ok (_, mb', storage') => mailboxRun hasher (mb', storage') calls
    | .error f => .error f

/-- The flat map after a sequence of calls: what was added and not removed. -/
def flatRun : FlatMailbox → List MailboxCall → FlatMailbox
  | flat, [] => flat
  | flat, .add userId messageId message expiry :: calls =>
    flatRun (flat.insert (userId, messageId) ⟨message, expiry⟩) calls
  | flat, .remove userId messageId :: calls => flatRun (flat.erase (userId, messageId)) calls

/-! ## The storage -/

/-- Each entry is stored under its hash. -/
def ContentAddressed (hasher : Hasher UserMailbox H) (storage : UserMailboxStorage H) : Prop :=
  ∀ hash mailbox, storage.lookup hash = some mailbox → hasher.hash mailbox = hash

section Storage

variable {hasher : Hasher UserMailbox H} {storage : UserMailboxStorage H}

theorem lookup_writeUserMailbox_self (mailbox : UserMailbox) :
    (writeUserMailbox hasher storage mailbox).2.lookup (writeUserMailbox hasher storage mailbox).1 =
      some mailbox :=
  AList.lookup_insert _

theorem ContentAddressed.write (h : ContentAddressed hasher storage) (mailbox : UserMailbox) :
    ContentAddressed hasher (writeUserMailbox hasher storage mailbox).2 := by
  intro hash m hl
  by_cases hh : hash = hasher.hash mailbox
  · subst hh
    rw [writeUserMailbox, AList.lookup_insert] at hl
    cases hl
    rfl
  · rw [writeUserMailbox, AList.lookup_insert_ne hh] at hl
    exact h hash m hl

/-- A write keeps every entry: one under the same hash has the same content. -/
theorem ContentAddressed.lookup_write (h : ContentAddressed hasher storage) {hash : H}
    {m : UserMailbox} (hl : storage.lookup hash = some m) (mailbox : UserMailbox) :
    (writeUserMailbox hasher storage mailbox).2.lookup hash = some m := by
  by_cases hh : hash = hasher.hash mailbox
  · have hm : m = mailbox := hasher.injective ((h hash m hl).trans hh)
    subst hh hm
    exact AList.lookup_insert _
  · rw [writeUserMailbox, AList.lookup_insert_ne hh]
    exact hl

end Storage

/-! ## What each call does -/

section Calls

variable (hasher : Hasher UserMailbox H) {mb : Mailbox H} {storage : UserMailboxStorage H}
  {userId : ActorId} {m : UserMailbox}

/-- `add_and_store_user_mailbox` on the mailbox its query returns. -/
theorem addAndStoreUserMailbox_of_query (hq : queryUserMailbox storage (mb.inner.lookup userId) = some m)
    (messageId : MessageId) (message : MailboxMessage) (expiry : ℕ) :
    mb.addAndStoreUserMailbox hasher storage userId messageId message expiry =
      .ok (⟨mb.inner.insert userId (hasher.hash (m.insert messageId ⟨message, expiry⟩)), true⟩,
        (writeUserMailbox hasher storage (m.insert messageId ⟨message, expiry⟩)).2) := by
  unfold Mailbox.addAndStoreUserMailbox
  rw [hq]
  rfl

/-- `remove_and_store_user_mailbox` on the mailbox its query returns. -/
theorem removeAndStoreUserMailbox_of_query
    (hq : queryUserMailbox storage (mb.inner.lookup userId) = some m) (messageId : MessageId) :
    mb.removeAndStoreUserMailbox hasher storage userId messageId =
      match m.lookup messageId with
      | none => .ok (none, mb, storage)
      | some value =>
        if (m.erase messageId).entries.isEmpty then
          .ok (some value, ⟨mb.inner.erase userId, true⟩, storage)
        else
          .ok (some value, ⟨mb.inner.insert userId (hasher.hash (m.erase messageId)), true⟩,
            (writeUserMailbox hasher storage (m.erase messageId)).2) := by
  unfold Mailbox.removeAndStoreUserMailbox
  rw [hq]
  rfl

end Calls

/-- The loop of `into_values` reads every hash of its list that is stored. -/
theorem readUserMailboxes_ok (storage : UserMailboxStorage H) :
    ∀ l : List (Σ _ : ActorId, H), (∀ e ∈ l, ∃ m, storage.lookup e.2 = some m) →
      ∃ values, Mailbox.readUserMailboxes storage l = .ok values ∧
        ∀ userId m, (userId, m) ∈ values ↔ ∃ e ∈ l, e.1 = userId ∧ storage.lookup e.2 = some m
  | [], _ => ⟨[], rfl, fun _ _ => by simp⟩
  | ⟨userId, hash⟩ :: rest, hall => by
    obtain ⟨m, hm⟩ := hall ⟨userId, hash⟩ List.mem_cons_self
    obtain ⟨values, hvalues, hmem⟩ :=
      readUserMailboxes_ok storage rest fun e he => hall e (List.mem_cons_of_mem _ he)
    refine ⟨(userId, m) :: values, ?_, fun userId' m' => ⟨?_, ?_⟩⟩
    · simp only [Mailbox.readUserMailboxes, hm, hvalues, orPanic, Except.ok_bind]
    · rintro (⟨⟩ | ⟨_, h⟩)
      · exact ⟨⟨userId, hash⟩, List.mem_cons_self, rfl, hm⟩
      · obtain ⟨e, he, h₁, h₂⟩ := (hmem userId' m').mp h
        exact ⟨e, List.mem_cons_of_mem _ he, h₁, h₂⟩
    · rintro ⟨e, he, rfl, hl⟩
      rcases List.mem_cons.mp he with rfl | he
      · rw [hm] at hl
        cases hl
        exact List.mem_cons_self
      · exact List.mem_cons_of_mem _ ((hmem _ m').mpr ⟨e, he, rfl, hl⟩)

/-! ## The flat map the mailbox represents -/

/-- Each user present names a stored, non-empty mailbox holding exactly the
user's entries of the flat map; a user absent has none there. -/
structure Represents (storage : UserMailboxStorage H) (mb : Mailbox H) (flat : FlatMailbox) :
    Prop where
  present : ∀ userId hash, mb.inner.lookup userId = some hash → ∃ m, storage.lookup hash = some m ∧
    m.entries ≠ [] ∧ ∀ messageId, m.lookup messageId = flat.lookup (userId, messageId)
  absent : ∀ userId, mb.inner.lookup userId = none → ∀ messageId, flat.lookup (userId, messageId) = none

section Represents

variable {hasher : Hasher UserMailbox H} {storage : UserMailboxStorage H} {mb : Mailbox H}
  {flat flat' : FlatMailbox}

theorem represents_empty (storage : UserMailboxStorage H) : Represents storage Mailbox.empty ∅ where
  present := fun _ _ h => by cases h
  absent := fun _ _ _ => rfl

/-- The query of a user returns the user's entries of the flat map. -/
theorem Represents.query (h : Represents storage mb flat) (userId : ActorId) :
    ∃ m, queryUserMailbox storage (mb.inner.lookup userId) = some m ∧
      ∀ messageId, m.lookup messageId = flat.lookup (userId, messageId) := by
  cases hl : mb.inner.lookup userId with
  | none => exact ⟨∅, rfl, fun messageId => (h.absent userId hl messageId).symm⟩
  | some hash =>
    obtain ⟨m, hm, -, hlook⟩ := h.present userId hash hl
    exact ⟨m, hm, hlook⟩

/-- A user's new mailbox written and named keeps the representation of a
flat map that changed at that user only. -/
theorem Represents.store (hR : Represents storage mb flat) (hC : ContentAddressed hasher storage)
    (userId : ActorId) (m : UserMailbox) (hm : m.entries ≠ [])
    (hlook : ∀ messageId, m.lookup messageId = flat'.lookup (userId, messageId))
    (hother : ∀ u messageId, u ≠ userId → flat'.lookup (u, messageId) = flat.lookup (u, messageId))
    (changed : Bool) :
    Represents (writeUserMailbox hasher storage m).2
      ⟨mb.inner.insert userId (writeUserMailbox hasher storage m).1, changed⟩ flat' where
  present := by
    intro u hash hl
    by_cases hu : u = userId
    · subst hu
      rw [AList.lookup_insert] at hl
      cases hl
      exact ⟨m, lookup_writeUserMailbox_self m, hm, hlook⟩
    · rw [AList.lookup_insert_ne hu] at hl
      obtain ⟨m₀, hm₀, hne, hlook₀⟩ := hR.present u hash hl
      exact ⟨m₀, hC.lookup_write hm₀ m, hne,
        fun messageId => (hlook₀ messageId).trans (hother u messageId hu).symm⟩
  absent := by
    intro u hl messageId
    by_cases hu : u = userId
    · subst hu
      rw [AList.lookup_insert] at hl
      cases hl
    · rw [AList.lookup_insert_ne hu] at hl
      rw [hother u messageId hu]
      exact hR.absent u hl messageId

/-- A user dropped keeps the representation of a flat map that lost all the
user's entries and changed nowhere else. -/
theorem Represents.drop (hR : Represents storage mb flat) (userId : ActorId)
    (hlook : ∀ messageId, flat'.lookup (userId, messageId) = none)
    (hother : ∀ u messageId, u ≠ userId → flat'.lookup (u, messageId) = flat.lookup (u, messageId))
    (changed : Bool) : Represents storage ⟨mb.inner.erase userId, changed⟩ flat' where
  present := by
    intro u hash hl
    by_cases hu : u = userId
    · subst hu
      rw [AList.lookup_erase] at hl
      cases hl
    · rw [AList.lookup_erase_ne hu] at hl
      obtain ⟨m₀, hm₀, hne, hlook₀⟩ := hR.present u hash hl
      exact ⟨m₀, hm₀, hne, fun messageId => (hlook₀ messageId).trans (hother u messageId hu).symm⟩
  absent := by
    intro u hl messageId
    by_cases hu : u = userId
    · subst hu
      exact hlook messageId
    · rw [AList.lookup_erase_ne hu] at hl
      rw [hother u messageId hu]
      exact hR.absent u hl messageId

/-- Entries of other users are untouched by a change at `(userId, messageId)`. -/
theorem pair_ne_of_ne {u userId : ActorId} (hu : u ≠ userId) (messageId messageId' : MessageId) :
    (u, messageId') ≠ (userId, messageId) :=
  fun h => hu (Prod.mk.inj h).1

/-- `add_and_store_user_mailbox` never fails on a represented mailbox and
represents the flat map with the entry inserted. -/
theorem Represents.add (hR : Represents storage mb flat) (hC : ContentAddressed hasher storage)
    (userId : ActorId) (messageId : MessageId) (message : MailboxMessage) (expiry : ℕ) :
    ∃ mb' storage', mb.addAndStoreUserMailbox hasher storage userId messageId message expiry =
        .ok (mb', storage') ∧
      Represents storage' mb' (flat.insert (userId, messageId) ⟨message, expiry⟩) ∧
      ContentAddressed hasher storage' ∧ mb'.changed = true := by
  obtain ⟨m, hq, hlook⟩ := hR.query userId
  refine ⟨_, _, addAndStoreUserMailbox_of_query hasher hq messageId message expiry, ?_,
    hC.write _, rfl⟩
  refine hR.store hC userId _ (by simp [AList.entries_insert]) (fun messageId' => ?_)
    (fun u messageId' hu => AList.lookup_insert_ne (pair_ne_of_ne hu messageId messageId')) true
  by_cases hm : messageId' = messageId
  · subst hm
    rw [AList.lookup_insert, AList.lookup_insert]
  · rw [AList.lookup_insert_ne hm, AList.lookup_insert_ne (fun h => hm (Prod.mk.inj h).2)]
    exact hlook messageId'

/-- `remove_and_store_user_mailbox` never fails on a represented mailbox: it
returns the flat map's entry and represents the flat map with it erased; when
there is no entry it changes nothing, the flag included. -/
theorem Represents.remove (hR : Represents storage mb flat) (hC : ContentAddressed hasher storage)
    (userId : ActorId) (messageId : MessageId) :
    ∃ mb' storage', mb.removeAndStoreUserMailbox hasher storage userId messageId =
        .ok (flat.lookup (userId, messageId), mb', storage') ∧
      Represents storage' mb' (flat.erase (userId, messageId)) ∧
      ContentAddressed hasher storage' ∧
      (flat.lookup (userId, messageId) = none → mb' = mb ∧ storage' = storage) := by
  obtain ⟨m, hq, hlook⟩ := hR.query userId
  have hrem := removeAndStoreUserMailbox_of_query hasher hq messageId
  -- the flat map changes at `(userId, messageId)` only, and the mailbox as it
  have hother : ∀ u messageId', u ≠ userId →
      (flat.erase (userId, messageId)).lookup (u, messageId') = flat.lookup (u, messageId') :=
    fun u messageId' hu => AList.lookup_erase_ne (pair_ne_of_ne hu messageId messageId')
  have hlook' : ∀ messageId', (m.erase messageId).lookup messageId' =
      (flat.erase (userId, messageId)).lookup (userId, messageId') := by
    intro messageId'
    by_cases hm : messageId' = messageId
    · subst hm
      rw [AList.lookup_erase, AList.lookup_erase]
    · rw [AList.lookup_erase_ne hm, AList.lookup_erase_ne (fun h => hm (Prod.mk.inj h).2)]
      exact hlook messageId'
  cases hv : flat.lookup (userId, messageId) with
  | none =>
    rw [hlook, hv] at hrem
    refine ⟨mb, storage, hrem, ?_, hC, fun _ => ⟨rfl, rfl⟩⟩
    rw [AList.erase_of_lookup_eq_none hv]
    exact hR
  | some value =>
    rw [hlook, hv] at hrem
    dsimp only at hrem
    by_cases he : (m.erase messageId).entries.isEmpty
    · -- nothing is left: the user goes
      rw [if_pos he] at hrem
      refine ⟨_, storage, hrem, hR.drop userId (fun messageId' => ?_) hother true, hC,
        fun h => by cases h⟩
      rw [← hlook']
      exact AList.lookup_of_entries_eq_nil (List.isEmpty_iff.mp he) messageId'
    · rw [if_neg he] at hrem
      refine ⟨_, _, hrem, hR.store hC userId _ (fun h => he (List.isEmpty_iff.mpr h)) hlook'
        hother true, hC.write _, fun h => by cases h⟩

/-- Along every sequence of calls the mailbox keeps representing the flat map
the calls make, and no call fails. -/
theorem Represents.run (hasher : Hasher UserMailbox H) :
    ∀ (calls : List MailboxCall) {mb : Mailbox H} {storage : UserMailboxStorage H}
      {flat : FlatMailbox}, Represents storage mb flat → ContentAddressed hasher storage →
      ∃ mb' storage', mailboxRun hasher (mb, storage) calls = .ok (mb', storage') ∧
        Represents storage' mb' (flatRun flat calls) ∧ ContentAddressed hasher storage'
  | [], mb, storage, _, hR, hC => ⟨mb, storage, rfl, hR, hC⟩
  | .add userId messageId message expiry :: calls, _, _, _, hR, hC => by
    obtain ⟨mb₁, storage₁, hadd, hR₁, hC₁, -⟩ := hR.add hC userId messageId message expiry
    obtain ⟨mb', storage', hrun, hR', hC'⟩ := Represents.run hasher calls hR₁ hC₁
    refine ⟨mb', storage', ?_, hR', hC'⟩
    rw [mailboxRun, hadd]
    exact hrun
  | .remove userId messageId :: calls, _, _, _, hR, hC => by
    obtain ⟨mb₁, storage₁, hrem, hR₁, hC₁, -⟩ := hR.remove hC userId messageId
    obtain ⟨mb', storage', hrun, hR', hC'⟩ := Represents.run hasher calls hR₁ hC₁
    refine ⟨mb', storage', ?_, hR', hC'⟩
    rw [mailboxRun, hrem]
    exact hrun

/-- `into_values` of a represented mailbox never fails and returns exactly
the flat map's entries. -/
theorem Represents.intoValues (hR : Represents storage mb flat) :
    ∃ values, mb.intoValues storage = .ok values ∧
      ∀ userId messageId value, (∃ m, (userId, m) ∈ values ∧ m.lookup messageId = some value) ↔
        flat.lookup (userId, messageId) = some value := by
  obtain ⟨values, hvalues, hmem⟩ := readUserMailboxes_ok storage mb.inner.entries
    fun e he => (hR.present e.1 e.2 (AList.mem_lookup_iff.mpr he)).imp fun _ h => h.1
  refine ⟨values, hvalues, fun userId messageId value => ⟨?_, ?_⟩⟩
  · rintro ⟨m, hm, hv⟩
    obtain ⟨e, he, rfl, hl⟩ := (hmem _ m).mp hm
    obtain ⟨m', hm', -, hlook⟩ := hR.present e.1 e.2 (AList.mem_lookup_iff.mpr he)
    rw [hl] at hm'
    cases hm'
    rw [← hlook]
    exact hv
  · intro hv
    cases hi : mb.inner.lookup userId with
    | none =>
      rw [hR.absent userId hi messageId] at hv
      cases hv
    | some hash =>
      obtain ⟨m, hm, -, hlook⟩ := hR.present userId hash hi
      exact ⟨m, (hmem userId m).mpr ⟨⟨userId, hash⟩, AList.mem_lookup_iff.mp hi, rfl, hm⟩,
        (hlook messageId).trans hv⟩

/-- An add and a remove of an id the user's mailbox does not hold give every
user back the hash it had: the mailbox left is the one that was there, and a
user that had none has none again. -/
theorem Represents.add_remove_fresh (hR : Represents storage mb flat)
    (hC : ContentAddressed hasher storage) (userId : ActorId) (messageId : MessageId)
    (message : MailboxMessage) (expiry : ℕ) (hfresh : flat.lookup (userId, messageId) = none) :
    ∃ mb₁ storage₁ mb₂ storage₂,
      mb.addAndStoreUserMailbox hasher storage userId messageId message expiry = .ok (mb₁, storage₁) ∧
      mb₁.removeAndStoreUserMailbox hasher storage₁ userId messageId =
        .ok (some ⟨message, expiry⟩, mb₂, storage₂) ∧
      ∀ u, mb₂.inner.lookup u = mb.inner.lookup u := by
  obtain ⟨m, hq, hlook⟩ := hR.query userId
  have hm : m.lookup messageId = none := (hlook messageId).trans hfresh
  have hadd := addAndStoreUserMailbox_of_query hasher hq messageId message expiry
  -- the remove reads back the mailbox the add wrote, and erases what it added
  have hq' : queryUserMailbox (writeUserMailbox hasher storage (m.insert messageId ⟨message, expiry⟩)).2
      ((⟨mb.inner.insert userId (hasher.hash (m.insert messageId ⟨message, expiry⟩)), true⟩ :
        Mailbox H).inner.lookup userId) = some (m.insert messageId ⟨message, expiry⟩) := by
    show queryUserMailbox _ ((mb.inner.insert userId _).lookup userId) = _
    rw [AList.lookup_insert]
    exact lookup_writeUserMailbox_self _
  have hrem := removeAndStoreUserMailbox_of_query hasher hq' messageId
  have herase : (m.insert messageId ⟨message, expiry⟩).erase messageId = m := by
    rw [AList.erase_insert_self, AList.erase_of_lookup_eq_none hm]
  rw [AList.lookup_insert, herase] at hrem
  dsimp only at hrem
  by_cases he : m.entries.isEmpty
  · -- the user had no mailbox, as a stored one is not empty: it goes again
    rw [if_pos he] at hrem
    have hnone : mb.inner.lookup userId = none := by
      cases hi : mb.inner.lookup userId with
      | none => rfl
      | some hash =>
        obtain ⟨m₀, hm₀, hne, -⟩ := hR.present userId hash hi
        rw [hi] at hq
        have hm₀m : m₀ = m := Option.some.inj (hm₀.symm.trans hq)
        exact absurd (List.isEmpty_iff.mp he) (hm₀m ▸ hne)
    have hinner : ∀ u, ((mb.inner.insert userId (hasher.hash (m.insert messageId ⟨message, expiry⟩))).erase
        userId).lookup u = mb.inner.lookup u := by
      intro u
      by_cases hu : u = userId
      · subst hu
        rw [AList.lookup_erase, hnone]
      · rw [AList.lookup_erase_ne hu, AList.lookup_insert_ne hu]
    exact ⟨_, _, _, _, hadd, hrem, hinner⟩
  · -- the user had a mailbox, stored under the hash of its content: it is named again
    rw [if_neg he] at hrem
    have hsome : mb.inner.lookup userId = some (hasher.hash m) := by
      cases hi : mb.inner.lookup userId with
      | none =>
        rw [hi] at hq
        cases hq
        exact absurd rfl he
      | some hash =>
        rw [hi] at hq
        exact congrArg some (hC hash m hq).symm
    have hinner : ∀ u, ((mb.inner.insert userId (hasher.hash (m.insert messageId ⟨message, expiry⟩))).insert
        userId (hasher.hash m)).lookup u = mb.inner.lookup u := by
      intro u
      by_cases hu : u = userId
      · subst hu
        rw [AList.lookup_insert, hsome]
      · rw [AList.lookup_insert_ne hu, AList.lookup_insert_ne hu]
    exact ⟨_, _, _, _, hadd, hrem, hinner⟩

end Represents

/-! ## The runs from the empty mailbox -/

/-- Along every sequence of `add_and_store_user_mailbox` and
`remove_and_store_user_mailbox` calls from the empty mailbox over a
content-addressed storage, no call fails, and the mailbox reached: (a) maps
no user to an empty mailbox; (b) has `into_values` return exactly the entries
added and not removed since; (c) has a remove return the entry held, and,
when there is none, leave the mailbox, its `changed` flag and the storage as
they were; (d) has an add and a remove of a fresh message id give every user
back the hash it had. -/
theorem run_user_mailboxes (hasher : Hasher UserMailbox H) (storage₀ : UserMailboxStorage H)
    (h₀ : ContentAddressed hasher storage₀) (calls : List MailboxCall) :
    ∃ mb storage, mailboxRun hasher (Mailbox.empty, storage₀) calls = .ok (mb, storage) ∧
      (∀ userId hash, mb.inner.lookup userId = some hash →
        ∃ m, storage.lookup hash = some m ∧ m.entries ≠ []) ∧
      (∃ values, mb.intoValues storage = .ok values ∧
        ∀ userId messageId value, (∃ m, (userId, m) ∈ values ∧ m.lookup messageId = some value) ↔
          (flatRun ∅ calls).lookup (userId, messageId) = some value) ∧
      (∀ userId messageId, ∃ mb' storage',
        mb.removeAndStoreUserMailbox hasher storage userId messageId =
          .ok ((flatRun ∅ calls).lookup (userId, messageId), mb', storage') ∧
        ((flatRun ∅ calls).lookup (userId, messageId) = none → mb' = mb ∧ storage' = storage)) ∧
      (∀ userId messageId message expiry, (flatRun ∅ calls).lookup (userId, messageId) = none →
        ∃ mb₁ storage₁ mb₂ storage₂,
          mb.addAndStoreUserMailbox hasher storage userId messageId message expiry =
            .ok (mb₁, storage₁) ∧
          mb₁.removeAndStoreUserMailbox hasher storage₁ userId messageId =
            .ok (some ⟨message, expiry⟩, mb₂, storage₂) ∧
          ∀ u, mb₂.inner.lookup u = mb.inner.lookup u) := by
  obtain ⟨mb, storage, hrun, hR, hC⟩ := Represents.run hasher calls (represents_empty storage₀) h₀
  refine ⟨mb, storage, hrun, fun userId hash hl => ?_, hR.intoValues,
    fun userId messageId => ?_, fun userId messageId message expiry hfresh =>
      hR.add_remove_fresh hC userId messageId message expiry hfresh⟩
  · obtain ⟨m, hm, hne, -⟩ := hR.present userId hash hl
    exact ⟨m, hm, hne⟩
  · obtain ⟨mb', storage', hrem, -, -, hnone⟩ := hR.remove hC userId messageId
    exact ⟨mb', storage', hrem, hnone⟩

/-- Mailboxes stored under themselves: two users get a message each and the
first user's message is removed again; no user is left with an empty
mailbox. -/
theorem run_user_mailboxes_two_users :
    ∃ mb storage, mailboxRun ⟨id, Function.injective_id⟩ (Mailbox.empty, ∅)
        [.add 1 7 ⟨5, .canonical⟩ 10, .add 2 8 ⟨6, .injected⟩ 20, .remove 1 7] = .ok (mb, storage) ∧
      ∀ userId hash, mb.inner.lookup userId = some hash →
        ∃ m, storage.lookup hash = some m ∧ m.entries ≠ [] := by
  obtain ⟨mb, storage, hrun, hne, -⟩ := run_user_mailboxes ⟨id, Function.injective_id⟩ ∅
    (fun _ _ h => by cases h) [.add 1 7 ⟨5, .canonical⟩ 10, .add 2 8 ⟨6, .injected⟩ 20, .remove 1 7]
  exact ⟨mb, storage, hrun, hne⟩

end Gear.Ethexe
