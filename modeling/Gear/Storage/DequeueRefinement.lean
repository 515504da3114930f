import Gear.Storage.Dequeue

/-!
# The storage dequeue refines a list

What the dequeue is for: a double-ended queue of entries with distinct keys,
here a list front first, with the same operations and errors. `Represents s
l` says that the storages `s` hold the list `l`, and it carries the module
documentation's invariants: head and tail are the first and last keys (both
unset exactly when the list is empty, both the key of a one-entry list), and
the node under each key is that entry's value with the key of the entry after
it; no other key has a node.

Every operation takes a representation of `l` to a representation of what the
list operation gives, with the same result (`DequeueCall.apply_refines`), with
one exception: `pop_back` on a one-entry dequeue walks from the head to the
node before the tail after taking the tail out of the map, finds no node at
the head, and fails with `element_not_found`, leaving the head set and the
tail unset (`pop_back_single_fails`). Every run that avoids that call is
refined, from the empty storage on (`dequeueRun_refines`).
-/

namespace Gear.Storage

variable {K V : Type} [DecidableEq K]

/-! ## The list operations -/

/-- The keys of a list of entries. -/
def keysOf (l : List (K × V)) : List K := l.map Prod.fst

/-- `push_back` on the list: a new key is appended. -/
def listPushBack (l : List (K × V)) (key : K) (value : V) : Except DequeueError Unit × List (K × V) :=
  if key ∈ keysOf l then (.error .duplicateKey, l) else (.ok (), l ++ [(key, value)])

/-- `push_front` on the list: a new key is prepended. -/
def listPushFront (l : List (K × V)) (key : K) (value : V) :
    Except DequeueError Unit × List (K × V) :=
  if key ∈ keysOf l then (.error .duplicateKey, l) else (.ok (), (key, value) :: l)

/-- `pop_front` on the list. -/
def listPopFront : List (K × V) → DequeueResult V × List (K × V)
  | [] => (.ok none, [])
  | (_, value) :: rest => (.ok (some value), rest)

/-- `pop_back` on the list. -/
def listPopBack (l : List (K × V)) : DequeueResult V × List (K × V) :=
  match l.getLast? with
  | none => (.ok none, [])
  | some (_, value) => (.ok (some value), l.dropLast)

/-- One call on the list. -/
def DequeueCall.listApply (l : List (K × V)) : DequeueCall K V → DequeueResult V × List (K × V)
  | .pushBack key value =>
    let (r, l) := listPushBack l key value
    (r.map fun _ => none, l)
  | .pushFront key value =>
    let (r, l) := listPushFront l key value
    (r.map fun _ => none, l)
  | .popFront => listPopFront l
  | .popBack => listPopBack l
  | .clear => (.ok none, [])

/-- A run of calls on the list. -/
def listRun (l : List (K × V)) : List (DequeueCall K V) → List (DequeueResult V) × List (K × V)
  | [] => ([], l)
  | call :: rest =>
    let (r, l) := DequeueCall.listApply l call
    let (rs, l) := listRun l rest
    (r :: rs, l)

/-! ## The nodes of a list -/

/-- The node the storage should hold under `k` for the list `l`. -/
def lookupNode : List (K × V) → K → Option (LinkedNode K V)
  | [], _ => none
  | (k', value) :: rest, k => if k = k' then some ⟨(keysOf rest).head?, value⟩ else lookupNode rest k

@[simp] theorem lookupNode_nil (k : K) : lookupNode ([] : List (K × V)) k = none := rfl

@[simp] theorem lookupNode_cons_self (k : K) (v : V) (rest : List (K × V)) :
    lookupNode ((k, v) :: rest) k = some ⟨(keysOf rest).head?, v⟩ := by
  simp [lookupNode]

theorem lookupNode_cons_ne {k k' : K} (v : V) (rest : List (K × V)) (h : k ≠ k') :
    lookupNode ((k', v) :: rest) k = lookupNode rest k := by
  simp [lookupNode, h]

theorem lookupNode_eq_none {l : List (K × V)} {k : K} : lookupNode l k = none ↔ k ∉ keysOf l := by
  induction l with
  | nil => simp [keysOf]
  | cons e rest ih =>
    obtain ⟨k', v⟩ := e
    by_cases hk : k = k'
    · subst hk
      simp [keysOf]
    · rw [lookupNode_cons_ne v rest hk, ih]
      simp [keysOf, hk]

/-- Past a prefix that does not hold the key, the lookup is the suffix's. -/
theorem lookupNode_append_of_not_mem {l₁ l₂ : List (K × V)} {k : K} (h : k ∉ keysOf l₁) :
    lookupNode (l₁ ++ l₂) k = lookupNode l₂ k := by
  induction l₁ with
  | nil => rfl
  | cons e rest ih =>
    obtain ⟨k', v⟩ := e
    have hk : k ≠ k' := fun hk => h (by simp [keysOf, hk])
    rw [List.cons_append, lookupNode_cons_ne v _ hk]
    exact ih (fun hr => h (by simp only [keysOf, List.map_cons, List.mem_cons]; exact .inr hr))

/-- In a prefix that holds the key, the lookup is the prefix's, except that
the prefix's last node now links to the suffix. -/
theorem lookupNode_append_of_lookup {l₁ l₂ : List (K × V)} {k : K} {n : LinkedNode K V}
    (h : lookupNode l₁ k = some n) :
    lookupNode (l₁ ++ l₂) k =
      some (if n.next = none then { n with next := (keysOf l₂).head? } else n) := by
  induction l₁ with
  | nil => cases h
  | cons e rest ih =>
    obtain ⟨k', v⟩ := e
    by_cases hk : k = k'
    · subst hk
      rw [lookupNode_cons_self] at h
      cases h
      rw [List.cons_append, lookupNode_cons_self]
      -- the node's next key is the first of `rest`, if there is one
      cases rest with
      | nil => simp [keysOf]
      | cons f rest => simp [keysOf]
    · rw [lookupNode_cons_ne v rest hk] at h
      rw [List.cons_append, lookupNode_cons_ne v _ hk]
      exact ih h

/-- A node without a next key is the last entry's. -/
theorem getLast_of_lookupNode {l : List (K × V)} {k : K} {v : V}
    (h : lookupNode l k = some ⟨none, v⟩) : l.getLast? = some (k, v) := by
  induction l with
  | nil => cases h
  | cons e rest ih =>
    obtain ⟨k', v'⟩ := e
    by_cases hk : k = k'
    · subst hk
      rw [lookupNode_cons_self] at h
      cases rest with
      | nil => cases h; rfl
      | cons f rest => simp [keysOf] at h
    · rw [lookupNode_cons_ne v' rest hk] at h
      cases rest with
      | nil => cases h
      | cons f rest =>
        rw [List.getLast?_cons_cons]
        exact ih h

/-- The node of an entry in the middle of a list of distinct keys. -/
theorem lookupNode_middle {pre rest : List (K × V)} {k : K} {v : V}
    (hnd : (keysOf (pre ++ (k, v) :: rest)).Nodup) :
    lookupNode (pre ++ (k, v) :: rest) k = some ⟨(keysOf rest).head?, v⟩ := by
  have hk : k ∉ keysOf pre := by
    simp only [keysOf, List.map_append, List.map_cons] at hnd
    have hfront := List.nodup_cons.mp (List.nodup_middle.mp hnd)
    exact fun h => hfront.1 (List.mem_append_left _ h)
  rw [lookupNode_append_of_not_mem hk, lookupNode_cons_self]

/-- The last entry's node has no next key. -/
theorem lookupNode_last {l : List (K × V)} {k : K} {v : V} (hnd : (keysOf (l ++ [(k, v)])).Nodup) :
    lookupNode (l ++ [(k, v)]) k = some ⟨none, v⟩ := by
  rw [lookupNode_middle hnd]
  rfl

/-- Appending an entry of a new key leaves the nodes of the list's entries
other than its last. -/
theorem lookupNode_append_single {l : List (K × V)} {k k' : K} (v : V) (hk : k' ≠ k)
    (hnext : ∀ n, lookupNode l k' = some n → n.next ≠ none) :
    lookupNode (l ++ [(k, v)]) k' = lookupNode l k' := by
  cases hl : lookupNode l k' with
  | none =>
    rw [lookupNode_append_of_not_mem (lookupNode_eq_none.mp hl), lookupNode_cons_ne v [] hk,
      lookupNode_nil]
  | some n =>
    rw [lookupNode_append_of_lookup hl, if_neg (hnext n hl)]

/-- Every entry but the last has a node with a next key. -/
theorem lookupNode_next_ne_none {l₀ : List (K × V)} {p k' : K} {vp : V} {n : LinkedNode K V}
    (hn : lookupNode (l₀ ++ [(p, vp)]) k' = some n) (hk' : k' ≠ p) : n.next ≠ none := by
  intro hnone
  obtain ⟨next, value⟩ := n
  simp only at hnone
  subst hnone
  have hlast := getLast_of_lookupNode hn
  rw [List.getLast?_append] at hlast
  simp only [List.getLast?_singleton, Option.some_or, Option.some.injEq, Prod.mk.injEq] at hlast
  exact hk' hlast.1.symm

/-! ## The representation -/

/-- The storages `s` hold the list `l`. -/
structure Represents (s : DequeueState K V) (l : List (K × V)) : Prop where
  nodup : (keysOf l).Nodup
  head : s.head = (keysOf l).head?
  tail : s.tail = (keysOf l).getLast?
  lookup : ∀ k, s.map.lookup k = lookupNode l k

theorem Represents.empty : Represents (DequeueState.empty : DequeueState K V) [] :=
  ⟨List.nodup_nil, rfl, rfl, fun k => AList.lookup_empty k⟩

variable {s : DequeueState K V} {l : List (K × V)}

/-- A key has a node exactly when it is a key of the list. -/
theorem Represents.mem_iff (h : Represents s l) {k : K} : k ∈ s.map ↔ k ∈ keysOf l := by
  rw [← AList.lookup_isSome, h.lookup k, Option.isSome_iff_ne_none, Ne, lookupNode_eq_none,
    not_not]

/-- The map holds as many nodes as the list has entries. -/
theorem Represents.keys_length (h : Represents s l) : s.map.keys.length = l.length := by
  have hperm : s.map.keys.Perm (keysOf l) :=
    (List.perm_ext_iff_of_nodup s.map.keys_nodup h.nodup).mpr fun k => by
      rw [← AList.mem_keys, h.mem_iff]
  rw [hperm.length_eq]
  simp [keysOf]

/-- Prepending an entry of a new key: the head and its node are written, the
tail is that of the longer list. -/
theorem Represents.cons (h : Represents s l) {k : K} (v : V) (hk : k ∉ keysOf l) :
    Represents ⟨some k, (keysOf ((k, v) :: l)).getLast?,
      s.map.insert k ⟨(keysOf l).head?, v⟩⟩ ((k, v) :: l) where
  nodup := List.nodup_cons.mpr ⟨hk, h.nodup⟩
  head := rfl
  tail := rfl
  lookup k' := by
    by_cases hk' : k' = k
    · subst hk'
      rw [AList.lookup_insert, lookupNode_cons_self]
    · rw [AList.lookup_insert_ne hk', lookupNode_cons_ne v l hk', h.lookup k']

/-- The last key's node has no next key. -/
theorem Represents.lookup_last (h : Represents s l) {l₀ : List (K × V)} {k : K} {v : V}
    (hl : l = l₀ ++ [(k, v)]) : s.map.lookup k = some ⟨none, v⟩ := by
  subst hl
  rw [h.lookup k, lookupNode_last h.nodup]

/-! ## Pushes -/

theorem pushFront_refines (h : Represents s l) (k : K) (v : V) :
    (s.pushFront k v).1 = (listPushFront l k v).1 ∧
      Represents (s.pushFront k v).2 (listPushFront l k v).2 := by
  by_cases hk : k ∈ keysOf l
  · have hm : k ∈ s.map := h.mem_iff.mpr hk
    simp only [DequeueState.pushFront, listPushFront, if_pos hm, if_pos hk]
    exact ⟨trivial, h⟩
  · have hm : k ∉ s.map := fun hm => hk (h.mem_iff.mp hm)
    simp only [DequeueState.pushFront, listPushFront, if_neg hm, if_neg hk]
    cases l with
    | nil =>
      -- both storages unset: the entry starts the dequeue
      have hhead : s.head = none := h.head
      have htail : s.tail = none := h.tail
      simp only [hhead, htail, Option.isSome_none, Bool.false_eq_true, if_false]
      exact ⟨trivial, h.cons v hk⟩
    | cons e rest =>
      have hhead : s.head = some e.1 := h.head
      simp only [hhead]
      refine ⟨trivial, ?_⟩
      have hcons := h.cons v hk
      have htail : (keysOf ((k, v) :: e :: rest)).getLast? = s.tail := by
        rw [h.tail]
        simp [keysOf, List.getLast?_cons_cons]
      rw [htail] at hcons
      exact hcons

theorem pushBack_refines (h : Represents s l) (k : K) (v : V) :
    (s.pushBack k v).1 = (listPushBack l k v).1 ∧
      Represents (s.pushBack k v).2 (listPushBack l k v).2 := by
  by_cases hk : k ∈ keysOf l
  · have hm : k ∈ s.map := h.mem_iff.mpr hk
    simp only [DequeueState.pushBack, listPushBack, if_pos hm, if_pos hk]
    exact ⟨trivial, h⟩
  · have hm : k ∉ s.map := fun hm => hk (h.mem_iff.mp hm)
    simp only [DequeueState.pushBack, listPushBack, if_neg hm, if_neg hk]
    -- the list is empty, or ends with the tail's entry
    rcases List.eq_nil_or_concat' l with hnil | ⟨l₀, ⟨kt, vt⟩, hl⟩
    · subst hnil
      have hhead : s.head = none := h.head
      have htail : s.tail = none := h.tail
      simp only [htail, hhead, Option.isSome_none, Bool.false_eq_true, if_false]
      exact ⟨trivial, h.cons v hk⟩
    · have htail : s.tail = some kt := by rw [h.tail, hl]; simp [keysOf]
      have hlast : s.map.lookup kt = some ⟨none, vt⟩ := h.lookup_last hl
      simp only [htail, hlast, Option.isSome_none, Bool.false_eq_true, if_false]
      refine ⟨trivial, ?_⟩
      have hkt : kt ≠ k := fun hkt => hk (by rw [hl, hkt]; simp [keysOf])
      have hnd : (keysOf (l ++ [(k, v)])).Nodup := by
        simp only [keysOf, List.map_append, List.map_cons, List.map_nil]
        refine List.nodup_append.mpr ⟨h.nodup, List.nodup_singleton k, ?_⟩
        intro a ha b hb hab
        rw [List.mem_singleton] at hb
        exact hk (hb ▸ hab ▸ ha)
      refine ⟨hnd, ?_, ?_, fun k' => ?_⟩
      · rw [h.head]
        simp [keysOf, hl]
      · simp [keysOf]
      · by_cases hk' : k' = k
        · subst hk'
          rw [AList.lookup_insert, lookupNode_last hnd]
        rw [AList.lookup_insert_ne hk']
        by_cases hkt' : k' = kt
        · subst hkt'
          rw [AList.lookup_insert, hl, lookupNode_append_of_lookup (lookupNode_last (hl ▸ h.nodup))]
          simp [keysOf]
        rw [AList.lookup_insert_ne hkt', AList.lookup_erase_ne hkt', h.lookup k',
          lookupNode_append_single v hk' fun n hn => lookupNode_next_ne_none (hl ▸ hn) hkt']

/-! ## Pops -/

/-- Taking the first entry's node out of a map of a list's nodes leaves the
nodes of the rest. -/
theorem lookup_erase_of_nodes {m : AList (fun _ : K => LinkedNode K V)} {k : K} {v : V}
    {rest : List (K × V)} (hnd : (keysOf ((k, v) :: rest)).Nodup)
    (hlook : ∀ k', m.lookup k' = lookupNode ((k, v) :: rest) k') (k' : K) :
    (m.erase k).lookup k' = lookupNode rest k' := by
  by_cases hk' : k' = k
  · subst hk'
    have hk : k' ∉ keysOf rest := (List.nodup_cons.mp hnd).1
    rw [AList.lookup_erase, lookupNode_eq_none.mpr hk]
  · rw [AList.lookup_erase_ne hk', hlook k', lookupNode_cons_ne v rest hk']

/-- Taking the first entry's node out of the map leaves the nodes of the rest. -/
theorem Represents.lookup_erase_head (h : Represents s ((k, v) :: rest)) (k' : K) :
    (s.map.erase k).lookup k' = lookupNode rest k' :=
  lookup_erase_of_nodes h.nodup h.lookup k'

theorem popFront_refines (h : Represents s l) :
    s.popFront.1 = (listPopFront l).1 ∧ Represents s.popFront.2 (listPopFront l).2 := by
  cases l with
  | nil =>
    have hhead : s.head = none := h.head
    have htail : s.tail = none := h.tail
    simp only [DequeueState.popFront, hhead, htail, Option.isSome_none, Bool.false_eq_true,
      if_false, listPopFront]
    exact ⟨trivial, h⟩
  | cons e rest =>
    obtain ⟨k, v⟩ := e
    have hhead : s.head = some k := h.head
    have hlook : s.map.lookup k = some ⟨(keysOf rest).head?, v⟩ := by
      rw [h.lookup k, lookupNode_cons_self]
    have hnd : (keysOf rest).Nodup := (List.nodup_cons.mp h.nodup).2
    cases rest with
    | nil =>
      -- the last entry: the tail is taken too
      have htail : s.tail = some k := h.tail
      simp only [DequeueState.popFront, hhead, hlook, keysOf, List.map_nil, List.head?_nil,
        htail, listPopFront]
      exact ⟨trivial, ⟨List.nodup_nil, rfl, rfl, h.lookup_erase_head⟩⟩
    | cons f rest =>
      simp only [DequeueState.popFront, hhead, hlook, keysOf, List.map_cons, List.head?_cons,
        listPopFront]
      refine ⟨trivial, ⟨hnd, rfl, ?_, h.lookup_erase_head⟩⟩
      rw [h.tail]
      simp [keysOf, List.getLast?_cons_cons]

/-- The walk of `pop_back` from any entry before the tail reaches the entry
just before it, within one step more than the entries it passes. -/
theorem findPreTail_eq {m : AList (fun _ : K => LinkedNode K V)} {l' : List (K × V)} {t : K}
    {vt : V} (hnd : (keysOf (l' ++ [(t, vt)])).Nodup)
    (hm : ∀ k, k ≠ t → m.lookup k = lookupNode (l' ++ [(t, vt)]) k) :
    ∀ (suf pre : List (K × V)) (k : K) (v : V) (p : K) (vp : V) (fuel : ℕ),
      l' = pre ++ (k, v) :: suf → ((k, v) :: suf).getLast? = some (p, vp) →
      suf.length < fuel → DequeueState.findPreTail m t fuel k = .ok p := by
  have htl : t ∉ keysOf l' := by
    simp only [keysOf, List.map_append, List.map_cons, List.map_nil] at hnd
    exact fun ht => List.disjoint_of_nodup_append hnd ht (List.mem_singleton_self t)
  -- each entry before the tail links to the key after it
  have hlink : ∀ pre k v suf, l' = pre ++ (k, v) :: suf →
      m.lookup k = some ⟨(keysOf (suf ++ [(t, vt)])).head?, v⟩ := by
    intro pre k v suf hl
    have hkt : k ≠ t := fun hkt => htl (by rw [← hkt, hl]; simp [keysOf])
    have hl' : l' ++ [(t, vt)] = pre ++ (k, v) :: (suf ++ [(t, vt)]) := by rw [hl]; simp
    rw [hm k hkt, hl', lookupNode_middle (hl' ▸ hnd)]
  intro suf
  induction suf with
  | nil =>
    intro pre k v p vp fuel hl hlast hfuel
    obtain ⟨fuel, rfl⟩ : ∃ f, fuel = f + 1 := ⟨fuel - 1, by omega⟩
    simp only [List.getLast?_singleton, Option.some.injEq, Prod.mk.injEq] at hlast
    obtain ⟨rfl, rfl⟩ := hlast
    simp [DequeueState.findPreTail, hlink pre k v [] hl, keysOf]
  | cons e suf ih =>
    intro pre k v p vp fuel hl hlast hfuel
    obtain ⟨k₂, v₂⟩ := e
    obtain ⟨fuel, rfl⟩ : ∃ f, fuel = f + 1 := ⟨fuel - 1, by omega⟩
    have hk₂t : k₂ ≠ t := fun hkt => htl (by rw [← hkt, hl]; simp [keysOf])
    have hnext : DequeueState.findPreTail m t fuel k₂ = .ok p :=
      ih (pre ++ [(k, v)]) k₂ v₂ p vp fuel (by rw [hl]; simp)
        (by rwa [List.getLast?_cons_cons] at hlast) (by simp at hfuel; omega)
    simp [DequeueState.findPreTail, hlink pre k v _ hl, keysOf, hk₂t, hnext]

/-- `pop_back` on a dequeue of at least two entries: the node before the tail
becomes the tail. -/
theorem popBack_refines (h : Represents s l) (hlen : l.length ≠ 1) :
    s.popBack.1 = (listPopBack l).1 ∧ Represents s.popBack.2 (listPopBack l).2 := by
  rcases List.eq_nil_or_concat' l with rfl | ⟨l', ⟨t, vt⟩, rfl⟩
  · have hhead : s.head = none := h.head
    have htail : s.tail = none := h.tail
    simp only [DequeueState.popBack, hhead, htail, Option.isSome_none, Bool.false_eq_true,
      if_false, listPopBack, List.getLast?_nil]
    exact ⟨trivial, h⟩
  rcases List.eq_nil_or_concat' l' with rfl | ⟨l₀, ⟨p, vp⟩, rfl⟩
  · exact absurd rfl hlen
  -- the dequeue is `l₀ ++ [(p, vp)] ++ [(t, vt)]`, with a head `h₀`
  obtain ⟨⟨h₀, v₀⟩, rest, hcons⟩ := List.exists_cons_of_ne_nil
    (List.append_ne_nil_of_right_ne_nil l₀ (List.cons_ne_nil (p, vp) []))
  have hnd' : (keysOf (l₀ ++ [(p, vp)])).Nodup := by
    have := h.nodup
    simp only [keysOf, List.map_append] at this ⊢
    exact this.of_append_left
  have htl : t ∉ keysOf (l₀ ++ [(p, vp)]) := by
    have := h.nodup
    simp only [keysOf, List.map_append, List.map_cons, List.map_nil] at this ⊢
    exact fun ht => List.disjoint_of_nodup_append this ht (List.mem_singleton_self t)
  have hpt : p ≠ t := fun hpt => htl (by rw [hpt]; simp [keysOf])
  have hhead : s.head = some h₀ := by rw [h.head, hcons]; simp [keysOf]
  have htail : s.tail = some t := by rw [h.tail]; simp [keysOf]
  have hlast : s.map.lookup t = some ⟨none, vt⟩ := h.lookup_last rfl
  have herase : ∀ k, k ≠ t → (s.map.erase t).lookup k = lookupNode (l₀ ++ [(p, vp)] ++ [(t, vt)]) k :=
    fun k hk => by rw [AList.lookup_erase_ne hk, h.lookup k]
  have hfuel : (s.map.erase t).keys.length + 1 = (l₀ ++ [(p, vp)]).length + 1 := by
    have ht : t ∈ s.map.keys := AList.mem_keys.mp (h.mem_iff.mpr (by simp [keysOf]))
    rw [AList.keys_erase, List.length_erase_of_mem ht, h.keys_length]
    simp
  have hwalk : DequeueState.findPreTail (s.map.erase t) t ((s.map.erase t).keys.length + 1) h₀ =
      .ok p := by
    rw [hfuel]
    refine findPreTail_eq h.nodup herase rest [] h₀ v₀ p vp _ (by rw [hcons]; rfl) ?_ ?_
    · rw [← hcons]; simp
    · have := congrArg List.length hcons
      simp only [List.length_cons] at this
      omega
  have hpre : (s.map.erase t).lookup p = some ⟨some t, vp⟩ := by
    rw [herase p hpt, lookupNode_append_of_lookup (lookupNode_last hnd')]
    simp [keysOf]
  simp only [DequeueState.popBack, hhead, htail, hlast, hwalk, hpre, listPopBack,
    List.getLast?_append, List.getLast?_singleton, Option.some_or, List.dropLast_concat]
  refine ⟨trivial, hnd', ?_, ?_, fun k' => ?_⟩
  · rw [← hhead, h.head, hcons]; simp [keysOf]
  · simp [keysOf]
  · by_cases hk' : k' = p
    · subst hk'
      rw [AList.lookup_insert, lookupNode_last hnd']
    rw [AList.lookup_insert_ne hk', AList.lookup_erase_ne hk']
    by_cases hkt : k' = t
    · subst hkt
      rw [AList.lookup_erase, (lookupNode_eq_none.mpr htl)]
    rw [herase k' hkt, lookupNode_append_single vt hkt fun n hn =>
      lookupNode_next_ne_none hn hk']

/-- `pop_back` on a dequeue of one entry takes the tail and its node, then
looks for the node of the head, the same key, and fails: the head stays set,
the tail is unset, and the storages hold no dequeue any more. -/
theorem pop_back_single_fails {k : K} {v : V} (h : Represents s [(k, v)]) :
    s.popBack.1 = .error .elementNotFound ∧ (listPopBack [(k, v)]).1 = .ok (some v) ∧
      s.popBack.2.head = some k ∧ s.popBack.2.tail = none ∧
      ∀ l', ¬ Represents s.popBack.2 l' := by
  have hhead : s.head = some k := h.head
  have htail : s.tail = some k := h.tail
  have hlook : s.map.lookup k = some ⟨none, v⟩ := by
    rw [h.lookup k, lookupNode_cons_self]
    rfl
  have hgone : (s.map.erase k).lookup k = none := AList.lookup_erase k s.map
  have hwalk : DequeueState.findPreTail (s.map.erase k) k ((s.map.erase k).keys.length + 1) k =
      .error .elementNotFound := by
    simp [DequeueState.findPreTail, hgone]
  have hpop : s.popBack = (.error .elementNotFound, { s with tail := none, map := s.map.erase k }) := by
    simp only [DequeueState.popBack, hhead, htail, hlook, hwalk]
  rw [hpop]
  refine ⟨rfl, rfl, hhead, rfl, fun l' hl' => ?_⟩
  -- a set head needs an entry, and then the tail is set too
  have hh := hl'.head
  have ht := hl'.tail
  cases l' with
  | nil => simp [keysOf, hhead] at hh
  | cons e rest =>
    simp only [keysOf, List.map_cons] at ht
    rw [List.getLast?_cons] at ht
    simp at ht

/-! ## Runs -/

/-- Whether the call is a `pop_back` on a one-entry list, the one call whose
storage behaviour leaves the list's. -/
def DequeueCall.popsSingle : DequeueCall K V → List (K × V) → Bool
  | .popBack, l => l.length == 1
  | _, _ => false

/-- A run of calls on the list makes no `pop_back` on a one-entry list. -/
def avoidsSinglePopBack : List (K × V) → List (DequeueCall K V) → Bool
  | _, [] => true
  | l, call :: rest => !call.popsSingle l && avoidsSinglePopBack (call.listApply l).2 rest

theorem DequeueCall.apply_refines (h : Represents s l) (call : DequeueCall K V)
    (hcall : call.popsSingle l = false) :
    (DequeueCall.apply s call).1 = (call.listApply l).1 ∧
      Represents (DequeueCall.apply s call).2 (call.listApply l).2 := by
  cases call with
  | pushBack k v =>
    obtain ⟨hr, hs⟩ := pushBack_refines h k v
    rcases hp : s.pushBack k v with ⟨r, s'⟩
    rcases hq : listPushBack l k v with ⟨r', l'⟩
    rw [hp, hq] at hr hs
    simp only [DequeueCall.apply, DequeueCall.listApply, hp, hq]
    exact ⟨congrArg _ hr, hs⟩
  | pushFront k v =>
    obtain ⟨hr, hs⟩ := pushFront_refines h k v
    rcases hp : s.pushFront k v with ⟨r, s'⟩
    rcases hq : listPushFront l k v with ⟨r', l'⟩
    rw [hp, hq] at hr hs
    simp only [DequeueCall.apply, DequeueCall.listApply, hp, hq]
    exact ⟨congrArg _ hr, hs⟩
  | popFront => exact popFront_refines h
  | popBack =>
    simp only [DequeueCall.popsSingle, beq_eq_false_iff_ne] at hcall
    exact popBack_refines h hcall
  | clear => exact ⟨rfl, Represents.empty⟩

/-- Every run that makes no `pop_back` on a one-entry dequeue returns what the
list returns, and leaves the storages holding the list's final state. -/
theorem dequeueRun_refines (h : Represents s l) (calls : List (DequeueCall K V))
    (hsafe : avoidsSinglePopBack l calls = true) :
    (dequeueRun s calls).1 = (listRun l calls).1 ∧
      Represents (dequeueRun s calls).2 (listRun l calls).2 := by
  -- the run lemma: induction on the calls, each step by `DequeueCall.apply_refines`
  induction calls generalizing s l with
  | nil => exact ⟨rfl, h⟩
  | cons call rest ih =>
    simp only [avoidsSinglePopBack, Bool.and_eq_true, Bool.not_eq_eq_eq_not, Bool.not_true]
      at hsafe
    obtain ⟨hr, hs⟩ := DequeueCall.apply_refines h call hsafe.1
    rcases hp : DequeueCall.apply s call with ⟨r, s'⟩
    rcases hq : call.listApply l with ⟨r', l'⟩
    rw [hp, hq] at hr hs
    rw [hq] at hsafe
    obtain ⟨hrs, hst⟩ := ih hs hsafe.2
    simp only [dequeueRun, listRun, hp, hq]
    exact ⟨congrArg₂ List.cons hr hrs, hst⟩

/-- From empty storage, `push_back(k, v)` and then `pop_back()`: the list gives
the value back and is empty again, the storage fails with `element_not_found`
and is left with its head set, its tail unset, and no list it holds. -/
theorem push_back_then_pop_back_fails (k : K) (v : V) :
    (dequeueRun DequeueState.empty [.pushBack k v, .popBack]).1 =
        [.ok none, .error .elementNotFound] ∧
      (listRun [] [.pushBack k v, .popBack]).1 = [.ok none, .ok (some v)] ∧
      (dequeueRun DequeueState.empty [.pushBack k v, .popBack]).2.head = some k ∧
      (dequeueRun DequeueState.empty [.pushBack k v, .popBack]).2.tail = none ∧
      ∀ l, ¬ Represents (dequeueRun DequeueState.empty [.pushBack k v, .popBack]).2 l := by
  let s₁ : DequeueState K V := ⟨some k, some k, (∅ : AList _).insert k ⟨none, v⟩⟩
  have hpush : (DequeueState.empty : DequeueState K V).pushBack k v = (.ok (), s₁) := by
    simp [DequeueState.pushBack, DequeueState.empty, s₁]
  -- after the push the storage holds the one-entry list
  have hs₁ : Represents s₁ [(k, v)] := by
    have := (pushBack_refines (Represents.empty : Represents (DequeueState.empty : DequeueState K V) [])
      k v).2
    rwa [hpush] at this
  have hrun : dequeueRun DequeueState.empty [.pushBack k v, .popBack] =
      ([.ok none, s₁.popBack.1], s₁.popBack.2) := by
    simp only [dequeueRun, DequeueCall.apply, hpush]
    rfl
  obtain ⟨hfail, -, hhead, htail, hnone⟩ := pop_back_single_fails hs₁
  rw [hrun, hfail]
  exact ⟨rfl, rfl, hhead, htail, hnone⟩

/-- The walk of `DequeueIter` from any entry on yields the values of the rest
of the list. -/
theorem Represents.iterFrom_eq (h : Represents s l) :
    ∀ (suf pre : List (K × V)) (fuel : ℕ), l = pre ++ suf → suf.length ≤ fuel →
      DequeueState.iterFrom s.map fuel (keysOf suf).head? = suf.map fun e => .ok e.2 := by
  intro suf
  induction suf with
  | nil => intro pre fuel _ _; simp [keysOf, DequeueState.iterFrom]
  | cons e suf ih =>
    intro pre fuel hl hfuel
    obtain ⟨k, v⟩ := e
    obtain ⟨fuel, rfl⟩ : ∃ f, fuel = f + 1 := ⟨fuel - 1, by simp at hfuel; omega⟩
    have hlook : s.map.lookup k = some ⟨(keysOf suf).head?, v⟩ := by
      rw [h.lookup k, hl, lookupNode_middle (hl ▸ h.nodup)]
    have hrest := ih (pre ++ [(k, v)]) fuel (by rw [hl]; simp) (by simp at hfuel; omega)
    simp [keysOf, DequeueState.iterFrom, hlook, ← hrest]

/-- `iter()` yields the values of the list front to back. -/
theorem iter_refines (h : Represents s l) : s.iter = l.map fun e => .ok e.2 := by
  simp only [DequeueState.iter]
  rw [h.head]
  exact h.iterFrom_eq l [] _ rfl (h.keys_length ▸ le_refl _)

end Gear.Storage
