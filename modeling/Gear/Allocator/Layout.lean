import Gear.Allocator.Spec
import Mathlib

/-!
# The heap layout the allocator keeps

The chunks the bumper has handed out lie side by side in
`[heap base, bumper)`: each is a header and the payload of its order, at a
multiple of 8, inside the memory, and apart from every other one; together
they fill the range (`Layout`). Each chunk is live, with an occupied header
holding the order of its request, or free, on the free list of its order,
whose links run through the free headers in the bytes (`Headers`).

`HeapInv` bundles both with the allocator's counters, given the live
allocations (the pointer returned and the size asked) and the free chunks
(header pointer and order), which stand for the allocator's ghost state. A
step that moves a chunk between the live and the free lists keeps the chunks
up to a permutation (`Layout.perm`); a bump adds one past all others
(`Layout.bump`); a write of a header or of a live payload changes no other
header (`Headers.congr`).
-/

namespace Gear.Allocator

open ByteMemory

/-! ## Chunks -/

/-- Two chunks, each a start and a length, do not overlap. -/
def Apart (c d : ℕ × ℕ) : Prop := c.1 + c.2 ≤ d.1 ∨ d.1 + d.2 ≤ c.1

theorem Apart.symm {c d : ℕ × ℕ} (h : Apart c d) : Apart d c := Or.symm h

instance : Std.Symm Apart := ⟨fun _ _ h => h.symm⟩

/-- The chunk of a live allocation: its header and the payload its request
gets. -/
def liveChunk (x : ℕ × ℕ) : ℕ × ℕ := (x.1 - headerSize, payloadSize x.2 + headerSize)

/-- The chunk of a free header of an order. -/
def freeChunk (x : ℕ × Order) : ℕ × ℕ := (x.1, x.2.size + headerSize)

/-- Every chunk the bumper has handed out, live or free. -/
def chunks (live : List (ℕ × ℕ)) (free : List (ℕ × Order)) : List (ℕ × ℕ) :=
  live.map liveChunk ++ free.map freeChunk

theorem chunks_append_live (live : List (ℕ × ℕ)) (free : List (ℕ × Order)) (x : ℕ × ℕ) :
    (chunks (live ++ [x]) free).Perm (liveChunk x :: chunks live free) := by
  simp only [chunks, List.map_append, List.map_cons, List.map_nil, List.append_assoc,
    List.singleton_append]
  exact List.perm_middle

theorem chunks_cons_free (live : List (ℕ × ℕ)) (free : List (ℕ × Order)) (y : ℕ × Order) :
    (chunks live (y :: free)).Perm (freeChunk y :: chunks live free) := by
  simp only [chunks, List.map_cons]
  exact List.perm_middle

theorem chunks_erase_live {live : List (ℕ × ℕ)} (free : List (ℕ × Order)) {x : ℕ × ℕ}
    (hx : x ∈ live) : (chunks live free).Perm (liveChunk x :: chunks (live.erase x) free) :=
  ((List.perm_cons_erase hx).map liveChunk).append_right _

theorem chunks_erase_free (live : List (ℕ × ℕ)) {free : List (ℕ × Order)} {y : ℕ × Order}
    (hy : y ∈ free) : (chunks live free).Perm (freeChunk y :: chunks live (free.erase y)) :=
  (((List.perm_cons_erase hy).map freeChunk).append_left _).trans List.perm_middle

/-- The chunks lie apart, aligned, past the heap base and below the bumper
and the memory's end, and fill `[base, bumper)`. -/
structure Layout (base bumper size : ℕ) (cs : List (ℕ × ℕ)) : Prop where
  base_aligned : base % 8 = 0
  bumper_aligned : bumper % 8 = 0
  base_le : base ≤ bumper
  bumper_le : bumper ≤ u32Max
  apart : cs.Pairwise Apart
  inside : ∀ c ∈ cs, base ≤ c.1 ∧ c.1 + c.2 ≤ bumper ∧ c.1 + c.2 ≤ size ∧ c.1 % 8 = 0 ∧
    16 ≤ c.2
  tiled : (cs.map Prod.snd).sum = bumper - base

namespace Layout

variable {base bumper size : ℕ} {cs : List (ℕ × ℕ)}

theorem perm (h : Layout base bumper size cs) {cs' : List (ℕ × ℕ)} (hp : cs.Perm cs') :
    Layout base bumper size cs' where
  base_aligned := h.base_aligned
  bumper_aligned := h.bumper_aligned
  base_le := h.base_le
  bumper_le := h.bumper_le
  apart := (hp.pairwise_iff Apart.symm).mp h.apart
  inside c hc := h.inside c (hp.mem_iff.mpr hc)
  tiled := (hp.map Prod.snd).sum_eq ▸ h.tiled

theorem grow (h : Layout base bumper size cs) {size' : ℕ} (hs : size ≤ size') :
    Layout base bumper size' cs where
  base_aligned := h.base_aligned
  bumper_aligned := h.bumper_aligned
  base_le := h.base_le
  bumper_le := h.bumper_le
  apart := h.apart
  inside c hc := by have := h.inside c hc; omega
  tiled := h.tiled

/-- A chunk taken at the bumper lies past all others. -/
theorem bump (h : Layout base bumper size cs) {len size' : ℕ} (hlen : len % 8 = 0)
    (h16 : 16 ≤ len) (hmax : bumper + len ≤ u32Max) (hfit : bumper + len ≤ size') :
    Layout base (bumper + len) size' (cs ++ [(bumper, len)]) where
  base_aligned := h.base_aligned
  bumper_aligned := by have := h.bumper_aligned; omega
  base_le := by have := h.base_le; omega
  bumper_le := hmax
  apart := by
    refine List.pairwise_append.mpr ⟨h.apart, List.pairwise_singleton _ _, ?_⟩
    intro c hc d hd
    rw [List.mem_singleton] at hd
    subst hd
    exact Or.inl (h.inside c hc).2.1
  inside c hc := by
    rcases List.mem_append.mp hc with hc | hc
    · have := h.inside c hc
      omega
    · rw [List.mem_singleton] at hc
      subst hc
      exact ⟨h.base_le, Nat.le_refl _, hfit, h.bumper_aligned, h16⟩
  tiled := by
    have := h.base_le
    simp only [List.map_append, List.sum_append, h.tiled, List.map_cons, List.map_nil,
      List.sum_cons, List.sum_nil]
    omega

/-- The headers of two chunks apart from each other are apart. -/
theorem headers_apart (h : Layout base bumper size cs) {c d : ℕ × ℕ} (hc : c ∈ cs)
    (hd : d ∈ cs) (hcd : Apart c d) : c.1 + 8 ≤ d.1 ∨ d.1 + 8 ≤ c.1 := by
  have := (h.inside c hc).2.2.2.2
  have := (h.inside d hd).2.2.2.2
  unfold Apart at hcd
  omega

/-- A chunk put first by a permutation is apart from every other one. -/
theorem apart_of_perm (h : Layout base bumper size cs) {c : ℕ × ℕ} {rest : List (ℕ × ℕ)}
    (hp : cs.Perm (c :: rest)) {d : ℕ × ℕ} (hd : d ∈ rest) : Apart c d :=
  List.rel_of_pairwise_cons ((hp.pairwise_iff Apart.symm).mp h.apart) hd

end Layout

/-! ## Free lists in the bytes -/

/-- The header pointers on the free list of `order`, head first. -/
def freeOf (free : List (ℕ × Order)) (order : Order) : List ℕ :=
  (free.filter fun x => x.2 = order).map Prod.fst

/-- A free list in the bytes: from `link`, each header is free and links to the
next, in the order `ps` lists them. -/
inductive FreeChain (bytes : ℕ → UInt8) : Link → List ℕ → Prop
  | nil : FreeChain bytes .nil []
  | cons {p : ℕ} {link : Link} {ps : List ℕ} :
      Stored bytes p (.free link) → FreeChain bytes link ps → FreeChain bytes (.ptr p) (p :: ps)

/-- A free list survives any change of bytes away from its headers. -/
theorem FreeChain.congr {bytes bytes' : ℕ → UInt8} {link : Link} {ps : List ℕ}
    (h : FreeChain bytes link ps) (hk : ∀ p ∈ ps, ∀ i < 8, bytes' (p + i) = bytes (p + i)) :
    FreeChain bytes' link ps := by
  induction h with
  | nil => exact .nil
  | cons hs _ ih =>
    exact .cons (hs.congr (hk _ List.mem_cons_self))
      (ih fun q hq => hk q (List.mem_cons_of_mem _ hq))

theorem mem_of_mem_freeOf {free : List (ℕ × Order)} {order : Order} {p : ℕ}
    (h : p ∈ freeOf free order) : (p, order) ∈ free := by
  simp only [freeOf, List.mem_map, List.mem_filter, decide_eq_true_eq] at h
  obtain ⟨⟨q, o⟩, ⟨hmem, rfl⟩, rfl⟩ := h
  exact hmem

@[simp] theorem freeOf_cons_self (free : List (ℕ × Order)) (p : ℕ) (order : Order) :
    freeOf ((p, order) :: free) order = p :: freeOf free order := by
  simp [freeOf]

theorem freeOf_cons_ne (free : List (ℕ × Order)) (p : ℕ) {order order' : Order}
    (h : order' ≠ order) : freeOf ((p, order) :: free) order' = freeOf free order' := by
  simp [freeOf, Ne.symm h]

/-- Taking the head of one order's list leaves the others. -/
theorem freeOf_erase_ne (free : List (ℕ × Order)) (p : ℕ) {order order' : Order}
    (h : order' ≠ order) : freeOf (free.erase (p, order)) order' = freeOf free order' := by
  have hnot : (p, order) ∉ free.filter (fun x => decide (x.2 = order')) := by
    simp only [List.mem_filter, decide_eq_true_eq, not_and]
    exact fun _ h' => h h'.symm
  simp only [freeOf, ← List.erase_filter, List.erase_of_not_mem hnot]

/-- Taking the head of a list leaves its tail. -/
theorem freeOf_erase_head {free : List (ℕ × Order)} {p : ℕ} {order : Order} {ps : List ℕ}
    (h : freeOf free order = p :: ps) : freeOf (free.erase (p, order)) order = ps := by
  simp only [freeOf, ← List.erase_filter] at h ⊢
  -- the first entry of `order` is `(p, order)`
  obtain ⟨⟨q, o⟩, rest, hfilter⟩ : ∃ x rest, free.filter (fun x => decide (x.2 = order)) =
      x :: rest := by
    cases hf : free.filter (fun x => decide (x.2 = order)) with
    | nil => simp [hf] at h
    | cons x rest => exact ⟨x, rest, rfl⟩
  have ho : o = order := by
    have : (q, o) ∈ free.filter (fun x => decide (x.2 = order)) := by rw [hfilter]; simp
    simpa using (List.mem_filter.mp this).2
  subst ho
  rw [hfilter, List.map_cons, List.cons.injEq] at h
  obtain ⟨rfl, hrest⟩ := h
  rw [hfilter, List.erase_cons_head, hrest]

/-! ## Headers -/

/-- Every live allocation has an occupied header with the order of its
request, and every order's free list runs through its free headers. -/
structure Headers (bytes : ℕ → UInt8) (freeLists : FreeLists) (live : List (ℕ × ℕ))
    (free : List (ℕ × Order)) : Prop where
  live_stored : ∀ x ∈ live, headerSize ≤ x.1 ∧
    ∃ order, Order.fromSize x.2 = .ok order ∧ Stored bytes (x.1 - headerSize) (.occupied order)
  free_chain : ∀ order, FreeChain bytes (freeLists.get order) (freeOf free order)

/-- The headers survive any change of bytes away from the chunks' headers. -/
theorem Headers.congr {bytes bytes' : ℕ → UInt8} {freeLists : FreeLists}
    {live : List (ℕ × ℕ)} {free : List (ℕ × Order)} (h : Headers bytes freeLists live free)
    (hk : ∀ c ∈ chunks live free, ∀ i < 8, bytes' (c.1 + i) = bytes (c.1 + i)) :
    Headers bytes' freeLists live free where
  live_stored x hx := by
    obtain ⟨h8, order, horder, hs⟩ := h.live_stored x hx
    exact ⟨h8, order, horder,
      hs.congr (hk (liveChunk x) (List.mem_append_left _ (List.mem_map_of_mem hx)))⟩
  free_chain order := (h.free_chain order).congr fun p hp =>
    hk (freeChunk (p, order)) (List.mem_append_right _
      (List.mem_map_of_mem (mem_of_mem_freeOf hp)))

end Gear.Allocator
