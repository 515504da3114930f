import Mathlib

/-!
# Little-endian words in a byte memory

A byte memory is a function from addresses to bytes. `load` reads `n` bytes
from an address, `store` writes a list of bytes at an address, and
`leBytes`/`ofLEBytes` convert between a number and its little-endian bytes.
The lemmas are the three a heap proof needs: a number read back after it was
written (`ofLEBytes_leBytes`, `load_store_self`), a write outside a range
leaves the range as it was (`load_store_of_disjoint`), and a read only looks
at its own bytes (`load_congr`).
-/

namespace ByteMemory

/-- The `n` little-endian bytes of `v` (the low `8 * n` bits). -/
def leBytes (v : ℕ) : ℕ → List UInt8
  | 0 => []
  | n + 1 => UInt8.ofNat v :: leBytes (v / 256) n

/-- The number whose little-endian bytes are `bs`. -/
def ofLEBytes : List UInt8 → ℕ
  | [] => 0
  | b :: bs => b.toNat + 256 * ofLEBytes bs

/-- The `n` bytes at `ptr`. -/
def load (mem : ℕ → UInt8) (ptr n : ℕ) : List UInt8 :=
  (List.range n).map fun i => mem (ptr + i)

/-- `mem` with `bs` written from `ptr` on. -/
def store (mem : ℕ → UInt8) (ptr : ℕ) (bs : List UInt8) : ℕ → UInt8 :=
  fun a => if ptr ≤ a ∧ a < ptr + bs.length then bs.getD (a - ptr) 0 else mem a

@[simp] theorem leBytes_length (v n : ℕ) : (leBytes v n).length = n := by
  induction n generalizing v with
  | zero => rfl
  | succ n ih => simp [leBytes, ih]

@[simp] theorem load_length (mem : ℕ → UInt8) (ptr n : ℕ) : (load mem ptr n).length = n := by
  simp [load]

theorem ofLEBytes_leBytes (v n : ℕ) : ofLEBytes (leBytes v n) = v % 256 ^ n := by
  induction n generalizing v with
  | zero => simp [leBytes, ofLEBytes, Nat.mod_one]
  | succ n ih =>
    have hbyte : (UInt8.ofNat v).toNat = v % 256 := by simp
    -- the low byte, then the rest of `v` shifted down by one byte
    rw [leBytes, ofLEBytes, ih, hbyte, Nat.pow_succ', Nat.mod_mul]

theorem store_of_outside {mem : ℕ → UInt8} {ptr a : ℕ} {bs : List UInt8}
    (h : a < ptr ∨ ptr + bs.length ≤ a) : store mem ptr bs a = mem a := by
  simp only [store]
  rw [if_neg (by omega)]

theorem load_congr {mem mem' : ℕ → UInt8} {ptr n : ℕ}
    (h : ∀ i < n, mem (ptr + i) = mem' (ptr + i)) : load mem ptr n = load mem' ptr n := by
  simp only [load, List.map_inj_left, List.mem_range]
  exact h

theorem load_store_self (mem : ℕ → UInt8) (ptr : ℕ) (bs : List UInt8) :
    load (store mem ptr bs) ptr bs.length = bs := by
  apply List.ext_getElem (by simp)
  intro i hi _
  simp only [load_length] at hi
  simp only [load, List.getElem_map, List.getElem_range, store]
  rw [if_pos (by omega), Nat.add_sub_cancel_left]
  simp [hi]

theorem load_store_of_disjoint (mem : ℕ → UInt8) {ptr q n : ℕ} {bs : List UInt8}
    (h : q + n ≤ ptr ∨ ptr + bs.length ≤ q) : load (store mem ptr bs) q n = load mem q n :=
  load_congr fun _ _ => store_of_outside (by omega)

end ByteMemory
