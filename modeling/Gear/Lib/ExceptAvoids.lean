import Gear.Lib.ExceptBind

/-!
# Errors a computation never raises

`Avoids bad P r` says that the `Except` computation `r` does not fail with an
error of `bad`, and that what it returns satisfies `P`: a postcondition that
rules some errors out and allows the others. It is closed under `pure` and
`bind` and carries over to `mapM` and `foldlM` by induction on the list, so a
proof that a model never raises some error follows the model step by step,
with the invariant of a loop as `P`.
-/

namespace Except

variable {ε α β : Type} {bad : ε → Prop} {P Q : α → Prop}

/-- `r` does not fail with an error of `bad`, and returns something in `P`. -/
def Avoids (bad : ε → Prop) (P : α → Prop) : Except ε α → Prop
  | .ok a => P a
  | .error e => ¬ bad e

@[simp] theorem avoids_ok {a : α} : Avoids bad P (.ok a) ↔ P a := Iff.rfl

@[simp] theorem avoids_error {e : ε} : Avoids bad P (.error e : Except ε α) ↔ ¬ bad e := Iff.rfl

theorem Avoids.mono {r : Except ε α} (h : Avoids bad P r) (hPQ : ∀ a, P a → Q a) :
    Avoids bad Q r := by
  cases r with
  | error e => exact h
  | ok a => exact hPQ a h

/-- The errors `r` avoids, with what holds of each value it returns. -/
theorem Avoids.of_ok {r : Except ε α} (h : Avoids bad Q r) (hok : ∀ a, r = .ok a → P a) :
    Avoids bad P r := by
  cases r with
  | error e => exact h
  | ok a => exact hok a rfl

/-- Avoiding no error and promising nothing holds of every computation. -/
theorem avoids_trivial (r : Except ε α) : Avoids (fun _ => False) (fun _ => True) r := by
  cases r <;> simp

/-- Fewer errors to avoid. -/
theorem Avoids.weaken {bad' : ε → Prop} {r : Except ε α} (h : Avoids bad P r)
    (hbad : ∀ e, bad' e → bad e) : Avoids bad' P r := by
  cases r with
  | error e => exact fun he => h (hbad e he)
  | ok a => exact h

/-- Two postconditions of one computation, with the errors the first avoids. -/
theorem Avoids.and {bad' : ε → Prop} {r : Except ε α} (hP : Avoids bad P r)
    (hQ : Avoids bad' Q r) : Avoids bad (fun a => P a ∧ Q a) r := by
  cases r with
  | error e => exact hP
  | ok a => exact ⟨hP, hQ⟩

theorem Avoids.of_eq_ok {r : Except ε α} {a : α} (h : Avoids bad P r) (hr : r = .ok a) : P a := by
  subst hr
  exact h

theorem Avoids.ne_error {r : Except ε α} {e : ε} (h : Avoids bad P r) (he : bad e) :
    r ≠ .error e := by
  rintro rfl
  exact h he

theorem avoids_bind {Q : β → Prop} {x : Except ε β} {f : β → Except ε α}
    (hx : Avoids bad Q x) (hf : ∀ b, Q b → Avoids bad P (f b)) : Avoids bad P (x >>= f) := by
  cases x with
  | error e => exact hx
  | ok b => exact hf b hx

/-- The rule of `mapM`: every element maps without an error of `bad`. -/
theorem avoids_mapM {f : β → Except ε α} (l : List β)
    (hf : ∀ b ∈ l, Avoids bad (fun _ => True) (f b)) :
    Avoids bad (fun _ => True) (l.mapM f) := by
  induction l with
  | nil => trivial
  | cons b l ih =>
    rw [List.mapM_cons]
    exact avoids_bind (hf b (List.mem_cons_self ..)) fun _ _ =>
      avoids_bind (ih fun b' hb' => hf b' (List.mem_cons_of_mem _ hb')) fun _ _ => trivial

/-- The rule of `foldlM`: an invariant of the accumulator that every step
keeps, without an error of `bad`, is kept by the fold. -/
theorem avoids_foldlM {P : β → Prop} {f : β → α → Except ε β} (l : List α) {s : β} (hs : P s)
    (hstep : ∀ s, ∀ a ∈ l, P s → Avoids bad P (f s a)) : Avoids bad P (l.foldlM f s) := by
  induction l generalizing s with
  | nil => exact hs
  | cons a l ih =>
    rw [List.foldlM_cons]
    exact avoids_bind (hstep s a (List.mem_cons_self ..) hs) fun s' hs' =>
      ih hs' fun s'' a' ha' => hstep s'' a' (List.mem_cons_of_mem _ ha')

/-- The rule of a fold along a relation to where it started: a reflexive and
transitive relation that every step keeps relates the start to the end. -/
theorem avoids_foldlM_rel {R : β → β → Prop} (hrefl : ∀ s, R s s)
    (htrans : ∀ {s t u}, R s t → R t u → R s u) {f : β → α → Except ε β}
    (hf : ∀ s a, Avoids bad (R s) (f s a)) (l : List α) (s : β) :
    Avoids bad (R s) (l.foldlM f s) :=
  avoids_foldlM l (hrefl s) fun t a _ hst => (hf t a).mono fun _ htu => htrans hst htu

end Except
