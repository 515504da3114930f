import Mathlib

/-!
# Peeling `Except` computations

A model written in the `Except` monad succeeds only if every step does.
`bind_eq_ok` takes a successful `x >>= f` apart into its two steps, so that a
proof about a `do` block follows the block step by step, with `obtain`,
instead of unfolding it; the simp lemmas run a step that is already known.
-/

namespace Except

variable {ε α β : Type}

@[simp] theorem ok_bind (a : α) (f : α → Except ε β) : (Except.ok a >>= f) = f a := rfl

@[simp] theorem error_bind (e : ε) (f : α → Except ε β) : (Except.error e >>= f) = .error e := rfl

@[simp] theorem pure_eq_ok (a : α) : (pure a : Except ε α) = .ok a := rfl

@[simp] theorem throw_eq_error (e : ε) : (throw e : Except ε α) = .error e := rfl

theorem bind_eq_ok {x : Except ε α} {f : α → Except ε β} {r : β} :
    x >>= f = .ok r ↔ ∃ a, x = .ok a ∧ f a = .ok r := by
  cases x with
  | error e => simp
  | ok a => simp

end Except
