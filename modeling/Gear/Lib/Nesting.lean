import Mathlib

/-!
# Matching brackets in structured code

Structured control flow nests: an instruction opens a block, closes one,
separates two arms of one, or does none of these. For a body given as a list,
`matchingEnd` finds the instruction closing the block opened at a position,
and `matchingElse` the separator of its arms, if it has one. The scans count
the nesting depth and are bounded by the length of the body, so they are
structural and compute. `Ending` says how a path through such code ends.
-/

namespace Nesting

/-- What an instruction does to the nesting depth. -/
inductive Bracket
  | opens
  | separates
  | closes
  | neither
deriving DecidableEq, Repr

variable {I : Type} (bracket : I → Bracket)

/-- How a path through structured code ends: it leaves the function, traps,
or cannot go on (no such label, no decision left, no fuel). -/
inductive Ending
  | normal
  | trap
  | stuck
deriving DecidableEq, Repr

/-- The position of the closing instruction at depth `0` from `pos` on, within
`fuel` instructions. -/
def scanEnd (body : List I) : ℕ → ℕ → ℕ → Option ℕ
  | 0, _, _ => none
  | fuel + 1, pos, depth =>
    match body[pos]? with
    | none => none
    | some i =>
      match bracket i with
      | .opens => scanEnd body fuel (pos + 1) (depth + 1)
      | .closes => if depth = 0 then some pos else scanEnd body fuel (pos + 1) (depth - 1)
      | _ => scanEnd body fuel (pos + 1) depth

/-- The position of the separator at depth `0` from `pos` on, if one comes
before the closing instruction at depth `0`. -/
def scanElse (body : List I) : ℕ → ℕ → ℕ → Option ℕ
  | 0, _, _ => none
  | fuel + 1, pos, depth =>
    match body[pos]? with
    | none => none
    | some i =>
      match bracket i with
      | .opens => scanElse body fuel (pos + 1) (depth + 1)
      | .separates => if depth = 0 then some pos else scanElse body fuel (pos + 1) depth
      | .closes => if depth = 0 then none else scanElse body fuel (pos + 1) (depth - 1)
      | .neither => scanElse body fuel (pos + 1) depth

/-- The closing instruction of the block opened at `pos`. -/
def matchingEnd (body : List I) (pos : ℕ) : Option ℕ :=
  scanEnd bracket body body.length (pos + 1) 0

/-- The separator of the block opened at `pos`, if it has one. -/
def matchingElse (body : List I) (pos : ℕ) : Option ℕ :=
  scanElse bracket body body.length (pos + 1) 0

end Nesting
