import Gear.Lib.AListSum

/-!
# Keeping part of an association list

`filterMap f s` keeps the entries of `s` to which `f` gives a value, with that
value, as a map's `into_iter().flat_map(..).collect()` does. Its keys are
among those of `s`, so it is again an association list. A lookup in it is a
lookup in `s` followed by `f` (`lookup_filterMap`), and a weighted sum over it
is a sum over `s` (`sumBy_filterMap`).
-/

namespace AList

variable {α : Type*} {β γ : α → Type*}

/-- The keys of the entries `f` keeps are among the keys. -/
theorem keys_filterMap_sublist (f : (a : α) → β a → Option (γ a)) (l : List (Sigma β)) :
    List.Sublist (l.filterMap fun e => (f e.1 e.2).map (Sigma.mk e.1)).keys l.keys := by
  induction l with
  | nil => exact List.Sublist.slnil
  | cons e l ih =>
    cases hf : f e.1 e.2 with
    | none => simpa [List.filterMap_cons, hf, List.keys] using ih.cons e.1
    | some c => simpa [List.filterMap_cons, hf, List.keys] using ih.cons_cons e.1

/-- The entries `f` keeps, with the values it gives them. -/
def filterMap (f : (a : α) → β a → Option (γ a)) (s : AList β) : AList γ where
  entries := s.entries.filterMap fun (e : Sigma β) => (f e.1 e.2).map (Sigma.mk e.1)
  nodupKeys := (keys_filterMap_sublist f s.entries).nodup s.nodupKeys

/-- A weighted sum over the kept entries is a sum over all entries, weighing
the dropped ones nothing. -/
theorem sumBy_filterMap (f : (a : α) → β a → Option (γ a)) (g : (a : α) → γ a → ℕ)
    (s : AList β) :
    (s.filterMap f).sumBy g = s.sumBy fun a b => ((f a b).map (g a)).getD 0 := by
  unfold sumBy filterMap
  dsimp only
  induction s.entries with
  | nil => rfl
  | cons e l ih =>
    cases hf : f e.1 e.2 with
    | none => simpa [List.filterMap_cons, hf] using ih
    | some c => simpa [List.filterMap_cons, hf] using ih

variable [DecidableEq α]

theorem dlookup_filterMap (f : (a : α) → β a → Option (γ a)) (a : α) :
    ∀ {l : List (Sigma β)}, l.NodupKeys →
      (l.filterMap fun e => (f e.1 e.2).map (Sigma.mk e.1)).dlookup a = (l.dlookup a).bind (f a)
  | [], _ => rfl
  | ⟨a', b⟩ :: l, hnd => by
    have ih := dlookup_filterMap f a (List.nodupKeys_cons.mp hnd).2
    by_cases ha : a = a'
    · subst ha
      -- the key is not in the rest, where the kept entries come from
      have hnot : l.dlookup a = none := List.dlookup_eq_none.mpr (List.nodupKeys_cons.mp hnd).1
      cases hf : f a b with
      | none => simp [hf, ih, hnot]
      | some c => simp [hf]
    · cases hf : f a' b <;> simp [hf, ha, ih]

/-- A lookup among the kept entries is a lookup followed by `f`. -/
theorem lookup_filterMap (f : (a : α) → β a → Option (γ a)) (s : AList β) (a : α) :
    (s.filterMap f).lookup a = (s.lookup a).bind (f a) :=
  dlookup_filterMap f a s.nodupKeys

end AList
