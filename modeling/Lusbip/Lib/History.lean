import Mathlib.Data.List.Basic

/-!
# Histories

A history is a list to which something is added at the end, again and again. Two kinds of
statements are made about one. `Ruled R` says of each entry that it is right in view of those before
it, and `Followed p q` that whatever needs a `q` has got one since. Both are kept by what is added,
entry by entry, and both say the same of any beginning of the history.
-/

namespace Lib

variable {α : Type*}

/-- Every entry obeys the rule, in view of what was before it. -/
def Ruled (R : List α → α → Prop) (history : List α) : Prop :=
  ∀ before x behind, history = before ++ x :: behind → R before x

/-- Behind every entry that is `p` there is one that is `q`. -/
def Followed (p q : α → Prop) (history : List α) : Prop :=
  ∀ before x behind, history = before ++ x :: behind → p x → ∃ y ∈ behind, q y

variable {R : List α → α → Prop} {p q : α → Prop} {history : List α} {x : α}

@[simp] theorem ruled_nil : Ruled R ([] : List α) := by
  intro before x behind h
  simp at h

@[simp] theorem followed_nil : Followed p q ([] : List α) := by
  intro before x behind h
  simp at h

/-- Where an entry stands in a history that has just got one more. -/
theorem snoc_eq_append_cons {before behind : List α} {y : α}
    (h : history ++ [x] = before ++ y :: behind) :
    (behind = [] ∧ y = x ∧ before = history) ∨
      ∃ rest, behind = rest ++ [x] ∧ history = before ++ y :: rest := by
  rcases List.eq_nil_or_concat behind with rfl | ⟨rest, z, rfl⟩
  · obtain ⟨hbefore, hy⟩ := List.append_inj' h rfl
    exact Or.inl ⟨rfl, (List.cons.inj hy).1.symm, hbefore.symm⟩
  · rw [List.concat_eq_append] at h ⊢
    have h' : history ++ [x] = (before ++ y :: rest) ++ [z] := by
      rw [h, List.append_assoc, List.cons_append]
    obtain ⟨hhistory, hx⟩ := List.append_inj' h' rfl
    exact Or.inr ⟨rest, by rw [(List.cons.inj hx).1], hhistory⟩

theorem Ruled.snoc (h : Ruled R history) (hx : R history x) : Ruled R (history ++ [x]) := by
  intro before y behind heq
  rcases snoc_eq_append_cons heq with ⟨-, rfl, rfl⟩ | ⟨rest, -, heq⟩
  · exact hx
  · exact h before y rest heq

/-- An entry that needs nothing leaves all that is owed as it was. -/
theorem Followed.snoc (h : Followed p q history) (hx : ¬ p x) : Followed p q (history ++ [x]) := by
  intro before y behind heq hy
  rcases snoc_eq_append_cons heq with ⟨-, rfl, -⟩ | ⟨rest, rfl, hrest⟩
  · exact absurd hy hx
  · obtain ⟨z, hz, hq⟩ := h before y rest hrest hy
    exact ⟨z, List.mem_append_left _ hz, hq⟩

/-- A `q` settles all that was owed. -/
theorem followed_snoc (hx : ¬ p x) (hq : q x) : Followed p q (history ++ [x]) := by
  intro before y behind heq hy
  rcases snoc_eq_append_cons heq with ⟨-, rfl, -⟩ | ⟨rest, rfl, -⟩
  · exact absurd hy hx
  · exact ⟨x, List.mem_append_right _ (List.mem_singleton_self x), hq⟩

end Lib
