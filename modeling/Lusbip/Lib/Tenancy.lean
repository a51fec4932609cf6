import Mathlib.Logic.Function.Basic

/-!
# One place and its tenant

There is one place, which is empty or bears a ticket, and there are parties, each of which may think
that the place of a ticket is its own. They are right, and at most one of them thinks so, as long as
a party begins to think so only when nobody does, and the place is emptied only when nobody does.
-/

namespace Lib
namespace Tenancy

variable {ι τ : Type*} {own own' : ι → Option τ} {place place' : Option τ} {i j : ι} {t u : τ}

/-- Whoever thinks the place is its own is right, and the only one. -/
structure Held (own : ι → Option τ) (place : Option τ) : Prop where
  there : ∀ i t, own i = some t → place = some t
  alone : ∀ i j t u, own i = some t → own j = some u → i = j

/-- Nobody thinks the place is its own. -/
def Vacant (own : ι → Option τ) : Prop := ∀ i, own i = none

theorem Vacant.held (h : Vacant own) (place : Option τ) : Held own place :=
  ⟨fun i _ hi => (nomatch (h i).symm.trans hi), fun i _ _ _ hi _ => (nomatch (h i).symm.trans hi)⟩

/-- An empty place has no tenant. -/
theorem Held.vacant (h : Held own none) : Vacant own := by
  intro i
  cases hi : own i with
  | none => rfl
  | some t => exact nomatch h.there i t hi

/-- A place whose ticket nobody has, has no tenant. -/
theorem Held.vacant_of_ne (h : Held own place) (hne : ∀ t, place = some t → ∀ i, own i ≠ some t) :
    Vacant own := by
  intro i
  cases hi : own i with
  | none => rfl
  | some t => exact absurd hi (hne t (h.there i t hi) i)

/-- Some may leave; the place stays. -/
theorem Held.keep (h : Held own place) (hown : ∀ i, own' i = none ∨ own' i = own i)
    (hplace : place' = place) : Held own' place' := by
  have howns : ∀ i t, own' i = some t → own i = some t := by
    intro i t hi
    rcases hown i with hnone | heq
    · exact nomatch hnone.symm.trans hi
    · exact heq.symm.trans hi
  refine ⟨fun i t hi => hplace.trans (h.there i t (howns i t hi)), fun i j t u hi hj => ?_⟩
  exact h.alone i j t u (howns i t hi) (howns j u hj)

/-- A party moves into a place that nobody has. -/
theorem Vacant.enter (h : Vacant own) (hother : ∀ j, j ≠ i → own' j = own j)
    (hi : own' i = some t) : Held own' (some t) := by
  have honly : ∀ j u, own' j = some u → j = i := by
    intro j u hj
    refine Classical.byContradiction fun hne => ?_
    exact nomatch (h j).symm.trans ((hother j hne).symm.trans hj)
  refine ⟨fun j u hj => ?_, fun j k u v hj hk => (honly j u hj).trans (honly k v hk).symm⟩
  obtain rfl := honly j u hj
  exact hi.symm.trans hj

/-- When the tenant leaves, nobody is there. -/
theorem Held.leave (h : Held own place) (hi : own i = some t) (hother : ∀ j, j ≠ i → own' j = own j)
    (hleft : own' i = none) : Vacant own' := by
  intro j
  by_cases hji : j = i
  · exact hji ▸ hleft
  · rw [hother j hji]
    cases hj : own j with
    | none => rfl
    | some u => exact absurd (h.alone j i u t hj hi) hji

/-! ## Parties with states

What a party thinks is read off its state, and one party moves at a time. -/

section States

variable [DecidableEq ι] {σ : Type*} {claim : σ → Option τ} {state : ι → σ} {x : σ}

theorem claim_update_of_ne (hji : j ≠ i) :
    claim (Function.update state i x j) = claim (state j) := by
  rw [Function.update_of_ne hji]

theorem claim_update_self : claim (Function.update state i x i) = claim x := by
  rw [Function.update_self]

/-- A party goes on without the place, or as it was. -/
theorem Held.move (h : Held (fun j => claim (state j)) place)
    (hx : claim x = none ∨ claim x = claim (state i)) :
    Held (fun j => claim (Function.update state i x j)) place := by
  refine h.keep (fun j => ?_) rfl
  by_cases hji : j = i
  · subst hji
    simpa only [Function.update_self] using hx
  · exact Or.inr (claim_update_of_ne hji)

theorem Held.moveOut (h : Held (fun j => claim (state j)) place) (hi : claim (state i) = some t)
    (hx : claim x = none) : Vacant fun j => claim (Function.update state i x j) :=
  h.leave hi (fun _ hji => claim_update_of_ne hji) (claim_update_self.trans hx)

theorem Vacant.move (h : Vacant fun j => claim (state j)) (hx : claim x = none) :
    Vacant fun j => claim (Function.update state i x j) := by
  intro j
  by_cases hji : j = i
  · exact hji ▸ claim_update_self.trans hx
  · exact (claim_update_of_ne hji).trans (h j)

theorem Vacant.moveIn (h : Vacant fun j => claim (state j)) (hx : claim x = some t) :
    Held (fun j => claim (Function.update state i x j)) (some t) :=
  h.enter (fun _ hji => claim_update_of_ne hji) (claim_update_self.trans hx)

end States

/-! ## Parties under their own names

The ticket of a party may be the party itself. -/

section Names

variable {σ : Type*} {claims : σ → Bool} {state : ι → σ} {x : σ} {name : Option ι}

/-- Who claims the place, going by its state, does so under its own name. -/
def byName (claims : σ → Bool) (state : ι → σ) (i : ι) : Option ι :=
  if claims (state i) then some i else none

theorem byName_eq_some {k : ι} :
    byName claims state i = some k ↔ claims (state i) = true ∧ i = k := by
  unfold byName
  cases claims (state i) <;> simp

theorem byName_eq_none : byName claims state i = none ↔ claims (state i) = false := by
  unfold byName
  cases claims (state i) <;> simp

/-- Where the one that is named claims nothing, nobody does. -/
theorem Held.vacantByName (h : Held (byName claims state) name)
    (hname : ∀ k, name = some k → claims (state k) = false) : Vacant (byName claims state) := by
  intro j
  cases hj : byName claims state j with
  | none => rfl
  | some k =>
    have hthere := h.there j k hj
    obtain ⟨hclaims, rfl⟩ := byName_eq_some.mp hj
    exact absurd hclaims (by rw [hname _ hthere]; exact Bool.false_ne_true)

variable [DecidableEq ι]

/-- A party goes on without a claim, or with the one it had. -/
theorem Held.moveByName (h : Held (byName claims state) name)
    (hx : claims x = true → claims (state i) = true) :
    Held (byName claims (Function.update state i x)) name := by
  refine h.keep (fun j => ?_) rfl
  unfold byName
  by_cases hji : j = i
  · subst hji
    rw [Function.update_self]
    by_cases hclaims : claims x = true
    · exact Or.inr (by rw [if_pos hclaims, if_pos (hx hclaims)])
    · exact Or.inl (if_neg hclaims)
  · exact Or.inr (by rw [Function.update_of_ne hji])

theorem Vacant.moveByName (h : Vacant (byName claims state)) (hx : claims x = false) :
    Vacant (byName claims (Function.update state i x)) := by
  intro j
  by_cases hji : j = i
  · rw [byName_eq_none, hji, Function.update_self]
    exact hx
  · rw [byName_eq_none, Function.update_of_ne hji]
    exact byName_eq_none.mp (h j)

theorem Vacant.moveInByName (h : Vacant (byName claims state)) (hx : claims x = true) :
    Held (byName claims (Function.update state i x)) (some i) := by
  refine h.enter (i := i) (fun j hji => ?_) ?_
  · unfold byName
    rw [Function.update_of_ne hji]
  · rw [byName_eq_some, Function.update_self]
    exact ⟨hx, rfl⟩

end Names

end Tenancy
end Lib
