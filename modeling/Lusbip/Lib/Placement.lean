import Mathlib.Data.List.Basic
import Mathlib.Data.List.Nodup

/-!
# Items that stand in one place

Several parties keep lists of items and hand items to one another, and one wants to know
that no item is ever in two hands, or twice in one. `Placed place p l` says it of one list,
given a map from items to places: `l` has no duplicates, and all of it is placed at `p`.
Lists at different places are then disjoint, without any of them mentioning the others.

A hand-over changes the map with `relocate`. What it takes to follow one is three lemmas:
the list the items leave (`Placed.leave`), the list they enter (`Placed.enter`), and every
other one (`Placed.keep`).
-/

namespace Lib
namespace Placement

variable {κ π : Type*}

/-- The list holds each item once, and only items placed at `p`. -/
def Placed (place : κ → π) (p : π) (l : List κ) : Prop :=
  l.Nodup ∧ ∀ k ∈ l, place k = p

theorem placed_nil (place : κ → π) (p : π) : Placed place p [] :=
  ⟨List.nodup_nil, fun _ h => absurd h List.not_mem_nil⟩

variable [DecidableEq κ]

/-- The items of `moved` are now at `q`. -/
def relocate (place : κ → π) (moved : List κ) (q : π) : κ → π := fun k =>
  if k ∈ moved then q else place k

variable {place : κ → π} {p q : π} {l l' moved : List κ} {k : κ}

theorem relocate_of_mem (h : k ∈ moved) : relocate place moved q k = q := if_pos h

theorem relocate_of_not_mem (h : k ∉ moved) : relocate place moved q k = place k := if_neg h

/-- A list that counts no item more often than a placed one is placed. -/
theorem Placed.of_count_le (h : Placed place p l) (hc : ∀ k, l'.count k ≤ l.count k) :
    Placed place p l' := by
  constructor
  · rw [List.nodup_iff_count_le_one]
    intro k
    exact Nat.le_trans (hc k) (List.nodup_iff_count_le_one.mp h.1 k)
  · intro k hk
    exact h.2 k (List.count_pos_iff.mp (Nat.lt_of_lt_of_le (List.count_pos_iff.mpr hk) (hc k)))

/-- Items that come from elsewhere do not disturb a list. -/
theorem Placed.keep (h : Placed place p l) (hm : ∀ k ∈ moved, place k ≠ p) :
    Placed (relocate place moved q) p l := by
  refine ⟨h.1, fun k hk => ?_⟩
  have hk' : k ∉ moved := fun hkm => hm k hkm (h.2 k hk)
  rw [relocate_of_not_mem hk']
  exact h.2 k hk

/-- What leaves a list was placed there, each item once, and is not in what remains. -/
theorem Placed.leave (h : Placed place p l)
    (hc : ∀ k, moved.count k + l'.count k ≤ l.count k) :
    Placed place p moved ∧ Placed (relocate place moved q) p l' := by
  have hmoved : Placed place p moved := h.of_count_le fun k =>
    Nat.le_trans (Nat.le_add_right _ _) (hc k)
  have hrest : Placed place p l' := h.of_count_le fun k =>
    Nat.le_trans (Nat.le_add_left _ _) (hc k)
  refine ⟨hmoved, hrest.1, fun k hk => ?_⟩
  have hk' : k ∉ moved := by
    intro hkm
    have hone := List.nodup_iff_count_le_one.mp h.1 k
    have h1 := List.count_pos_iff.mpr hkm
    have h2 := List.count_pos_iff.mpr hk
    have := hc k
    omega
  rw [relocate_of_not_mem hk']
  exact hrest.2 k hk

/-- Items that come from elsewhere are added to a list. -/
theorem Placed.enter (h : Placed place q l) (hn : moved.Nodup)
    (hm : ∀ k ∈ moved, place k ≠ q) : Placed (relocate place moved q) q (l ++ moved) := by
  constructor
  · refine List.nodup_append.mpr ⟨h.1, hn, ?_⟩
    intro k hk k' hk' heq
    subst heq
    exact hm k hk' (h.2 k hk)
  · intro k hk
    rcases List.mem_append.mp hk with hk | hk
    · exact (h.keep hm).2 k hk
    · exact relocate_of_mem hk

/-! ## A list for each place -/

variable {lists lists' : π → List κ}

/-- Where no list gets longer, nothing has to move. -/
theorem placed_shrink (h : ∀ r, Placed place r (lists r))
    (hc : ∀ r k, (lists' r).count k ≤ (lists r).count k) : ∀ r, Placed place r (lists' r) :=
  fun r => (h r).of_count_le (hc r)

/-- A place takes over items that stood in another one. -/
theorem placed_relocate (h : ∀ r, Placed place r (lists r)) (hpq : p ≠ q)
    (hm : Placed place p moved) (hp : Placed (relocate place moved q) p (lists' p))
    (hq : ∀ k, (lists' q).count k ≤ (lists q).count k + moved.count k)
    (ho : ∀ r, r ≠ p → r ≠ q → ∀ k, (lists' r).count k ≤ (lists r).count k) :
    ∀ r, Placed (relocate place moved q) r (lists' r) := by
  intro r
  have hne : ∀ r, p ≠ r → ∀ k ∈ moved, place k ≠ r := by
    intro r hr k hk heq
    exact hr ((hm.2 k hk).symm.trans heq)
  by_cases hrp : r = p
  · rw [hrp]
    exact hp
  · by_cases hrq : r = q
    · rw [hrq]
      refine ((h q).enter hm.1 (hne q hpq)).of_count_le fun k => ?_
      rw [List.count_append]
      exact hq k
    · exact ((h r).keep (hne r (Ne.symm hrp))).of_count_le (ho r hrp hrq)

/-- A hand-over: what the list at `q` gains, the list at `p` has lost. -/
theorem placed_transfer (h : ∀ r, Placed place r (lists r)) (hpq : p ≠ q)
    (hp : ∀ k, moved.count k + (lists' p).count k ≤ (lists p).count k)
    (hq : ∀ k, (lists' q).count k ≤ (lists q).count k + moved.count k)
    (ho : ∀ r, r ≠ p → r ≠ q → ∀ k, (lists' r).count k ≤ (lists r).count k) :
    Placed place p moved ∧ ∀ r, Placed (relocate place moved q) r (lists' r) := by
  obtain ⟨hm, hrest⟩ := (h p).leave (q := q) hp
  exact ⟨hm, placed_relocate h hpq hm hrest hq ho⟩

/-- Items that stand nowhere may be found anywhere. -/
theorem placed_found (h : ∀ r, Placed place r (lists r)) (hm : moved.Nodup)
    (hnew : ∀ r, ∀ k ∈ moved, k ∉ lists r)
    (hq : ∀ k, (lists' q).count k ≤ (lists q).count k + moved.count k)
    (ho : ∀ r, r ≠ q → ∀ k, (lists' r).count k ≤ (lists r).count k) :
    ∀ r, Placed (relocate place moved q) r (lists' r) := by
  have hstay : ∀ r, Placed (relocate place moved q) r (lists r) := by
    refine fun r => ⟨(h r).1, fun k hk => ?_⟩
    rw [relocate_of_not_mem fun hkm => hnew r k hkm hk]
    exact (h r).2 k hk
  intro r
  by_cases hr : r = q
  · subst hr
    have henter : Placed (relocate place moved r) r (lists r ++ moved) := by
      refine ⟨List.nodup_append.mpr ⟨(h r).1, hm, ?_⟩, fun k hk => ?_⟩
      · rintro k hk k' hk' rfl
        exact hnew r k hk' hk
      · exact (List.mem_append.mp hk).elim ((hstay r).2 k) relocate_of_mem
    refine henter.of_count_le fun k => ?_
    rw [List.count_append]
    exact hq k
  · exact (hstay r).of_count_le (ho r hr)

end Placement
end Lib
