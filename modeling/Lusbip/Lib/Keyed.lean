import Mathlib.Data.List.Nodup

/-!
# Lists of items with keys

Items are told apart by a key. `pushNew` appends an item if its key is new, so the keys of a list
stay distinct, and `position` finds the item with a key again wherever it has moved to.
-/

namespace Lib
namespace Keyed

variable {α κ : Type*} [DecidableEq κ] (key : α → κ)

/-- The item is put behind the others, unless there is one with its key. -/
def pushNew (items : List α) (item : α) : List α :=
  if items.any fun other => key other = key item then items else items ++ [item]

def pushAll (items news : List α) : List α := news.foldl (pushNew key) items

/-- Where the item with a key stands. -/
def position (items : List α) (k : κ) : Option Nat := items.findIdx? fun item => key item = k

variable {key} {items news : List α} {item : α} {k : κ}

theorem any_key : (items.any fun other => key other = k) = true ↔ k ∈ items.map key := by
  simp

theorem pushNew_of_mem (h : key item ∈ items.map key) : pushNew key items item = items :=
  if_pos (any_key.mpr h)

theorem pushNew_of_notMem (h : key item ∉ items.map key) :
    pushNew key items item = items ++ [item] :=
  if_neg fun hany => h (any_key.mp hany)

theorem mem_keys_pushNew : k ∈ (pushNew key items item).map key ↔ k ∈ items.map key ∨ k = key item := by
  by_cases h : key item ∈ items.map key
  · rw [pushNew_of_mem h]
    refine ⟨Or.inl, fun hk => hk.elim id ?_⟩
    rintro rfl
    exact h
  · rw [pushNew_of_notMem h, List.map_append, List.mem_append, List.map_singleton,
      List.mem_singleton]

theorem nodup_pushNew (h : (items.map key).Nodup) : ((pushNew key items item).map key).Nodup := by
  by_cases hm : key item ∈ items.map key
  · rwa [pushNew_of_mem hm]
  · rw [pushNew_of_notMem hm, List.map_append, List.map_singleton]
    refine h.append (List.nodup_singleton _) fun k hk hk' => ?_
    rw [List.mem_singleton.mp hk'] at hk
    exact hm hk

theorem mem_keys_pushAll :
    k ∈ (pushAll key items news).map key ↔ k ∈ items.map key ∨ k ∈ news.map key := by
  induction news generalizing items with
  | nil => simp [pushAll]
  | cons item news ih =>
    show k ∈ (pushAll key (pushNew key items item) news).map key ↔ _
    rw [ih, mem_keys_pushNew, List.map_cons, List.mem_cons, or_assoc]

theorem nodup_pushAll (h : (items.map key).Nodup) : ((pushAll key items news).map key).Nodup := by
  induction news generalizing items with
  | nil => exact h
  | cons item news ih => exact ih (nodup_pushNew h)

/-- Nothing else gets into the list. -/
theorem mem_of_mem_pushAll (h : item ∈ pushAll key items news) : item ∈ items ∨ item ∈ news := by
  induction news generalizing items with
  | nil => exact Or.inl h
  | cons other news ih =>
    rcases ih h with h | h
    · unfold pushNew at h
      split at h
      · exact Or.inl h
      · rcases List.mem_append.mp h with h | h
        · exact Or.inl h
        · exact Or.inr (List.mem_singleton.mp h ▸ List.mem_cons_self)
    · exact Or.inr (List.mem_cons_of_mem other h)

theorem position_isSome : (position key items k).isSome = true ↔ k ∈ items.map key := by
  rw [position, List.findIdx?_isSome, any_key]

/-- The key is found where it is said to be. -/
theorem getElem?_of_position {n : Nat} (h : position key items k = some n) :
    (items[n]?).map key = some k := by
  obtain ⟨hn, hkey, -⟩ := List.findIdx?_eq_some_iff_getElem.mp h
  rw [List.getElem?_eq_getElem hn, Option.map_some, of_decide_eq_true hkey]

end Keyed
end Lib
