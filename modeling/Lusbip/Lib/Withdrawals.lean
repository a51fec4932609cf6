import Mathlib.Data.List.Chain
import Mathlib.Data.List.Nodup
import Mathlib.Data.List.ReduceOption

/-!
# Requests that can be withdrawn

Requests under one number stand in a line, and so do their withdrawals: `some a` is a request,
`none` withdraws the one before it. A server takes from the front of the line. It answers a request,
gives it up when it comes to the withdrawal first, or passes over a withdrawal that comes too late.

`Open` says that the last request has not been withdrawn, `Owed` that one has been and has not come
to its end. `Taken` is all that a server can do to a line; whatever it is, an open request stays
open until it is answered, and an owed one ends by an answer or by being given up.
-/

namespace Lib
namespace Withdrawals

variable {α : Type*}

/-- The line ends with a request. -/
def Open (line : List (Option α)) (a : α) : Prop := line.getLast? = some (some a)

/-- Some request has its withdrawal behind it. -/
def Owed (line : List (Option α)) : Prop := ∃ a, [some a, none].Sublist line

/-- A request follows another one only after a withdrawal, and stands in the line once. -/
structure Alternating (line : List (Option α)) : Prop where
  apart : line.IsChain fun x y => x = none ∨ y = none
  once : line.reduceOption.Nodup

/-- What a server can leave of a line: `answered` are the requests it answers, and `withdrawn`
    tells whether it gives up any. -/
inductive Taken (answered : α → Prop) (withdrawn : Prop) :
    List (Option α) → List (Option α) → Prop where
  | refl (line : List (Option α)) : Taken answered withdrawn line line
  | passed {line line' : List (Option α)} (h : Taken answered withdrawn line line') :
      Taken answered withdrawn (none :: line) line'
  | withdrawn {line line' : List (Option α)} (a : α) (hw : withdrawn)
      (h : Taken answered withdrawn line line') :
      Taken answered withdrawn (some a :: none :: line) line'
  | answered {line line' : List (Option α)} (a : α) (ha : answered a)
      (h : Taken answered withdrawn line line') : Taken answered withdrawn (some a :: line) line'

variable {answered answered' : α → Prop} {withdrawn withdrawn' : Prop}
  {line line' line'' : List (Option α)} {a : α}

/-! ## Lines -/

theorem not_open_nil : ¬ Open [] a := by
  intro h
  cases h

theorem open_snoc (line : List (Option α)) (a : α) : Open (line ++ [some a]) a :=
  List.getLast?_concat

theorem not_open_snoc : ¬ Open (line ++ [none]) a := by
  intro h
  rw [Open, List.getLast?_concat] at h
  cases h

theorem Open.mem (h : Open line a) : some a ∈ line := List.mem_of_getLast? h

/-- The request at the end is the first entry only if it is the only one. -/
theorem open_cons {x : Option α} (h : Open (x :: line) a) :
    x = some a ∧ line = [] ∨ Open line a := by
  rw [Open, List.getLast?_cons] at h
  cases hrest : line.getLast? with
  | none =>
    rw [hrest] at h
    exact Or.inl ⟨Option.some.inj h, List.getLast?_eq_none_iff.mp hrest⟩
  | some y =>
    rw [hrest] at h
    cases h
    exact Or.inr hrest

/-- What stands before the end does not matter. -/
theorem Open.front (h : Open line a) (front : List (Option α)) : Open (front ++ line) a := by
  rw [Open, List.getLast?_append, h]
  rfl

theorem Open.of_append {front : List (Option α)} (h : Open (front ++ line) a) (hne : line ≠ []) :
    Open line a := by
  rwa [Open, List.getLast?_append_of_ne_nil front hne] at h

theorem Open.owed (h : Open line a) : Owed (line ++ [none]) :=
  ⟨a, (List.singleton_sublist.mpr h.mem).append (List.Sublist.refl [none])⟩

theorem Owed.append (h : Owed line) (rest : List (Option α)) : Owed (line ++ rest) := by
  obtain ⟨b, hb⟩ := h
  exact ⟨b, hb.trans (List.sublist_append_left line rest)⟩

theorem Owed.mem (h : Owed line) : ∃ a, some a ∈ line := by
  obtain ⟨a, ha⟩ := h
  exact ⟨a, ha.subset List.mem_cons_self⟩

theorem alternating_nil : Alternating ([] : List (Option α)) := ⟨.nil, List.nodup_nil⟩

theorem Alternating.suffix (h : Alternating line) (hs : line' <:+ line) : Alternating line' where
  apart := h.apart.suffix hs
  once := h.once.sublist (hs.sublist.filterMap id)

theorem Alternating.withdraw (h : Alternating line) : Alternating (line ++ [none]) where
  apart := by
    refine h.apart.append (.singleton none) fun x _ y hy => ?_
    cases hy
    exact Or.inr rfl
  once := by
    rw [List.reduceOption_append, List.reduceOption_singleton, Option.toList_none, List.append_nil]
    exact h.once

theorem Alternating.request (h : Alternating line) (hopen : ∀ b, ¬ Open line b) (hnew : some a ∉ line) :
    Alternating (line ++ [some a]) where
  apart := by
    refine h.apart.append (.singleton _) fun x hx y _ => ?_
    cases x with
    | none => exact Or.inl rfl
    | some b => exact absurd hx (hopen b)
  once := by
    rw [List.reduceOption_append, List.reduceOption_singleton, Option.toList_some]
    refine List.Nodup.append h.once (List.nodup_singleton a) fun b hb hb' => ?_
    rw [List.mem_singleton.mp hb'] at hb
    exact hnew (List.reduceOption_mem_iff.mp hb)

theorem not_alternating_two {b : α} : ¬ Alternating (some a :: some b :: line) := by
  intro h
  rcases (List.isChain_cons_cons.mp h.apart).1 with h | h
  · cases h
  · cases h

theorem Alternating.not_mem_tail (h : Alternating (some a :: line)) : some a ∉ line := by
  intro hm
  have honce := h.once
  rw [List.reduceOption_cons_of_some] at honce
  exact (List.nodup_cons.mp honce).1 (List.reduceOption_mem_iff.mpr hm)

/-! ## What a server leaves -/

theorem Taken.mono (h : Taken answered withdrawn line line') (ha : ∀ a, answered a → answered' a)
    (hw : withdrawn → withdrawn') : Taken answered' withdrawn' line line' := by
  induction h with
  | refl line => exact .refl line
  | passed h ih => exact .passed ih
  | withdrawn a hw' h ih => exact .withdrawn a (hw hw') ih
  | answered a ha' h ih => exact .answered a (ha a ha') ih

theorem Taken.trans (h : Taken answered withdrawn line line')
    (h' : Taken answered withdrawn line' line'') : Taken answered withdrawn line line'' := by
  induction h with
  | refl line => exact h'
  | passed h ih => exact .passed (ih h')
  | withdrawn a hw h ih => exact .withdrawn a hw (ih h')
  | answered a ha h ih => exact .answered a ha (ih h')

theorem Taken.suffix (h : Taken answered withdrawn line line') : line' <:+ line := by
  induction h with
  | refl line => exact List.suffix_rfl
  | passed h ih => exact ih.trans (List.suffix_cons _ _)
  | withdrawn a hw h ih => exact ih.trans (List.suffix_append [some a, none] _)
  | answered a ha h ih => exact ih.trans (List.suffix_cons _ _)

theorem Taken.open_before (h : Taken answered withdrawn line line') (ho : Open line' a) :
    Open line a := by
  obtain ⟨front, rfl⟩ := h.suffix
  exact ho.front front

/-- **An open request is answered, or stays open.** -/
theorem Taken.open_after (h : Taken answered withdrawn line line') (ho : Open line a) :
    Open line' a ∨ answered a := by
  induction h with
  | refl line => exact Or.inl ho
  | passed h ih =>
    rcases open_cons ho with ⟨hx, -⟩ | ho
    · cases hx
    · exact ih ho
  | withdrawn b hw h ih =>
    rcases open_cons ho with ⟨-, hrest⟩ | ho
    · cases hrest
    · rcases open_cons ho with ⟨hx, -⟩ | ho
      · cases hx
      · exact ih ho
  | answered b hb h ih =>
    rcases open_cons ho with ⟨hx, -⟩ | ho
    · cases hx
      exact Or.inr hb
    · exact ih ho

/-- **An owed request is answered or given up, or is still owed.** -/
theorem Taken.owed (h : Taken answered withdrawn line line') (ho : Owed line) :
    Owed line' ∨ (∃ a, answered a) ∨ withdrawn := by
  induction h with
  | refl line => exact Or.inl ho
  | passed h ih =>
    obtain ⟨b, hb⟩ := ho
    cases hb with
    | cons _ hb => exact ih ⟨b, hb⟩
  | withdrawn b hw h ih => exact Or.inr (Or.inr hw)
  | answered b hb h ih => exact Or.inr (Or.inl ⟨b, hb⟩)

end Withdrawals
end Lib
