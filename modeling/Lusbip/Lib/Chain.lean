import Mathlib.Data.List.Basic

/-!
# Chains of records that say how long they are

A record is a nonempty list whose first item says how many items it has. A chain is records one
behind the other, and `walk` takes one apart again by jumping from length to length. A list is a
chain in at most one way: `walk_iff`.

`SlicesFrom` is the weaker thing one can say of parts that were cut out of a whole: they stand in
it one behind the other and do not overlap, whatever lies between them.
-/

namespace Lib

variable {α : Type*}

/-! ## Records -/

/-- The first item says how many there are. -/
def IsRecord (size : α → Nat) (record : List α) : Prop :=
  ∃ first rest, record = first :: rest ∧ size first = record.length

/-- Take a chain apart, in at most `fuel` jumps. -/
def walkFrom (size : α → Nat) : Nat → List α → Option (List (List α))
  | _, [] => some []
  | 0, _ :: _ => none
  | fuel + 1, first :: rest =>
      if 0 < size first ∧ size first ≤ (first :: rest).length then
        (walkFrom size fuel ((first :: rest).drop (size first))).map
          ((first :: rest).take (size first) :: ·)
      else none

/-- Every jump goes at least one item further, so there are no more of them than items. -/
def walk (size : α → Nat) (items : List α) : Option (List (List α)) :=
  walkFrom size items.length items

section Walk

variable {size : α → Nat}

theorem walkFrom_sound {fuel : Nat} {items : List α} {records : List (List α)}
    (h : walkFrom size fuel items = some records) :
    records.flatten = items ∧ ∀ record ∈ records, IsRecord size record := by
  induction fuel generalizing items records with
  | zero =>
    cases items with
    | nil => cases h; simp
    | cons first rest => cases h
  | succ fuel ih =>
    cases items with
    | nil => cases h; simp
    | cons first rest =>
      rw [walkFrom] at h
      split at h
      case isTrue hsize =>
        obtain ⟨behind, hbehind, rfl⟩ := Option.map_eq_some_iff.mp h
        obtain ⟨hflat, hrec⟩ := ih hbehind
        refine ⟨by rw [List.flatten_cons, hflat, List.take_append_drop], fun record hr => ?_⟩
        rcases List.mem_cons.mp hr with rfl | hr
        · obtain ⟨n, hn⟩ : ∃ n, size first = n + 1 := ⟨size first - 1, by omega⟩
          refine ⟨first, rest.take n, by rw [hn, List.take_succ_cons], ?_⟩
          rw [List.length_take]
          omega
        · exact hrec record hr
      case isFalse => cases h

theorem walkFrom_records {records : List (List α)} {fuel : Nat}
    (h : ∀ record ∈ records, IsRecord size record) (hfuel : records.flatten.length ≤ fuel) :
    walkFrom size fuel records.flatten = some records := by
  induction records generalizing fuel with
  | nil => cases fuel <;> rfl
  | cons record records ih =>
    obtain ⟨first, rest, rfl, hsize⟩ := h record List.mem_cons_self
    have hpos : 0 < size first := by rw [hsize]; exact Nat.succ_pos _
    rw [List.flatten_cons, List.length_append, List.length_cons] at hfuel
    obtain ⟨fuel, rfl⟩ : ∃ n, fuel = n + 1 := ⟨fuel - 1, by omega⟩
    have hrest : walkFrom size fuel records.flatten = some records :=
      ih (fun r hr => h r (List.mem_cons_of_mem _ hr)) (by omega)
    rw [List.flatten_cons, List.cons_append, walkFrom, ← List.cons_append, if_pos ?_, hsize,
      List.drop_left, List.take_left, hrest]
    · rfl
    · exact ⟨hpos, by rw [hsize, List.length_append]; omega⟩

/-- **A walk takes a list apart into records, and there is only one way to do so.** -/
theorem walk_iff {items : List α} {records : List (List α)} :
    walk size items = some records ↔
      records.flatten = items ∧ ∀ record ∈ records, IsRecord size record := by
  refine ⟨walkFrom_sound, fun ⟨hflat, hrec⟩ => ?_⟩
  subst hflat
  exact walkFrom_records hrec (Nat.le_refl _)

/-- **Two readings of a chain agree as far as both go**: a reader that stops early has read the first
    records, whatever it makes of the rest. -/
theorem records_isPrefix {records parts : List (List α)} {rest : List α}
    (hrecords : ∀ record ∈ records, IsRecord size record) (hparts : ∀ part ∈ parts, IsRecord size part)
    (h : records.flatten ++ rest = parts.flatten) : records <+: parts := by
  induction records generalizing parts with
  | nil => exact List.nil_prefix
  | cons record records ih =>
    obtain ⟨first, items, rfl, hsize⟩ := hrecords record List.mem_cons_self
    cases parts with
    | nil => cases h
    | cons part parts =>
      obtain ⟨first', items', rfl, hsize'⟩ := hparts part List.mem_cons_self
      rw [List.flatten_cons, List.flatten_cons, List.append_assoc] at h
      obtain rfl : first = first' := (List.cons.inj h).1
      obtain ⟨hpart, hbehind⟩ := List.append_inj h (hsize.symm.trans hsize')
      rw [hpart]
      refine (List.prefix_cons_inj _).mpr (ih ?_ ?_ hbehind)
      · exact fun r hr => hrecords r (List.mem_cons_of_mem _ hr)
      · exact fun p hp => hparts p (List.mem_cons_of_mem _ hp)

end Walk

/-! ## Parts of a whole -/

/-- The parts stand in the whole one behind the other, none of them before `offset`. -/
def SlicesFrom (whole : List α) : Nat → List (List α) → Prop
  | _, [] => True
  | offset, part :: parts =>
      ∃ start, offset ≤ start ∧ start + part.length ≤ whole.length ∧
        (whole.drop start).take part.length = part ∧
        SlicesFrom whole (start + part.length) parts

theorem SlicesFrom.of_le {whole : List α} {offset offset' : Nat} {parts : List (List α)}
    (h : SlicesFrom whole offset parts) (hle : offset' ≤ offset) :
    SlicesFrom whole offset' parts := by
  cases parts with
  | nil => trivial
  | cons part parts =>
    obtain ⟨start, hstart, h⟩ := h
    exact ⟨start, Nat.le_trans hle hstart, h⟩

/-- Cut out a part that fits. -/
theorem SlicesFrom.cut {whole : List α} {offset n : Nat} {parts : List (List α)}
    (hfits : offset + n ≤ whole.length) (h : SlicesFrom whole (offset + n) parts) :
    SlicesFrom whole offset ((whole.drop offset).take n :: parts) := by
  have hlen : ((whole.drop offset).take n).length = n := by
    rw [List.length_take, List.length_drop]
    omega
  exact ⟨offset, Nat.le_refl _, by rw [hlen]; exact hfits, by rw [hlen], by rw [hlen]; exact h⟩

end Lib
