import Lusbip.Lib.Keyed
import Lusbip.Client.Control

/-!
# The rows of a list

What `run_action_list` computes with: keys and what they ask for, the index of the selected row, the
label of a row, and the rows that are shown after a refresh. A row is known by its id. A refresh may
leave out rows that are still needed; `merge_retained_items` and the loop over the sticky rows put
them back, behind the others.
-/

namespace Lusbip
namespace Tui

open Lib
open Lib.Fields
open Lib.Keyed
open Agent (TuiItem)

/-! ## Keys -/

/-- The keys that the list knows. -/
inductive KeyCode where
  | up
  | down
  | esc
  | enter
  | char (c : Char)
  | other
  deriving DecidableEq, Repr

/-- A key, with or without the control key. -/
structure KeyEvent where
  code : KeyCode
  control : Bool := false
  deriving DecidableEq, Repr

/-- `crossterm::event::Event`, as far as the list tells events apart. -/
inductive Event where
  | key (key : KeyEvent)
  | resize (columns rows : UInt16)
  | other
  deriving DecidableEq, Repr

/-- What a key does to a selection. -/
inductive SelectionAction where
  | up
  | down
  | toggle
  deriving DecidableEq, Repr

/-- What a key does to the list of the remote devices. -/
inductive ListKeyAction where
  | up
  | down
  | activate
  | background
  | cancel
  deriving DecidableEq, Repr

/-- The keys of the list. An event that is no key does nothing. -/
def listKeyAction : Event → Option ListKeyAction
  | .key key =>
      match key.code with
      | .up => some .up
      | .down => some .down
      | .esc => some .background
      | .char c =>
          if c = 'k' then some .up
          else if c = 'j' then some .down
          else if c = ' ' then some .activate
          else if c = 'c' ∧ key.control then some .cancel
          else none
      | _ => none
  | _ => none

/-! ## The selected row -/

/-- The row above or below, round the ends of the list. -/
def nextIndex (current len : Nat) (action : SelectionAction) : Nat :=
  if len = 0 then 0
  else
    match action with
    | .up => (current + len - 1) % len
    | .down => (current + 1) % len
    | .toggle => min current (len - 1)

/-- The selection stays with its row when the rows are loaded anew, and at its place where that row
    is gone. -/
def preserveSelectedIndex (previousItems nextItems : List TuiItem) (selected : Nat) : Nat :=
  match previousItems[selected]? with
  | none => min selected (nextItems.length - 1)
  | some previous =>
      (position TuiItem.id nextItems previous.id).getD (min selected (nextItems.length - 1))

theorem nextIndex_lt {current len : Nat} (h : len ≠ 0) (action : SelectionAction) :
    nextIndex current len action < len := by
  have hpos : 0 < len := Nat.pos_of_ne_zero h
  unfold nextIndex
  rw [if_neg h]
  cases action with
  | up => exact Nat.mod_lt _ hpos
  | down => exact Nat.mod_lt _ hpos
  | toggle => exact (Nat.min_le_right _ _).trans_lt (Nat.sub_lt hpos Nat.one_pos)

theorem preserveSelectedIndex_lt {previousItems nextItems : List TuiItem} (h : nextItems ≠ [])
    (selected : Nat) : preserveSelectedIndex previousItems nextItems selected < nextItems.length := by
  have hpos : 0 < nextItems.length := List.length_pos_iff.mpr h
  have hclamp : min selected (nextItems.length - 1) < nextItems.length :=
    (Nat.min_le_right _ _).trans_lt (Nat.sub_lt hpos Nat.one_pos)
  unfold preserveSelectedIndex
  split
  · exact hclamp
  · cases hp : position TuiItem.id nextItems _ with
    | none => exact hclamp
    | some n => exact (List.findIdx?_eq_some_iff_getElem.mp hp).1

/-- **The selected row stays selected** wherever it has moved to. -/
theorem getElem?_preserveSelectedIndex {previousItems nextItems : List TuiItem} {selected : Nat}
    {item : TuiItem} (hitem : previousItems[selected]? = some item)
    (h : item.id ∈ nextItems.map (·.id)) :
    (nextItems[preserveSelectedIndex previousItems nextItems selected]?).map (·.id) =
      some item.id := by
  obtain ⟨n, hn⟩ := Option.isSome_iff_exists.mp (position_isSome.mpr h)
  rw [preserveSelectedIndex, hitem]
  dsimp only
  rw [hn]
  exact getElem?_of_position hn

/-! ## Labels -/

/-- The label that the row will have if the action succeeds. -/
def optimisticToggleLabel (label : Text) (actionWasAttach : Bool) : Text :=
  if actionWasAttach then
    match stripPrefix "[ ]".toList label with
    | some rest => "[x]".toList ++ rest
    | none => label
  else
    match stripPrefix "[x] port ".toList label with
    | some rest =>
        let rest := ((splitOnce " | ".toList rest).map (·.2)).getD rest
        "[ ] | ".toList ++ rest
    | none =>
        match stripPrefix "[x]".toList label with
        | some rest => "[ ]".toList ++ rest
        | none => label

/-- The label after an action that has succeeded, as long as no refresh has come. -/
def toggled (actionWasAttach : Bool) (item : TuiItem) : TuiItem :=
  { item with label := optimisticToggleLabel item.label actionWasAttach }

/-- `items.iter_mut().find(..)`, and the new label of the row that is found. -/
def toggleRow (items : List TuiItem) (id : Text) (actionWasAttach : Bool) : List TuiItem :=
  items.replaceF fun item => if item.id = id then some (toggled actionWasAttach item) else none

@[simp] theorem map_id_toggleRow (items : List TuiItem) (id : Text) (actionWasAttach : Bool) :
    (toggleRow items id actionWasAttach).map (·.id) = items.map (·.id) := by
  induction items with
  | nil => rfl
  | cons item items ih =>
    unfold toggleRow at ih ⊢
    rw [List.replaceF]
    split
    · rename_i hnone
      rw [List.map_cons, ih, List.map_cons]
    · rename_i other hsome
      split at hsome
      · cases hsome
        rfl
      · cases hsome

/-! ## The rows after a refresh -/

/-- The rows of running actions are kept, where the new rows do not have them any more. -/
def mergeRetainedItems (previousItems nextItems : List TuiItem) (retainedIds : List Text) :
    List TuiItem :=
  retainedIds.foldl
    (fun merged id =>
      if merged.any fun item => item.id = id then merged
      else
        match previousItems.find? fun item => item.id = id with
        | some item => merged ++ [item]
        | none => merged)
    nextItems

/-- The loop over the sticky rows. -/
def pushSticky (stickyItems nextItems : List TuiItem) : List TuiItem :=
  stickyItems.foldl
    (fun next sticky =>
      if next.any fun item => item.id = sticky.id then next else next ++ [sticky])
    nextItems

/-- The sticky rows that the refresh has not brought. -/
def retainSticky (stickyItems nextItems : List TuiItem) : List TuiItem :=
  stickyItems.filter fun sticky => !nextItems.any fun item => item.id = sticky.id

variable {previousItems nextItems stickyItems : List TuiItem} {retainedIds : List Text} {id : Text}

theorem mergeRetainedItems_eq :
    mergeRetainedItems previousItems nextItems retainedIds =
      pushAll TuiItem.id nextItems
        (retainedIds.filterMap fun id => previousItems.find? fun item => item.id = id) := by
  unfold mergeRetainedItems
  induction retainedIds generalizing nextItems with
  | nil => rfl
  | cons id retainedIds ih =>
    rw [List.foldl_cons, ih, List.filterMap_cons]
    cases hf : previousItems.find? fun item => item.id = id with
    | none =>
      dsimp only
      rw [ite_self]
    | some item =>
      have hid : item.id = id := by simpa using List.find?_some hf
      show _ = pushAll TuiItem.id (pushNew TuiItem.id nextItems item) _
      rw [pushNew, hid]

theorem pushSticky_eq : pushSticky stickyItems nextItems =
    pushAll TuiItem.id nextItems stickyItems := rfl

/-- A retained row is there if it was there before. -/
theorem mem_mergeRetainedItems :
    id ∈ (mergeRetainedItems previousItems nextItems retainedIds).map (·.id) ↔
      id ∈ nextItems.map (·.id) ∨ id ∈ retainedIds ∧ id ∈ previousItems.map (·.id) := by
  rw [mergeRetainedItems_eq, mem_keys_pushAll]
  refine or_congr Iff.rfl ⟨fun h => ?_, fun ⟨hr, hp⟩ => ?_⟩
  · obtain ⟨item, hm, rfl⟩ := List.mem_map.mp h
    obtain ⟨id, hr, hf⟩ := List.mem_filterMap.mp hm
    have hid : item.id = id := by simpa using List.find?_some hf
    exact ⟨hid ▸ hr, List.mem_map_of_mem (List.mem_of_find?_eq_some hf)⟩
  · have hsome : (previousItems.find? fun item => item.id = id).isSome = true := by
      obtain ⟨item, hm, hid⟩ := List.mem_map.mp hp
      exact List.find?_isSome.mpr ⟨item, hm, by simpa using hid⟩
    obtain ⟨item, hf⟩ := Option.isSome_iff_exists.mp hsome
    have hid : item.id = id := by simpa using List.find?_some hf
    exact List.mem_map.mpr ⟨item, List.mem_filterMap.mpr ⟨id, hr, hf⟩, hid⟩

theorem nodup_mergeRetainedItems (h : (nextItems.map (·.id)).Nodup) :
    ((mergeRetainedItems previousItems nextItems retainedIds).map (·.id)).Nodup := by
  rw [mergeRetainedItems_eq]
  exact nodup_pushAll h

/-- Every sticky row is there afterwards, from the refresh or put back. -/
theorem mem_pushSticky_retain :
    id ∈ (pushSticky (retainSticky stickyItems nextItems) nextItems).map (·.id) ↔
      id ∈ nextItems.map (·.id) ∨ id ∈ stickyItems.map (·.id) := by
  rw [pushSticky_eq, mem_keys_pushAll]
  constructor
  · refine Or.imp_right fun h => ?_
    exact (List.filter_sublist.map _).subset h
  · rintro (h | h)
    · exact Or.inl h
    · by_cases hn : id ∈ nextItems.map (·.id)
      · exact Or.inl hn
      · obtain ⟨sticky, hm, rfl⟩ := List.mem_map.mp h
        refine Or.inr (List.mem_map_of_mem (List.mem_filter.mpr ⟨hm, ?_⟩))
        rw [Bool.not_eq_true', Bool.eq_false_iff, Ne, any_key]
        exact hn

theorem nodup_pushSticky (h : (nextItems.map (·.id)).Nodup) :
    ((pushSticky stickyItems nextItems).map (·.id)).Nodup := by
  rw [pushSticky_eq]
  exact nodup_pushAll h

end Tui
end Lusbip
