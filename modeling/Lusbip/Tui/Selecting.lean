import Lusbip.Tui.Frame

/-!
# Selecting rows

`select_one` and `select_many` draw, wait for a key, and draw again. They are one loop: what the
space bar does to the chosen rows, what Enter returns and whether there are boxes to tick is up to
the `Selector`. The rows do not change meanwhile, so the frame in front of the user says what Enter
will return.

`shown` and `pressed` are kept for the statements only.
-/

namespace Lusbip
namespace Tui

open Lib
open Lib.Fields
open Lib.Transition
open Agent (TuiItem)

/-- What `select_one` and `select_many` differ in. -/
structure Selector (ρ : Type) where
  showCheckboxes : Bool
  /-- The chosen rows after the space bar. -/
  space : Nat → List Nat → List Nat
  enter : Nat → List Nat → ρ

/-- A row that is chosen is not any more, and the other way round. -/
def toggleChosen (selected : Nat) (chosen : List Nat) : List Nat :=
  if chosen.contains selected then chosen.erase selected else chosen ++ [selected]

/-- Enter returns the row; there is nothing to tick. -/
def selectOne : Selector Nat where
  showCheckboxes := false
  space _ chosen := chosen
  enter selected _ := selected

/-- The space bar ticks a row or takes the tick away; Enter returns the ticked ones. -/
def selectMany : Selector (List Nat) where
  showCheckboxes := true
  space := toggleChosen
  enter _ chosen := chosen

/-- Where the loop is. -/
inductive SelectionPhase (ρ : Type) where
  | drawing
  | reading
  | returned (result : Except Text ρ)
  deriving DecidableEq

/-- The variables of the loop, and the last frame. -/
structure Selection (ρ : Type) where
  phase : SelectionPhase ρ := .drawing
  title : Text
  items : List TuiItem
  selected : Nat := 0
  chosen : List Nat := []
  /-- What the last frame was drawn from. -/
  shown : Option View := none
  /-- The rows that the space bar was pressed at. -/
  pressed : List Nat := []
  deriving DecidableEq

/-- What happens next: a frame is drawn, or an event is read, either of which may fail. -/
inductive SelectionMove where
  | draw (drawn : Except Text Unit)
  | read (event : Except Text Event)
  deriving DecidableEq

namespace Selector

variable {ρ : Type}

/-- Without any row the loop is not entered. -/
def start (title : Text) (items : List TuiItem) : Selection ρ where
  phase := if items = [] then .returned (.error "No items to select".toList) else .drawing
  title := title
  items := items

/-- What the frame is drawn from. -/
def view (sel : Selector ρ) (s : Selection ρ) : View where
  title := s.title
  items := s.items
  selected := s.selected
  chosen := s.chosen
  showCheckboxes := sel.showCheckboxes

/-- The selection goes to the next row or the one before, and a frame is drawn again. -/
def moveSelection (s : Selection ρ) (action : SelectionAction) : Selection ρ :=
  { s with phase := .drawing, selected := nextIndex s.selected s.items.length action }

/-- What is returned when the user gives up. -/
def cancelled : Text := "Selection cancelled".toList

/-- What a key does. -/
def press (sel : Selector ρ) (s : Selection ρ) (key : KeyEvent) : Selection ρ :=
  match key.code with
  | .up => moveSelection s .up
  | .down => moveSelection s .down
  | .enter => { s with phase := .returned (.ok (sel.enter s.selected s.chosen)) }
  | .esc => { s with phase := .returned (.error cancelled) }
  | .char c =>
      if c = 'k' then moveSelection s .up
      else if c = 'j' then moveSelection s .down
      else if c = ' ' then
        { s with
          phase := .drawing
          chosen := sel.space s.selected s.chosen
          pressed := s.pressed ++ [s.selected] }
      else if c = 'c' ∧ key.control then { s with phase := .returned (.error cancelled) }
      else { s with phase := .drawing }
  | .other => { s with phase := .drawing }

/-- What an event does. One that is no key has the frame drawn again. -/
def read (sel : Selector ρ) (s : Selection ρ) : Except Text Event → Selection ρ
  | .ok (.key key) => sel.press s key
  | .ok _ => { s with phase := .drawing }
  | .error err => { s with phase := .returned (.error (TerminalError.read err).text) }

/-- Frames and events in turn, until something is returned. -/
def step (sel : Selector ρ) (s : Selection ρ) : SelectionMove → Option (Selection ρ)
  | .draw drawn =>
      match s.phase, drawn with
      | .drawing, .ok _ => some { s with phase := .reading, shown := some (sel.view s) }
      | .drawing, .error err => some { s with phase := .returned (.error err) }
      | _, _ => none
  | .read event =>
      match s.phase with
      | .reading => some (sel.read s event)
      | _ => none

/-! ## The chosen rows -/

theorem mem_toggleChosen {selected i : Nat} {chosen : List Nat} (h : chosen.Nodup) :
    i ∈ toggleChosen selected chosen ↔ if i = selected then i ∉ chosen else i ∈ chosen := by
  unfold toggleChosen
  by_cases hmem : selected ∈ chosen
  · rw [if_pos (List.contains_iff_mem.mpr hmem), h.mem_erase_iff]
    split
    · rename_i heq
      rw [heq]
      exact iff_of_false (fun hh => hh.1 rfl) (not_not.mpr hmem)
    · rename_i hne
      exact ⟨And.right, fun hi => ⟨hne, hi⟩⟩
  · rw [if_neg fun hc => hmem (List.contains_iff_mem.mp hc), List.mem_append, List.mem_singleton]
    split
    · rename_i heq
      rw [heq]
      exact iff_of_true (Or.inr rfl) hmem
    · rename_i hne
      exact ⟨fun hi => hi.resolve_right hne, Or.inl⟩

theorem nodup_toggleChosen {selected : Nat} {chosen : List Nat} (h : chosen.Nodup) :
    (toggleChosen selected chosen).Nodup := by
  unfold toggleChosen
  split
  · exact h.erase selected
  · rename_i hmem
    refine List.nodup_append.mpr ⟨h, List.nodup_singleton _, fun a ha b hb => ?_⟩
    rw [List.mem_singleton.mp hb]
    rintro rfl
    exact hmem (List.contains_iff_mem.mpr ha)

/-- Rows toggled one after the other: those of an odd number of times are left. -/
theorem foldl_toggleChosen (pressed : List Nat) :
    (pressed.foldl (fun chosen selected => toggleChosen selected chosen) []).Nodup ∧
      ∀ i, i ∈ pressed.foldl (fun chosen selected => toggleChosen selected chosen) [] ↔
        pressed.count i % 2 = 1 := by
  induction pressed using List.reverseRecOn with
  | nil => exact ⟨List.nodup_nil, fun i => iff_of_false List.not_mem_nil (by simp)⟩
  | append_singleton pressed selected ih =>
    obtain ⟨hnodup, hmem⟩ := ih
    rw [List.foldl_append]
    refine ⟨nodup_toggleChosen hnodup, fun i => ?_⟩
    show i ∈ toggleChosen selected _ ↔ _
    rw [mem_toggleChosen hnodup, List.count_append, List.count_singleton, hmem i]
    split
    · rename_i heq
      rw [heq, if_pos (beq_self_eq_true selected)]
      omega
    · rename_i hne
      rw [if_neg fun heq => hne (eq_of_beq heq).symm, Nat.add_zero]

/-! ## Runs -/

/-- What the loop keeps to. -/
structure Kept (sel : Selector ρ) (s : Selection ρ) : Prop where
  selected : s.items ≠ [] → s.selected < s.items.length
  pressed : ∀ i ∈ s.pressed, i < s.items.length
  chosen : s.chosen = s.pressed.foldl (fun chosen selected => sel.space selected chosen) []
  nonempty : s.phase = .drawing ∨ s.phase = .reading → s.items ≠ []
  reading : s.phase = .reading → s.shown = some (sel.view s)
  returned : ∀ result, s.phase = .returned (.ok result) →
    result = sel.enter s.selected s.chosen ∧ s.shown = some (sel.view s) ∧ s.items ≠ []

variable {sel : Selector ρ} {s t : Selection ρ} {title : Text} {items : List TuiItem}

theorem kept_start (title : Text) (items : List TuiItem) : sel.Kept (start title items) where
  selected h := List.length_pos_iff.mpr h
  pressed _ h := absurd h List.not_mem_nil
  chosen := rfl
  nonempty h hitems := by
    have hitems : items = [] := hitems
    rw [start, hitems] at h
    rcases h with h | h
    · cases h
    · cases h
  reading h := by
    unfold start at h
    dsimp only at h
    split at h
    · cases h
    · cases h
  returned result h := by
    unfold start at h
    dsimp only at h
    split at h
    · cases h
    · cases h

/-- The loop goes on with other rows selected, or with the same ones. -/
theorem Kept.next (h : sel.Kept s) (hp : s.phase = .reading) {selected : Nat}
    (hselected : selected < s.items.length) :
    sel.Kept { s with phase := .drawing, selected := selected } where
  selected _ := hselected
  pressed := h.pressed
  chosen := h.chosen
  nonempty _ := h.nonempty (Or.inr hp)
  reading hp' := nomatch hp'
  returned _ hp' := nomatch hp'

theorem Kept.fail (h : sel.Kept s) (err : Text) :
    sel.Kept { s with phase := .returned (.error err) } where
  selected := h.selected
  pressed := h.pressed
  chosen := h.chosen
  nonempty hp := by rcases hp with hp | hp <;> cases hp
  reading hp := nomatch hp
  returned _ hp := nomatch hp

theorem Kept.press (h : sel.Kept s) (hp : s.phase = .reading) (key : KeyEvent) :
    sel.Kept (sel.press s key) := by
  have hne := h.nonempty (Or.inr hp)
  have hlen : s.items.length ≠ 0 := fun hz => hne (List.eq_nil_of_length_eq_zero hz)
  have hstay : sel.Kept { s with phase := .drawing } := h.next hp (h.selected hne)
  unfold Selector.press moveSelection
  split
  · exact h.next hp (nextIndex_lt hlen .up)
  · exact h.next hp (nextIndex_lt hlen .down)
  · refine ⟨h.selected, h.pressed, h.chosen, fun hp' => ?_, fun hp' => (nomatch hp'), ?_⟩
    · rcases hp' with hp' | hp' <;> cases hp'
    · intro result hr
      cases hr
      exact ⟨rfl, h.reading hp, hne⟩
  · exact h.fail _
  · split
    · exact h.next hp (nextIndex_lt hlen .up)
    · split
      · exact h.next hp (nextIndex_lt hlen .down)
      · split
        · refine ⟨h.selected, fun i hi => ?_, ?_, fun _ => hne,
            fun hp' => (nomatch hp'), fun _ hp' => (nomatch hp')⟩
          · rcases List.mem_append.mp hi with hi | hi
            · exact h.pressed i hi
            · rw [List.mem_singleton.mp hi]
              exact h.selected hne
          · show sel.space s.selected s.chosen = _
            rw [List.foldl_append, ← h.chosen]
            rfl
        · split
          · exact h.fail _
          · exact hstay
  · exact hstay

theorem Kept.step (h : sel.Kept s) {move : SelectionMove} (hs : sel.step s move = some t) :
    sel.Kept t := by
  unfold Selector.step at hs
  cases move with
  | draw drawn =>
    dsimp only at hs
    split at hs
    · rename_i hp
      cases hs
      refine ⟨h.selected, h.pressed, h.chosen, fun _ => h.nonempty (Or.inl hp), fun _ => rfl, ?_⟩
      exact fun _ hr => nomatch hr
    · cases hs
      exact h.fail _
    · cases hs
  | read event =>
    dsimp only at hs
    split at hs
    · rename_i hp
      cases hs
      unfold Selector.read
      split
      · exact h.press hp _
      · exact h.next hp (h.selected (h.nonempty (Or.inr hp)))
      · exact h.fail _
    · cases hs

theorem kept_of_run {moves : List SelectionMove}
    (h : run sel.step (start title items) moves = some s) : sel.Kept s :=
  invariant_of_run (fun _ _ _ hk hs => hk.step hs) (kept_start title items) h

/-- **Enter returns what the last frame shows.** -/
theorem returns_shown {moves : List SelectionMove} {result : ρ}
    (h : run sel.step (start title items) moves = some s) (hr : s.phase = .returned (.ok result)) :
    ∃ v, s.shown = some v ∧ v.items = s.items ∧ v.selected < s.items.length ∧
      result = sel.enter v.selected v.chosen := by
  have hkept := kept_of_run h
  obtain ⟨hresult, hshown, hne⟩ := hkept.returned result hr
  exact ⟨_, hshown, rfl, hkept.selected hne, hresult⟩

end Selector

/-- What `select_many` has returned: each row at most once, the rows with an odd number of presses, and
    the rows with a tick on the last frame. -/
structure ChosenRows (s : Selection (List Nat)) (chosen : List Nat) : Prop where
  distinct : chosen.Nodup
  inRange : ∀ i ∈ chosen, i < s.items.length
  odd : ∀ i, i ∈ chosen ↔ s.pressed.count i % 2 = 1
  shown : ∃ v, s.shown = some v ∧ v.items = s.items ∧ v.showCheckboxes = true ∧ v.chosen = chosen

/-- **`select_many` returns the rows that are ticked**, and a row is ticked if the space bar was
    pressed at it an odd number of times. -/
theorem selectMany_returns {title : Text} {items : List TuiItem} {moves : List SelectionMove}
    {s : Selection (List Nat)} {chosen : List Nat}
    (h : run selectMany.step (Selector.start title items) moves = some s)
    (hr : s.phase = .returned (.ok chosen)) : ChosenRows s chosen := by
  have hkept := Selector.kept_of_run h
  obtain ⟨hresult, hshown, -⟩ := hkept.returned chosen hr
  obtain ⟨hnodup, hodd⟩ := Selector.foldl_toggleChosen s.pressed
  have hchosen : chosen = s.chosen := hresult
  have hfold : s.chosen = s.pressed.foldl (fun chosen selected => toggleChosen selected chosen) [] :=
    hkept.chosen
  rw [← hfold, ← hchosen] at hnodup hodd
  refine ⟨hnodup, fun i hi => hkept.pressed i ?_, hodd, _, hshown, rfl, rfl, hchosen.symm⟩
  have hcount := (hodd i).mp hi
  exact List.count_pos_iff.mp (by omega)

/-- The first of two rows is ticked, the second one is ticked and given up again. -/
def tickFirst : List SelectionMove :=
  [.draw (.ok ()), .read (.ok (.key { code := .char ' ' })), .draw (.ok ()),
    .read (.ok (.key { code := .down })), .draw (.ok ()),
    .read (.ok (.key { code := .char ' ' })), .draw (.ok ()),
    .read (.ok (.key { code := .char ' ' })), .draw (.ok ()),
    .read (.ok (.key { code := .enter }))]

theorem tickFirst_runs :
    (run selectMany.step (Selector.start twoRows.title twoRows.items) tickFirst).isSome = true := by
  decide +kernel

theorem tickFirst_returns :
    ∃ s, run selectMany.step (Selector.start twoRows.title twoRows.items) tickFirst = some s ∧
      ChosenRows s [0] :=
  have hrun := (Option.some_get tickFirst_runs).symm
  ⟨_, hrun, selectMany_returns hrun (by decide +kernel)⟩

end Tui
end Lusbip
