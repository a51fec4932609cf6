import Lusbip.Tui.Refreshing

/-!
# Rows with a running action

The ids of `post_action_processing` stand for the actions that are queued, running, or done and not
yet seen. A row is not activated again while its id is among them, and a refresh that leaves such a
row out does not take it off the list. The selected row is found again by its id; the index is never
out of range, so the clamp in front of the drawing has nothing to do.
-/

namespace Lusbip
namespace Tui

open Lib
open Lib.Transition
open Agent (TuiItem)

/-- An index among `len` rows, or the first one where there are none. -/
def InRange (len selected : Nat) : Prop := selected < len ∨ len = 0 ∧ selected = 0

theorem nextIndex_inRange (current len : Nat) (action : SelectionAction) :
    InRange len (nextIndex current len action) := by
  by_cases h : len = 0
  · exact Or.inr ⟨h, if_pos h⟩
  · exact Or.inl (nextIndex_lt h action)

theorem preserveSelectedIndex_inRange (previousItems nextItems : List TuiItem) (selected : Nat) :
    InRange nextItems.length (preserveSelectedIndex previousItems nextItems selected) := by
  by_cases h : nextItems = []
  · subst h
    refine Or.inr ⟨rfl, ?_⟩
    have hclamp : min selected (0 - 1) = 0 := Nat.min_eq_right (Nat.zero_le _)
    unfold preserveSelectedIndex
    split
    · exact hclamp
    · exact hclamp
  · exact Or.inl (preserveSelectedIndex_lt h selected)

theorem InRange.clamp {items : List TuiItem} {selected : Nat}
    (h : InRange items.length selected) :
    (if items = [] then 0 else min selected (items.length - 1)) = selected := by
  split
  · rename_i hnil
    subst hnil
    rcases h with h | h
    · exact absurd h (Nat.not_lt_zero _)
    · exact h.2.symm
  · rename_i hne
    have hpos : 0 < items.length := List.length_pos_iff.mpr hne
    rcases h with h | h
    · omega
    · omega

/-- A refresh that brings every id once. -/
def Move.Distinct : Move → Prop
  | .loaded (.ok items) => (items.map (·.id)).Nodup
  | _ => True

namespace ActionList

/-- The rows with a running action are safe. -/
structure RowsSafe (s : ActionList) : Prop where
  once : (s.underway.map (·.item.id)).Nodup
  shown : ∀ action ∈ s.underway, action.item.id ∈ s.items.map (·.id)
  distinct : (s.items.map (·.id)).Nodup
  activated : s.phase = .polling → s.items ≠ [] → s.selected < s.items.length
  running : s.phase ≠ .panicked
  /-- A refresh that still has the selected row, or retains it, keeps it selected. -/
  keeps : ∀ t, s.step .snapshot = some t → ∀ request nextItems itemsQueue item,
    s.itemsQueue = (request, .ok nextItems) :: itemsQueue → s.items[s.selected]? = some item →
    item.id ∈ nextItems.map (·.id) ∨ item.id ∈ s.pendingIds ∨
      item.id ∈ s.stickyItems.map (·.id) →
    (t.items[t.selected]?).map (·.id) = some item.id
  clamped : s.clamp.selected = s.selected

/-- What the loop keeps to. -/
structure Tended (s : ActionList) : Prop where
  distinct : (s.items.map (·.id)).Nodup
  once : (s.unfinished.map (·.item.id)).Nodup
  pending : ∀ action ∈ s.unfinished, action.item.id ∈ s.pendingIds
  shown : ∀ id ∈ s.pendingIds, id ∈ s.items.map (·.id)
  selected : InRange s.items.length s.selected
  current : ∀ n, s.phase = .exiting n → InRange s.items.length n
  running : s.phase ≠ .panicked
  snapshots : ∀ request nextItems, (request, .ok nextItems) ∈ s.itemsQueue →
    (nextItems.map (·.id)).Nodup

variable {s t : ActionList} {move : Move}

theorem tended_start {items : List TuiItem} (h : (items.map (·.id)).Nodup) :
    (start items).Tended where
  distinct := h
  once := List.nodup_nil
  pending _ h := nomatch h
  shown _ h := nomatch h
  selected := by
    rcases Nat.eq_zero_or_pos items.length with hz | hp
    · exact Or.inr ⟨hz, rfl⟩
    · exact Or.inl hp
  current _ h := nomatch h
  running h := nomatch h
  snapshots _ _ h := nomatch h

/-! ## What has nothing to do with the rows -/

/-- Two states with the same rows, the same one of them selected, and the same actions. -/
structure SameRows (s t : ActionList) : Prop where
  ids : t.items.map (·.id) = s.items.map (·.id)
  selected : t.selected = s.selected
  unfinished : t.unfinished.Sublist s.unfinished
  pendingIds : t.pendingIds = s.pendingIds
  itemsQueue : t.itemsQueue ⊆ s.itemsQueue

theorem SameRows.of_eq (hi : t.items = s.items) (hs : t.selected = s.selected)
    (hu : t.unfinished = s.unfinished) (hp : t.pendingIds = s.pendingIds)
    (hq : t.itemsQueue = s.itemsQueue) : SameRows s t where
  ids := congrArg _ hi
  selected := hs
  unfinished := hu ▸ List.Sublist.refl _
  pendingIds := hp
  itemsQueue := hq ▸ fun _ h => h

theorem SameRows.length (h : SameRows s t) : t.items.length = s.items.length := by
  have hids := congrArg List.length h.ids
  rwa [List.length_map, List.length_map] at hids

/-- The phase is looked at on its own. -/
theorem Tended.same (h : s.Tended) (hs : SameRows s t)
    (hcurrent : ∀ n, t.phase = .exiting n → InRange s.items.length n)
    (hrunning : t.phase ≠ .panicked) : t.Tended where
  distinct := by
    rw [hs.ids]
    exact h.distinct
  once := h.once.sublist (hs.unfinished.map _)
  pending action hm := by
    rw [hs.pendingIds]
    exact h.pending action (hs.unfinished.subset hm)
  shown := by
    rw [hs.pendingIds, hs.ids]
    exact h.shown
  selected := by
    rw [hs.selected, hs.length]
    exact h.selected
  current := by
    rw [hs.length]
    exact hcurrent
  running := hrunning
  snapshots request nextItems hm := h.snapshots request nextItems (hs.itemsQueue hm)

theorem Tended.samePhase (h : s.Tended) (hs : SameRows s t) (hp : t.phase = s.phase) :
    t.Tended :=
  h.same hs (fun n hn => h.current n (hp.symm.trans hn)) fun hn => h.running (hp.symm.trans hn)

theorem Tended.withPhase (h : s.Tended) {phase : Phase}
    (hcurrent : ∀ n, phase = .exiting n → InRange s.items.length n) (hrunning : phase ≠ .panicked) :
    Tended { s with phase } :=
  h.same (.of_eq rfl rfl rfl rfl rfl) hcurrent hrunning

theorem requestRefresh_sameRows (s : ActionList) : SameRows s s.requestRefresh := by
  unfold requestRefresh
  dsimp only
  split <;> exact .of_eq rfl rfl rfl rfl rfl

theorem phase_requestRefresh (s : ActionList) : s.requestRefresh.phase = s.phase := by
  unfold requestRefresh
  dsimp only
  split <;> rfl

/-! ## Results -/

theorem toggle_sameRows (s : ActionList) (action : QueuedAction) :
    SameRows s (s.toggle action) ∧ (s.toggle action).phase = s.phase := by
  unfold toggle
  dsimp only
  split <;> split <;>
    exact ⟨⟨by simp, rfl, List.Sublist.refl _, rfl, fun _ h => h⟩, rfl⟩

/-- The id of an action that is done is not in progress any more. -/
theorem pendingIds_finish (post : Option ProcessingIndicator) (id : Text) :
    ((post.bind (·.finish id)).map (·.ids)).getD [] =
      ((post.map (·.ids)).getD []).filter (· ≠ id) := by
  cases post with
  | none => rfl
  | some processing =>
    show ((processing.finish id).map (·.ids)).getD [] = processing.ids.filter (· ≠ id)
    unfold ProcessingIndicator.finish
    dsimp only
    split
    · rename_i hnil
      exact hnil.symm
    · rfl

/-- **A result ends its action**, and the others go on. -/
theorem Tended.processResult (h : s.Tended) {action : QueuedAction} {result : Except Text Text}
    {actionResultQueue : List (QueuedAction × Except Text Text)}
    (hq : s.actionResultQueue = (action, result) :: actionResultQueue) :
    ({ s with actionResultQueue }.processResult action result).Tended := by
  have hunfinished : s.unfinished = action :: unfinished { s with actionResultQueue } := by
    simp [unfinished, hq, underway]
  have honce := h.once
  rw [hunfinished, List.map_cons, List.nodup_cons] at honce
  have hpost : Tended
      { s with
        actionResultQueue
        postActionProcessing := s.postActionProcessing.bind (·.finish action.item.id)
        dirty := true } := by
    refine ⟨h.distinct, honce.2, fun other hm => ?_, fun id hm => ?_, h.selected, h.current,
      h.running, h.snapshots⟩
    · rw [ActionList.pendingIds, pendingIds_finish, List.mem_filter]
      refine ⟨h.pending other (hunfinished ▸ List.mem_cons_of_mem _ hm), ?_⟩
      -- No other action is for the same row.
      have hne : other.item.id ≠ action.item.id := fun heq =>
        honce.1 (heq ▸ List.mem_map_of_mem hm)
      simpa using hne
    · rw [ActionList.pendingIds, pendingIds_finish, List.mem_filter] at hm
      exact h.shown id hm.1
  have hshown : ({ s with actionResultQueue }.showResult action result).Tended := by
    unfold showResult
    cases result with
    | ok text =>
      obtain ⟨hsame, hphase⟩ := toggle_sameRows
        { s with
          actionResultQueue
          postActionProcessing := s.postActionProcessing.bind (·.finish action.item.id)
          dirty := true } action
      have htoggled := hpost.samePhase hsame hphase
      exact htoggled.samePhase (.of_eq rfl rfl rfl rfl rfl) rfl
    | error err => exact hpost.samePhase (.of_eq rfl rfl rfl rfl rfl) rfl
  unfold ActionList.processResult
  dsimp only
  have hcounted := hshown.samePhase (t := { { s with actionResultQueue }.showResult action result
    with results := ({ s with actionResultQueue }.showResult action result).results + 1 })
    (.of_eq rfl rfl rfl rfl rfl) rfl
  have hrequested := hcounted.samePhase (requestRefresh_sameRows _) (phase_requestRefresh _)
  exact hrequested.samePhase (.of_eq rfl rfl rfl rfl rfl) rfl

/-! ## Snapshots -/

/-- The ids after a refresh: those of the snapshot, those in progress, and those that stick. -/
theorem mem_ids_applySnapshot (s : ActionList) (request : RefreshRequest)
    (nextItems : List TuiItem) (id : Text) :
    id ∈ (s.applySnapshot request nextItems).items.map (·.id) ↔
      (id ∈ nextItems.map (·.id) ∨ id ∈ s.pendingIds ∧ id ∈ s.items.map (·.id)) ∨
        id ∈ s.stickyItems.map (·.id) := by
  unfold applySnapshot
  dsimp only
  rw [mem_pushSticky_retain, mem_mergeRetainedItems]

/-- **A refresh leaves the rows with a running action on the list.** -/
theorem Tended.applySnapshot (h : s.Tended) (hp : s.phase = .snapshots)
    (request : RefreshRequest) {nextItems : List TuiItem}
    (hn : (nextItems.map (·.id)).Nodup) : (s.applySnapshot request nextItems).Tended where
  distinct := nodup_pushSticky (nodup_mergeRetainedItems hn)
  once := h.once
  pending := h.pending
  shown id hm :=
    (mem_ids_applySnapshot s request nextItems id).mpr (Or.inl (Or.inr ⟨hm, h.shown id hm⟩))
  selected := preserveSelectedIndex_inRange _ _ _
  current _ hn := nomatch hp.symm.trans hn
  running := h.running
  snapshots := h.snapshots

/-- **The selected row stays selected** if the refresh has it, or it is retained. -/
theorem applySnapshot_keeps (s : ActionList) (request : RefreshRequest)
    {nextItems : List TuiItem} {item : TuiItem} (hitem : s.items[s.selected]? = some item)
    (h : item.id ∈ nextItems.map (·.id) ∨ item.id ∈ s.pendingIds ∨
      item.id ∈ s.stickyItems.map (·.id)) :
    ((s.applySnapshot request nextItems).items[(s.applySnapshot request nextItems).selected]?).map
      (·.id) = some item.id := by
  refine getElem?_preserveSelectedIndex hitem ((mem_ids_applySnapshot s request nextItems _).mpr ?_)
  rcases h with h | h | h
  · exact Or.inl (Or.inl h)
  · exact Or.inl (Or.inr ⟨h, List.mem_map_of_mem (List.mem_of_getElem? hitem)⟩)
  · exact Or.inr h

theorem Tended.trySnapshot (h : s.Tended) (hp : s.phase = .snapshots) : s.trySnapshot.Tended := by
  unfold ActionList.trySnapshot
  split
  · rename_i request result itemsQueue hq
    have hrest : Tended { s with itemsQueue } :=
      h.samePhase ⟨rfl, rfl, List.Sublist.refl _, rfl, fun e he => by
        rw [hq]
        exact List.mem_cons_of_mem _ he⟩ rfl
    unfold processSnapshot
    split
    · exact hrest
    · cases result with
      | ok nextItems =>
        have hn := h.snapshots request nextItems (hq ▸ List.mem_cons_self)
        have htaken : Tended { s with itemsQueue, refreshPending := false } :=
          hrest.samePhase (.of_eq rfl rfl rfl rfl rfl) rfl
        exact htaken.applySnapshot hp request hn
      | error err => exact hrest.samePhase (.of_eq rfl rfl rfl rfl rfl) rfl
  · exact h.withPhase (fun n hn => (nomatch hn)) fun hn => (nomatch hn)

/-! ## Drawing -/

theorem Tended.draw (h : s.Tended) (spinnerDue : Bool) (drawn : Except Text Unit) :
    (s.draw spinnerDue drawn).Tended := by
  have hclamp : SameRows s s.clamp :=
    ⟨rfl, h.selected.clamp, List.Sublist.refl _, rfl, fun _ h => h⟩
  have htick : (s.clamp.tickSpinner spinnerDue).Tended := by
    have hclamped := h.samePhase hclamp rfl
    unfold tickSpinner
    split
    · rename_i processing hpost
      split
      · refine hclamped.samePhase ⟨rfl, rfl, List.Sublist.refl _, ?_, fun _ h => h⟩ rfl
        simp [pendingIds, hpost]
      · exact hclamped
    · exact hclamped
  unfold ActionList.draw
  dsimp only
  split
  · cases drawn with
    | ok u =>
      exact htick.same (.of_eq rfl rfl rfl rfl rfl)
        (fun n hn => (nomatch hn)) fun hn => (nomatch hn)
    | error err => exact htick.withPhase (fun n hn => (nomatch hn)) fun hn => (nomatch hn)
  · exact htick.withPhase (fun n hn => (nomatch hn)) fun hn => (nomatch hn)

/-! ## Keys -/

theorem Tended.moveSelection (h : s.Tended) (action : SelectionAction) :
    (s.moveSelection action).Tended where
  distinct := h.distinct
  once := h.once
  pending := h.pending
  shown := h.shown
  selected := nextIndex_inRange _ _ _
  current _ hn := nomatch hn
  running hn := nomatch hn
  snapshots := h.snapshots

/-- The action is queued behind the others, and its id is in progress from now on. -/
theorem enqueue_of_alive (item : TuiItem) (h : s.actionThread ≠ .gone) :
    ∃ queued processing, s.enqueue item = { s with
      actionQueue := s.actionQueue ++ [queued]
      postActionProcessing := some processing
      dirty := true } ∧ queued.item = item ∧ processing.ids = s.pendingIds ++ [item.id] := by
  unfold ActionList.enqueue pendingIds
  dsimp only
  split
  · rename_i hgone
    exact absurd hgone h
  · cases s.postActionProcessing with
    | none => exact ⟨_, _, rfl, rfl, rfl⟩
    | some processing => exact ⟨_, _, rfl, rfl, rfl⟩

/-- **A row is queued once**: its id was not in progress, and it is from now on. -/
theorem Tended.enqueue (h : s.Tended) {item : TuiItem} (hm : item ∈ s.items)
    (hnew : item.id ∉ s.pendingIds) : (s.enqueue item).Tended := by
  by_cases hgone : s.actionThread = .gone
  · have hsame : s.enqueue item = s := by
      unfold ActionList.enqueue
      rw [hgone]
    rwa [hsame]
  · obtain ⟨queued, processing, heq, rfl, hids⟩ := enqueue_of_alive item hgone
    have hunfinished : (s.enqueue queued.item).unfinished = s.unfinished ++ [queued] := by
      rw [heq]
      simp [unfinished, underway]
    rw [heq] at hunfinished ⊢
    refine ⟨h.distinct, ?_, fun action ha => ?_, fun id hid => ?_, h.selected, h.current, h.running,
      h.snapshots⟩
    · rw [hunfinished, List.map_append]
      refine h.once.append (List.nodup_singleton _) fun id hid hid' => hnew ?_
      obtain ⟨action, ha, rfl⟩ := List.mem_map.mp hid
      have heq : action.item.id = queued.item.id := List.mem_singleton.mp hid'
      exact heq ▸ h.pending action ha
    · rw [hunfinished] at ha
      show action.item.id ∈ processing.ids
      rw [hids]
      rcases List.mem_append.mp ha with ha | ha
      · exact List.mem_append_left _ (h.pending action ha)
      · rw [List.mem_singleton.mp ha]
        exact List.mem_append_right _ (List.mem_singleton_self _)
    · have hid' : id ∈ processing.ids := hid
      rw [hids] at hid'
      rcases List.mem_append.mp hid' with hid' | hid'
      · exact h.shown id hid'
      · rw [List.mem_singleton.mp hid']
        exact List.mem_map_of_mem hm

/-- There is a row to activate, unless the list is empty. -/
theorem Tended.activate (h : s.Tended) : s.activate.Tended := by
  unfold ActionList.activate
  split
  · exact h.withPhase (fun n hn => (nomatch hn)) fun hn => (nomatch hn)
  · rename_i hne
    split
    · rename_i hnone
      rcases h.selected with hlt | hz
      · exact absurd (List.getElem?_eq_none_iff.mp hnone) (Nat.not_le.mpr hlt)
      · exact absurd (List.eq_nil_of_length_eq_zero hz.1) hne
    · rename_i item hitem
      split
      · exact h.withPhase (fun n hn => (nomatch hn)) fun hn => (nomatch hn)
      · rename_i hnew
        have hfree : item.id ∉ s.pendingIds := fun hid => hnew (List.contains_iff_mem.mpr hid)
        exact (h.enqueue (List.mem_of_getElem? hitem) hfree).withPhase (fun n hn => (nomatch hn))
          fun hn => (nomatch hn)

theorem Tended.handle (h : s.Tended) (event : Event) : (s.handle event).Tended := by
  unfold ActionList.handle
  split
  · exact h.moveSelection .up
  · exact h.moveSelection .down
  · exact h.activate
  · exact h.withPhase (fun n hn => (nomatch hn)) fun hn => (nomatch hn)
  · refine h.withPhase (fun n hn => ?_) fun hn => (nomatch hn)
    cases hn
    exact h.selected
  · exact h.withPhase (fun n hn => (nomatch hn)) fun hn => (nomatch hn)

theorem phase_leaveSpinner (s : ActionList) (result : Text) (n : Nat) :
    (s.leaveSpinner result n).phase = .results ∨
      (s.leaveSpinner result n).phase = .returned (.ok ()) := by
  unfold ActionList.leaveSpinner
  dsimp only
  split
  · exact Or.inl rfl
  · exact Or.inr rfl

theorem Tended.leaveSpinner (h : s.Tended) (result : Text) {n : Nat}
    (hn : InRange s.items.length n) : (s.leaveSpinner result n).Tended where
  distinct := h.distinct
  once := h.once
  pending := h.pending
  shown := h.shown
  selected := hn
  current m hm := by
    rcases phase_leaveSpinner s result n with hp | hp <;> cases hp.symm.trans hm
  running hm := by
    rcases phase_leaveSpinner s result n with hp | hp <;> cases hp.symm.trans hm
  snapshots := h.snapshots

theorem Tended.spinnerEvent (h : s.Tended) {n : Nat} (hp : s.phase = .exiting n) (event : Event) :
    (s.spinnerEvent n event).Tended := by
  unfold ActionList.spinnerEvent
  split
  · refine h.withPhase (fun m hm => ?_) fun hm => (nomatch hm)
    cases hm
    exact nextIndex_inRange _ _ _
  · refine h.withPhase (fun m hm => ?_) fun hm => (nomatch hm)
    cases hm
    exact nextIndex_inRange _ _ _
  · exact h.leaveSpinner _ (h.current n hp)
  · exact h

/-! ## A step -/

theorem Tended.step (h : s.Tended) (hd : move.Distinct) (hs : s.step move = some t) :
    t.Tended := by
  cases step_turn hs with
  | result hp =>
    unfold tryResult
    split
    · exact h.processResult ‹_›
    · exact h.withPhase (fun n hn => (nomatch hn)) fun hn => (nomatch hn)
  | snapshot hp => exact h.trySnapshot hp
  | draw spinnerDue drawn hp => exact h.draw spinnerDue drawn
  | timeout refreshDue hp =>
    unfold idle
    dsimp only
    have hdue : Tended (if refreshDue && !s.refreshPending then s.requestRefresh else s) := by
      split
      · exact h.samePhase (requestRefresh_sameRows s) (phase_requestRefresh s)
      · exact h
    exact hdue.withPhase (fun n hn => (nomatch hn)) fun hn => (nomatch hn)
  | event event hp => exact h.handle event
  | spinnerEvent event currentSelected hp => exact h.spinnerEvent hp event
  | exited result currentSelected hp => exact h.leaveSpinner _ (h.current _ hp)
  | failed err => exact h.withPhase (fun n hn => (nomatch hn)) fun hn => (nomatch hn)
  | takeRefresh request refreshQueue ht hq =>
    exact h.samePhase (.of_eq rfl rfl rfl rfl rfl) rfl
  | loaded result request ht =>
    refine ⟨h.distinct, h.once, h.pending, h.shown, h.selected, h.current, h.running,
      fun request' nextItems hm => ?_⟩
    rcases List.mem_append.mp hm with hm | hm
    · exact h.snapshots request' nextItems hm
    · cases List.mem_singleton.mp hm
      exact hd
  | refreshEnds => exact h.samePhase (.of_eq rfl rfl rfl rfl rfl) rfl
  | takeAction action actionQueue ht hq =>
    refine h.samePhase ⟨rfl, rfl, ?_, rfl, fun _ h => h⟩ rfl
    simp [unfinished, underway, Thread.jobs, ht, hq]
  | activated result action ht =>
    refine h.samePhase ⟨rfl, rfl, ?_, rfl, fun _ h => h⟩ rfl
    simp [unfinished, underway, Thread.jobs, ht]
  | actionEnds =>
    refine h.samePhase ⟨rfl, rfl, ?_, rfl, fun _ h => h⟩ rfl
    simp [unfinished, underway, Thread.jobs]

/-! ## Runs -/

theorem Tended.rowsSafe (h : s.Tended) : s.RowsSafe where
  once := h.once.sublist ((List.sublist_append_right _ _).map _)
  shown action hm := h.shown _ (h.pending action (List.mem_append_right _ hm))
  distinct := h.distinct
  activated _ hne := h.selected.resolve_right fun hz =>
    hne (List.eq_nil_of_length_eq_zero hz.1)
  running := h.running
  clamped := h.selected.clamp
  keeps t hs request nextItems itemsQueue item hq hitem hkept := by
    cases step_turn hs with
    | snapshot hp =>
      unfold ActionList.trySnapshot
      rw [hq]
      dsimp only [processSnapshot]
      split
      · -- A stale snapshot changes nothing.
        exact congrArg (Option.map _) hitem
      · exact applySnapshot_keeps { s with itemsQueue, refreshPending := false } request hitem hkept

/-- **Rows with a running action are safe** in every state the list comes to, by any order of keys,
    results and snapshots, as long as a snapshot has every id once. -/
theorem rowsSafe_of_run {items : List TuiItem} (hitems : (items.map (·.id)).Nodup)
    {moves : List Move} (hd : ∀ move ∈ moves, move.Distinct)
    (hr : run step (start items) moves = some s) : s.RowsSafe := by
  have htended : s.Tended :=
    invariant_of_along (P := fun _ move => move.Distinct) (I := Tended)
      (fun _ _ _ h hm hs => h.step hm hs) (tended_start hitems) (along_of_mem hd _) hr
  exact htended.rowsSafe

/-- A row is toggled, and the refresh that comes before its result leaves it out. -/
def omittedRow : List Move :=
  [.result, .snapshot, .draw false (.ok ()), .timeout true, .takeRefresh,
   .result, .snapshot, .draw false (.ok ()), .event (.key { code := .char ' ' }), .takeAction,
   .loaded (.ok []), .result, .snapshot]

theorem omittedRow_runs : (run step (start [freeRow]) omittedRow).isSome = true := by
  decide +kernel

theorem omittedRow_rowsSafe :
    ∃ s, run step (start [freeRow]) omittedRow = some s ∧ s.RowsSafe := by
  have hitems : ([freeRow].map (·.id)).Nodup := List.nodup_singleton _
  have hd : ∀ move ∈ omittedRow, move.Distinct := by simp [omittedRow, Move.Distinct]
  have hrun := (Option.some_get omittedRow_runs).symm
  exact ⟨_, hrun, rowsSafe_of_run hitems hd hrun⟩

/-- The row is still there, and its action still runs. -/
example : (run step (start [freeRow]) omittedRow).map
    (fun s => (s.items.map (·.id), s.underway.map (·.item.id), s.selected)) =
      some (["1-1".toList], ["1-1".toList], 0) := by
  decide +kernel

end ActionList
end Tui
end Lusbip
