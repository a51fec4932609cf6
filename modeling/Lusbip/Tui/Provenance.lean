import Lusbip.Tui.ActionList

/-!
# Where the rows come from

The list makes no rows of its own. What it shows, retains, queues and hands to the thread of the
actions has come with a snapshot, but for the label of a row that has just been toggled. So what is
true of every row that is loaded, and of a row that is toggled, is true of them all.
-/

namespace Lusbip
namespace Tui

open Lib
open Lib.Keyed
open Agent (TuiItem)

variable {P Q : TuiItem → Prop} {previousItems nextItems stickyItems : List TuiItem}

theorem mem_mergeRetainedItems_sub {retainedIds : List Text} {item : TuiItem}
    (h : item ∈ mergeRetainedItems previousItems nextItems retainedIds) :
    item ∈ nextItems ∨ item ∈ previousItems := by
  rw [mergeRetainedItems_eq] at h
  refine (mem_of_mem_pushAll h).imp_right fun h => ?_
  obtain ⟨id, -, hfind⟩ := List.mem_filterMap.mp h
  exact List.mem_of_find?_eq_some hfind

theorem mem_toggleRow {items : List TuiItem} {id : Text} {actionWasAttach : Bool} {item : TuiItem}
    (h : item ∈ toggleRow items id actionWasAttach) :
    item ∈ items ∨ ∃ other ∈ items, item = toggled actionWasAttach other := by
  induction items with
  | nil => exact Or.inl h
  | cons first items ih =>
    unfold toggleRow at h ih
    rw [List.replaceF] at h
    split at h
    · rcases List.mem_cons.mp h with rfl | h
      · exact Or.inl List.mem_cons_self
      · rcases ih h with h | ⟨other, hother, rfl⟩
        · exact Or.inl (List.mem_cons_of_mem _ h)
        · exact Or.inr ⟨other, List.mem_cons_of_mem _ hother, rfl⟩
    · rename_i replaced hreplaced
      split at hreplaced
      · cases hreplaced
        rcases List.mem_cons.mp h with rfl | h
        · exact Or.inr ⟨first, List.mem_cons_self, rfl⟩
        · exact Or.inl (List.mem_cons_of_mem _ h)
      · cases hreplaced

namespace ActionList

/-- Every row that the list has, wherever it has it, is `P`. -/
structure Holds (P : TuiItem → Prop) (s : ActionList) : Prop where
  items : ∀ item ∈ s.items, P item
  sticky : ∀ item ∈ s.stickyItems, P item
  snapshots : ∀ request items, (request, .ok items) ∈ s.itemsQueue → ∀ item ∈ items, P item
  actions : ∀ action ∈ s.unfinished, P action.item

/-- A move that loads rows loads `P`s. -/
def Move.Loads (P : TuiItem → Prop) : Move → Prop
  | .loaded (.ok items) => ∀ item ∈ items, P item
  | _ => True

/-- A row that is toggled is a `P` if it was one. -/
def Closed (P : TuiItem → Prop) : Prop :=
  ∀ actionWasAttach item, P item → P (toggled actionWasAttach item)

variable {s t : ActionList} {move : Move}

theorem Holds.imp (h : s.Holds P) (himp : ∀ item, P item → Q item) : s.Holds Q where
  items item hi := himp item (h.items item hi)
  sticky item hi := himp item (h.sticky item hi)
  snapshots request items hm item hi := himp item (h.snapshots request items hm item hi)
  actions action ha := himp _ (h.actions action ha)

theorem holds_start {items : List TuiItem} (h : ∀ item ∈ items, P item) : (start items).Holds P where
  items := h
  sticky _ hi := absurd hi List.not_mem_nil
  snapshots _ _ hm := absurd hm List.not_mem_nil
  actions _ ha := absurd ha List.not_mem_nil

/-- What has to do with none of the rows. -/
theorem Holds.of_eq (h : s.Holds P) (hi : t.items = s.items) (hs : t.stickyItems = s.stickyItems)
    (hq : t.itemsQueue ⊆ s.itemsQueue) (hu : t.unfinished ⊆ s.unfinished) : t.Holds P where
  items := hi ▸ h.items
  sticky := hs ▸ h.sticky
  snapshots request items hm := h.snapshots request items (hq hm)
  actions action ha := h.actions action (hu ha)

theorem Holds.requestRefresh (h : s.Holds P) : s.requestRefresh.Holds P := by
  unfold ActionList.requestRefresh
  dsimp only
  split
  · exact h.of_eq rfl rfl (fun _ hm => hm) fun _ hm => hm
  · exact h.of_eq rfl rfl (fun _ hm => hm) fun _ hm => hm

theorem Holds.toggle (h : s.Holds P) (hclosed : Closed P) (action : QueuedAction) :
    (s.toggle action).Holds P := by
  have hitems : ∀ item ∈ toggleRow s.items action.item.id action.actionWasAttach, P item := by
    intro item hm
    rcases mem_toggleRow hm with hm | ⟨other, hother, rfl⟩
    · exact h.items item hm
    · exact hclosed _ _ (h.items other hother)
  unfold ActionList.toggle
  split
  · rename_i item hfind
    have hitem : P (toggled action.actionWasAttach item) :=
      hclosed _ _ (h.items item (List.mem_of_find?_eq_some hfind))
    have hsticky : ∀ sticky ∈
        (if action.actionWasAttach && !s.stickyItems.any fun sticky =>
            sticky.id = (toggled action.actionWasAttach item).id then
          s.stickyItems ++ [toggled action.actionWasAttach item] else s.stickyItems), P sticky := by
      intro sticky hm
      split at hm
      · rcases List.mem_append.mp hm with hm | hm
        · exact h.sticky sticky hm
        · exact List.mem_singleton.mp hm ▸ hitem
      · exact h.sticky sticky hm
    dsimp only
    split
    · exact ⟨hitems, hsticky, h.snapshots, h.actions⟩
    · exact ⟨hitems, fun sticky hm => hsticky sticky (List.mem_of_mem_filter hm), h.snapshots,
        h.actions⟩
  · dsimp only
    split
    · exact h
    · exact ⟨h.items, fun sticky hm => h.sticky sticky (List.mem_of_mem_filter hm), h.snapshots,
        h.actions⟩

theorem Holds.tryResult (h : s.Holds P) (hclosed : Closed P) : s.tryResult.Holds P := by
  unfold ActionList.tryResult
  split
  · rename_i action result rest hq
    have hunfinished : unfinished { s with actionResultQueue := rest } ⊆ s.unfinished := by
      intro other hm
      have hm : other ∈ rest.map (·.1) ++ s.underway := hm
      unfold ActionList.unfinished
      rw [hq, List.map_cons, List.cons_append]
      exact List.mem_cons_of_mem _ hm
    have hpost : Holds P
        { s with
          actionResultQueue := rest
          postActionProcessing := s.postActionProcessing.bind (·.finish action.item.id)
          dirty := true } :=
      h.of_eq rfl rfl (fun _ hm => hm) hunfinished
    have hshown : ({ s with actionResultQueue := rest }.showResult action result).Holds P := by
      unfold ActionList.showResult
      cases result with
      | ok text =>
        exact (hpost.toggle hclosed action).of_eq rfl rfl (fun _ hm => hm) fun _ hm => hm
      | error err => exact hpost.of_eq rfl rfl (fun _ hm => hm) fun _ hm => hm
    unfold ActionList.processResult
    have hcounted : Holds P
        { ({ s with actionResultQueue := rest }.showResult action result) with
          results := ({ s with actionResultQueue := rest }.showResult action result).results + 1 } :=
      hshown.of_eq rfl rfl (fun _ hm => hm) fun _ hm => hm
    exact hcounted.requestRefresh.of_eq rfl rfl (fun _ hm => hm) fun _ hm => hm
  · exact h.of_eq rfl rfl (fun _ hm => hm) fun _ hm => hm

theorem Holds.applySnapshot (h : s.Holds P) (request : RefreshRequest) {nextItems : List TuiItem}
    (hnext : ∀ item ∈ nextItems, P item) : (s.applySnapshot request nextItems).Holds P := by
  have hmerged : ∀ item ∈ mergeRetainedItems s.items nextItems s.pendingIds, P item := fun item hm =>
    (mem_mergeRetainedItems_sub hm).elim (hnext item) (h.items item)
  have hsticky : ∀ item ∈
      retainSticky s.stickyItems (mergeRetainedItems s.items nextItems s.pendingIds), P item :=
    fun item hm => h.sticky item (List.mem_of_mem_filter hm)
  refine ⟨fun item hm => ?_, hsticky, h.snapshots, h.actions⟩
  have hm : item ∈ pushSticky
      (retainSticky s.stickyItems (mergeRetainedItems s.items nextItems s.pendingIds))
      (mergeRetainedItems s.items nextItems s.pendingIds) := hm
  rw [pushSticky_eq] at hm
  exact (mem_of_mem_pushAll hm).elim (hmerged item) (hsticky item)

theorem Holds.trySnapshot (h : s.Holds P) : s.trySnapshot.Holds P := by
  unfold ActionList.trySnapshot
  split
  · rename_i request result rest hq
    have hrest : Holds P { s with itemsQueue := rest } :=
      h.of_eq rfl rfl (fun _ hm => hq ▸ List.mem_cons_of_mem _ hm) fun _ hm => hm
    unfold ActionList.processSnapshot
    split
    · exact hrest
    · cases result with
      | ok nextItems =>
        have hclear : Holds P { s with itemsQueue := rest, refreshPending := false } :=
          hrest.of_eq rfl rfl (fun _ hm => hm) fun _ hm => hm
        exact hclear.applySnapshot request
          (h.snapshots request nextItems (hq ▸ List.mem_cons_self))
      | error err => exact hrest.of_eq rfl rfl (fun _ hm => hm) fun _ hm => hm
  · exact h.of_eq rfl rfl (fun _ hm => hm) fun _ hm => hm

theorem Holds.draw (h : s.Holds P) (spinnerDue : Bool) (drawn : Except Text Unit) :
    (s.draw spinnerDue drawn).Holds P := by
  have hclamp : s.clamp.Holds P := h.of_eq rfl rfl (fun _ hm => hm) fun _ hm => hm
  have htick : (s.clamp.tickSpinner spinnerDue).Holds P := by
    unfold ActionList.tickSpinner
    split
    · split
      · exact hclamp.of_eq rfl rfl (fun _ hm => hm) fun _ hm => hm
      · exact hclamp
    · exact hclamp
  unfold ActionList.draw
  dsimp only
  split
  · cases drawn with
    | ok u => exact htick.of_eq rfl rfl (fun _ hm => hm) fun _ hm => hm
    | error err => exact htick.of_eq rfl rfl (fun _ hm => hm) fun _ hm => hm
  · exact htick.of_eq rfl rfl (fun _ hm => hm) fun _ hm => hm

theorem Holds.activate (h : s.Holds P) : s.activate.Holds P := by
  have hsame : ∀ phase, Holds P { s with phase := phase } := fun phase =>
    h.of_eq rfl rfl (fun _ hm => hm) fun _ hm => hm
  unfold ActionList.activate
  split
  · exact hsame _
  · split
    · exact hsame _
    · rename_i item hitem
      split
      · exact hsame _
      · unfold ActionList.enqueue
        dsimp only
        split
        · exact hsame _
        · refine ⟨h.items, h.sticky, h.snapshots, fun action ha => ?_⟩
          simp only [ActionList.unfinished, ActionList.underway] at ha
          rw [← List.append_assoc, ← List.append_assoc] at ha
          rcases List.mem_append.mp ha with ha | ha
          · refine h.actions action ?_
            rw [List.append_assoc] at ha
            exact ha
          · rw [List.mem_singleton.mp ha]
            exact h.items item (List.mem_of_getElem? hitem)

theorem Holds.handle (h : s.Holds P) (event : Event) : (s.handle event).Holds P := by
  unfold ActionList.handle
  split
  · exact h.of_eq rfl rfl (fun _ hm => hm) fun _ hm => hm
  · exact h.of_eq rfl rfl (fun _ hm => hm) fun _ hm => hm
  · exact h.activate
  · exact h.of_eq rfl rfl (fun _ hm => hm) fun _ hm => hm
  · exact h.of_eq rfl rfl (fun _ hm => hm) fun _ hm => hm
  · exact h.of_eq rfl rfl (fun _ hm => hm) fun _ hm => hm

/-- **No step makes a row**: what the list has is what was loaded, or that toggled. -/
theorem Holds.step (h : s.Holds P) (hclosed : Closed P) (hmove : Move.Loads P move)
    (hs : s.step move = some t) : t.Holds P := by
  cases step_turn hs with
  | result hp => exact h.tryResult hclosed
  | snapshot hp => exact h.trySnapshot
  | draw spinnerDue drawn hp => exact h.draw spinnerDue drawn
  | timeout refreshDue hp =>
    unfold ActionList.idle
    split
    · exact h.requestRefresh.of_eq rfl rfl (fun _ hm => hm) fun _ hm => hm
    · exact h.of_eq rfl rfl (fun _ hm => hm) fun _ hm => hm
  | event event hp => exact h.handle event
  | spinnerEvent event n hp =>
    unfold ActionList.spinnerEvent
    split
    · exact h.of_eq rfl rfl (fun _ hm => hm) fun _ hm => hm
    · exact h.of_eq rfl rfl (fun _ hm => hm) fun _ hm => hm
    · exact h.of_eq rfl rfl (fun _ hm => hm) fun _ hm => hm
    · exact h
  | exited result n hp => exact h.of_eq rfl rfl (fun _ hm => hm) fun _ hm => hm
  | failed err => exact h.of_eq rfl rfl (fun _ hm => hm) fun _ hm => hm
  | takeRefresh request rest ht hq => exact h.of_eq rfl rfl (fun _ hm => hm) fun _ hm => hm
  | loaded result request ht =>
    refine ⟨h.items, h.sticky, fun other items hm => ?_, h.actions⟩
    rcases List.mem_append.mp hm with hm | hm
    · exact h.snapshots other items hm
    · cases List.mem_singleton.mp hm
      exact hmove
  | refreshEnds => exact h.of_eq rfl rfl (fun _ hm => hm) fun _ hm => hm
  | takeAction action rest ht hq =>
    refine h.of_eq rfl rfl (fun _ hm => hm) fun other hm => ?_
    simpa [ActionList.unfinished, ActionList.underway, Thread.jobs, ht, hq] using hm
  | activated result action ht =>
    refine h.of_eq rfl rfl (fun _ hm => hm) fun other hm => ?_
    simp only [ActionList.unfinished, ActionList.underway, Thread.jobs, ht, List.map_append,
      List.map_cons, List.map_nil, List.append_assoc] at hm ⊢
    exact hm
  | actionEnds =>
    refine h.of_eq rfl rfl (fun _ hm => hm) fun other hm => ?_
    simp only [ActionList.unfinished, ActionList.underway, Thread.jobs, List.append_nil] at hm ⊢
    exact List.mem_append_left _ hm

end ActionList
end Tui
end Lusbip
