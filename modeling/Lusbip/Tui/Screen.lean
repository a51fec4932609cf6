import Lusbip.Tui.Frame
import Lusbip.Tui.RunningActions

/-!
# What is on the screen

`run_action_list` draws only when something is `dirty`, and `run_with_spinner` draws in its own loop.
`Screen` is the list beside what the last frame was drawn from. Whoever presses a key has that frame
before him, so it has to be the one of the rows the key acts on: whatever changes between two
drawings, and whichever thread changes it, either sets `dirty` or cannot be seen.
-/

namespace Lusbip
namespace Tui

open Lib
open Lib.Fields
open Lib.Transition
open Agent (TuiItem)

namespace ActionList

/-- What the loop draws. -/
def view (s : ActionList) (title : Text) : View where
  title := title
  items := s.items
  selected := s.selected
  message := s.message
  processing := s.postActionProcessing

/-- What `run_with_spinner` draws. -/
def spinnerView (s : ActionList) (title : Text) (currentSelected : Nat) (frame : UInt64) : View where
  title := title
  items := s.items
  selected := currentSelected
  processing := some { frame, ids := [((s.items[s.selected]?).map (·.id)).getD []] }

end ActionList

structure Screen where
  list : ActionList
  /-- What the last frame was drawn from. -/
  shown : Option View := none

namespace Screen

inductive Action where
  | move (move : Move)
  /-- `run_with_spinner` draws. -/
  | spin (frame : UInt64)
  deriving DecidableEq

def start (items : List TuiItem) : Screen := { list := .start items }

/-- What has been drawn after a move; a frame that failed is not counted. -/
def shownAfter (s : Screen) (title : Text) (move : Move) (t : ActionList) : Option View :=
  match move with
  | .draw spinnerDue (.ok _) =>
      if (s.list.clamp.tickSpinner spinnerDue).dirty then some (t.view title) else s.shown
  | _ => s.shown

def step (title : Text) (s : Screen) : Action → Option Screen
  | .move move =>
      (s.list.step move).map fun t => { list := t, shown := s.shownAfter title move t }
  | .spin frame =>
      match s.list.phase with
      | .exiting currentSelected =>
          some { s with shown := some (s.list.spinnerView title currentSelected frame) }
      | _ => none

end Screen

namespace ActionList

variable {s t u : ActionList} {title : Text}

/-! ## What a move changes is drawn again -/

/-- Either a drawing is due, or there is nothing to be seen. -/
def Repaints (title : Text) (s t : ActionList) : Prop :=
  t.dirty = true ∨ t.dirty = s.dirty ∧ t.view title = s.view title

theorem Repaints.of_dirty (h : t.dirty = true) : Repaints title s t := Or.inl h

theorem Repaints.of_eq (hd : t.dirty = s.dirty) (hi : t.items = s.items)
    (hs : t.selected = s.selected) (hm : t.message = s.message)
    (hp : t.postActionProcessing = s.postActionProcessing) : Repaints title s t := by
  refine Or.inr ⟨hd, ?_⟩
  unfold view
  rw [hi, hs, hm, hp]

theorem Repaints.trans (h : Repaints title s t) (h' : Repaints title t u) : Repaints title s u := by
  rcases h' with hd | ⟨hd, hv⟩
  · exact Or.inl hd
  · rcases h with hd' | ⟨hd', hv'⟩
    · exact Or.inl (hd.trans hd')
    · exact Or.inr ⟨hd.trans hd', hv.trans hv'⟩

theorem repaints_requestRefresh (s : ActionList) : Repaints title s s.requestRefresh := by
  unfold requestRefresh
  dsimp only
  split
  · exact .of_eq rfl rfl rfl rfl rfl
  · exact .of_eq rfl rfl rfl rfl rfl

theorem dirty_toggle (s : ActionList) (action : QueuedAction) :
    (s.toggle action).dirty = s.dirty := by
  unfold toggle
  dsimp only
  split
  · split
    · rfl
    · rfl
  · split
    · rfl
    · rfl

theorem repaints_tryResult (s : ActionList) : Repaints title s s.tryResult := by
  unfold tryResult
  split
  · rename_i action result rest hq
    have hshown : ({ s with actionResultQueue := rest }.showResult action result).dirty = true := by
      unfold showResult
      cases result with
      | ok text => exact dirty_toggle _ _
      | error err => rfl
    have hrequested : Repaints title ({ s with actionResultQueue := rest }.showResult action result)
        { ({ s with actionResultQueue := rest }.showResult action result) with
          results := ({ s with actionResultQueue := rest }.showResult action result).results + 1
          }.requestRefresh :=
      Repaints.trans (.of_eq rfl rfl rfl rfl rfl) (repaints_requestRefresh _)
    refine Repaints.of_dirty ?_
    show ActionList.dirty { ({ s with actionResultQueue := rest }.showResult action result) with
      results := _ }.requestRefresh = true
    rcases hrequested with hd | ⟨hd, -⟩
    · exact hd
    · exact hd.trans hshown
  · exact .of_eq rfl rfl rfl rfl rfl

/-- A snapshot that changes nothing that is shown need not be drawn. -/
theorem repaints_applySnapshot (s : ActionList) (request : RefreshRequest)
    (nextItems : List TuiItem) : Repaints title s (s.applySnapshot request nextItems) := by
  by_cases hd : (s.applySnapshot request nextItems).dirty = true
  · exact .of_dirty hd
  · have hfalse := Bool.eq_false_iff.mpr hd
    have hparts := hfalse
    unfold applySnapshot at hparts
    dsimp only at hparts
    rw [Bool.or_eq_false_iff, Bool.or_eq_false_iff, decide_eq_false_iff_not, not_or, not_not,
      not_not] at hparts
    obtain ⟨⟨hdirty, hitems, hselected⟩, hmessage⟩ := hparts
    refine .of_eq (hfalse.trans hdirty.symm) hitems.symm hselected.symm ?_ rfl
    show (if isError s.message = true then none else s.message) = s.message
    rw [hmessage]
    rfl

theorem repaints_trySnapshot (s : ActionList) : Repaints title s s.trySnapshot := by
  unfold trySnapshot
  split
  · rename_i request result rest hq
    unfold processSnapshot
    split
    · exact .of_eq rfl rfl rfl rfl rfl
    · cases result with
      | ok nextItems =>
        exact Repaints.trans (.of_eq rfl rfl rfl rfl rfl) (repaints_applySnapshot _ _ _)
      | error err => exact .of_dirty rfl
  · exact .of_eq rfl rfl rfl rfl rfl

theorem repaints_idle (s : ActionList) (refreshDue : Bool) :
    Repaints title s (s.idle refreshDue) := by
  unfold idle
  split
  · exact (repaints_requestRefresh s).trans (.of_eq rfl rfl rfl rfl rfl)
  · exact .of_eq rfl rfl rfl rfl rfl

theorem repaints_moveSelection (s : ActionList) (action : SelectionAction) :
    Repaints title s (s.moveSelection action) := by
  by_cases hsel : nextIndex s.selected s.items.length action = s.selected
  · refine .of_eq ?_ rfl hsel rfl rfl
    show (s.dirty || decide (nextIndex s.selected s.items.length action ≠ s.selected)) = s.dirty
    rw [decide_eq_false (not_not.mpr hsel), Bool.or_false]
  · refine .of_dirty ?_
    show (s.dirty || decide (nextIndex s.selected s.items.length action ≠ s.selected)) = true
    rw [decide_eq_true hsel, Bool.or_true]

theorem repaints_enqueue (s : ActionList) (item : TuiItem) :
    Repaints title s (s.enqueue item) := by
  unfold enqueue
  dsimp only
  split
  · exact .of_eq rfl rfl rfl rfl rfl
  · exact .of_dirty rfl

theorem repaints_activate (s : ActionList) : Repaints title s s.activate := by
  unfold activate
  split
  · exact .of_eq rfl rfl rfl rfl rfl
  · split
    · exact .of_eq rfl rfl rfl rfl rfl
    · split
      · exact .of_eq rfl rfl rfl rfl rfl
      · exact (repaints_enqueue s _).trans (.of_eq rfl rfl rfl rfl rfl)

theorem repaints_handle (s : ActionList) (event : Event) : Repaints title s (s.handle event) := by
  unfold handle
  split
  · exact repaints_moveSelection s .up
  · exact repaints_moveSelection s .down
  · exact repaints_activate s
  · exact .of_eq rfl rfl rfl rfl rfl
  · exact .of_eq rfl rfl rfl rfl rfl
  · exact .of_eq rfl rfl rfl rfl rfl

/-! ## Drawing -/

theorem repaints_clamp (s : ActionList) : Repaints title s s.clamp := by
  by_cases hsel : s.selected = s.clamp.selected
  · refine .of_eq ?_ rfl hsel.symm rfl rfl
    show (s.dirty || decide (s.selected ≠ s.clamp.selected)) = s.dirty
    rw [decide_eq_false (not_not.mpr hsel), Bool.or_false]
  · refine .of_dirty ?_
    show (s.dirty || decide (s.selected ≠ s.clamp.selected)) = true
    rw [decide_eq_true hsel, Bool.or_true]

theorem repaints_tickSpinner (s : ActionList) (spinnerDue : Bool) :
    Repaints title s (s.tickSpinner spinnerDue) := by
  unfold tickSpinner
  split
  · split
    · exact .of_dirty rfl
    · exact .of_eq rfl rfl rfl rfl rfl
  · exact .of_eq rfl rfl rfl rfl rfl

theorem inRange_clamp (s : ActionList) : InRange s.clamp.items.length s.clamp.selected := by
  show InRange s.items.length (if s.items = [] then 0 else min s.selected (s.items.length - 1))
  split
  · rename_i hnil
    rw [hnil]
    exact Or.inr ⟨rfl, rfl⟩
  · rename_i hne
    have hpos := List.length_pos_iff.mpr hne
    exact Or.inl (by omega)

theorem rows_tickSpinner (s : ActionList) (spinnerDue : Bool) :
    (s.tickSpinner spinnerDue).items = s.items ∧
      (s.tickSpinner spinnerDue).selected = s.selected := by
  unfold tickSpinner
  split
  · split
    · exact ⟨rfl, rfl⟩
    · exact ⟨rfl, rfl⟩
  · exact ⟨rfl, rfl⟩

/-- What is drawn is what the loop goes on with. -/
theorem view_draw (s : ActionList) (spinnerDue : Bool) (drawn : Except Text Unit) :
    (s.draw spinnerDue drawn).view title = (s.clamp.tickSpinner spinnerDue).view title := by
  unfold draw
  dsimp only
  split
  · cases drawn with
    | ok u => rfl
    | error err => rfl
  · rfl

theorem inRange_draw (s : ActionList) (spinnerDue : Bool) (drawn : Except Text Unit) :
    InRange (s.draw spinnerDue drawn).items.length (s.draw spinnerDue drawn).selected := by
  have hview : (s.draw spinnerDue drawn).view [] = (s.clamp.tickSpinner spinnerDue).view [] :=
    view_draw s spinnerDue drawn
  have hitems : (s.draw spinnerDue drawn).items = (s.clamp.tickSpinner spinnerDue).items :=
    congrArg View.items hview
  have hselected : (s.draw spinnerDue drawn).selected = (s.clamp.tickSpinner spinnerDue).selected :=
    congrArg View.selected hview
  obtain ⟨hi, hs⟩ := rows_tickSpinner s.clamp spinnerDue
  rw [hitems, hselected, hi, hs]
  exact inRange_clamp s

/-- Behind a drawing there is nothing left to draw. -/
theorem dirty_draw {spinnerDue : Bool} {drawn : Except Text Unit}
    (h : (s.draw spinnerDue drawn).phase = .polling) : (s.draw spinnerDue drawn).dirty = false := by
  unfold draw at h ⊢
  dsimp only at h ⊢
  split at h
  · rename_i hdirty
    rw [if_pos hdirty]
    cases drawn with
    | ok u => rfl
    | error err => cases h
  · rename_i hclean
    rw [if_neg hclean]
    exact Bool.eq_false_iff.mpr hclean

end ActionList

namespace Screen

/-! ## The last frame -/

/-- The phases of the loop itself. -/
def Looping : Phase → Prop
  | .results | .snapshots | .drawing | .polling => True
  | _ => False

/-- What holds between two steps. -/
structure Painted (title : Text) (s : Screen) : Prop where
  fresh : Looping s.list.phase → s.list.dirty = true ∨ s.shown = some (s.list.view title)
  drawn : s.list.phase = .polling → s.list.dirty = false
  inRange : s.list.phase = .polling → InRange s.list.items.length s.list.selected

variable {title : Text} {s t : Screen}

theorem painted_start (items : List TuiItem) : (start items).Painted title where
  fresh _ := Or.inl rfl
  drawn h := nomatch h
  inRange h := nomatch h

/-- A move other than a drawing leaves the frame up to date, or a drawing due. -/
theorem Painted.move (h : s.Painted title) {list : ActionList} (hloop : Looping s.list.phase)
    (hr : ActionList.Repaints title s.list list) (hp : list.phase ≠ .polling) :
    Painted title { list, shown := s.shown } where
  fresh _ := by
    rcases hr with hd | ⟨hd, hv⟩
    · exact Or.inl hd
    · rcases h.fresh hloop with hd' | hshown
      · exact Or.inl (hd.trans hd')
      · refine Or.inr ?_
        show s.shown = some (list.view title)
        rw [hshown, hv]
  drawn hp' := absurd hp' hp
  inRange hp' := absurd hp' hp

/-- What a thread does is not shown. -/
theorem Painted.thread (h : s.Painted title) {list : ActionList}
    (hd : list.dirty = s.list.dirty) (hv : list.view title = s.list.view title)
    (hp : list.phase = s.list.phase) : Painted title { list, shown := s.shown } where
  fresh hl := by
    show list.dirty = true ∨ s.shown = some (list.view title)
    rw [hd, hv]
    exact h.fresh (hp ▸ hl)
  drawn hp' := hd.trans (h.drawn (hp.symm.trans hp'))
  inRange hp' := by
    have hi : list.items = s.list.items := congrArg View.items hv
    have hs : list.selected = s.list.selected := congrArg View.selected hv
    show InRange list.items.length list.selected
    rw [hi, hs]
    exact h.inRange (hp.symm.trans hp')

/-- Behind the loop nothing is claimed of the frame. -/
theorem painted_of_not_looping (h : ¬Looping s.list.phase) : s.Painted title where
  fresh hl := absurd hl h
  drawn hp := absurd (hp ▸ trivial) h
  inRange hp := absurd (hp ▸ trivial) h

/-- **A drawing brings the frame up to date.** -/
theorem Painted.draw (h : s.Painted title) (hp : s.list.phase = .drawing) (spinnerDue : Bool)
    (drawn : Except Text Unit) :
    Painted title
      { list := s.list.draw spinnerDue drawn
        shown := s.shownAfter title (.draw spinnerDue drawn) (s.list.draw spinnerDue drawn) } where
  fresh hl := by
    by_cases hdirty : (s.list.clamp.tickSpinner spinnerDue).dirty = true
    · cases drawn with
      | error err =>
        unfold ActionList.draw at hl
        dsimp only at hl
        rw [if_pos hdirty] at hl
        exact hl.elim
      | ok u =>
        refine Or.inr ?_
        show (if (s.list.clamp.tickSpinner spinnerDue).dirty = true then _ else _) = _
        rw [if_pos hdirty]
    · have hshown : s.shownAfter title (.draw spinnerDue drawn) (s.list.draw spinnerDue drawn) =
          s.shown := by
        cases drawn with
        | error err => rfl
        | ok u => exact if_neg hdirty
      rw [hshown, ActionList.view_draw]
      have hr : ActionList.Repaints title s.list (s.list.clamp.tickSpinner spinnerDue) :=
        (ActionList.repaints_clamp s.list).trans (ActionList.repaints_tickSpinner _ spinnerDue)
      rcases hr with hd | ⟨hd, hv⟩
      · exact absurd hd hdirty
      · rcases h.fresh (by rw [hp]; trivial) with hd' | hshown'
        · exact absurd (hd.trans hd') hdirty
        · exact Or.inr (by rw [hshown', hv])
  drawn hpoll := ActionList.dirty_draw hpoll
  inRange _ := ActionList.inRange_draw _ _ _

theorem phase_tryResult {s : ActionList} (hp : s.phase = .results) :
    s.tryResult.phase ≠ .polling := by
  unfold ActionList.tryResult
  split
  · rename_i action result rest hq
    have hshown : ({ s with actionResultQueue := rest }.showResult action result).phase =
        s.phase := by
      unfold ActionList.showResult
      cases result with
      | ok text => exact (ActionList.toggle_sameRows _ action).2
      | error err => rfl
    unfold ActionList.processResult
    dsimp only
    rw [ActionList.phase_requestRefresh]
    show ({ s with actionResultQueue := rest }.showResult action result).phase ≠ .polling
    rw [hshown, hp]
    exact fun h => nomatch h
  · exact fun h => nomatch h

theorem phase_trySnapshot {s : ActionList} (hp : s.phase = .snapshots) :
    s.trySnapshot.phase ≠ .polling := by
  have hne : s.phase ≠ .polling := fun h => nomatch hp.symm.trans h
  unfold ActionList.trySnapshot
  split
  · unfold ActionList.processSnapshot
    split
    · exact hne
    · split
      · exact hne
      · exact hne
  · exact fun h => nomatch h

theorem phase_handle (s : ActionList) (event : Event) : (s.handle event).phase ≠ .polling := by
  unfold ActionList.handle
  split
  · exact fun h => nomatch h
  · exact fun h => nomatch h
  · unfold ActionList.activate
    split
    · exact fun h => nomatch h
    · split
      · exact fun h => nomatch h
      · split
        · exact fun h => nomatch h
        · exact fun h => nomatch h
  · exact fun h => nomatch h
  · exact fun h => nomatch h
  · exact fun h => nomatch h

/-- Back from `run_with_spinner` a drawing is due. -/
theorem painted_leaveSpinner (list : ActionList) (shown : Option View) (result : Text)
    (nextSelected : Nat) :
    Painted title { list := list.leaveSpinner result nextSelected, shown } := by
  have hphase : (list.leaveSpinner result nextSelected).phase ≠ .polling := by
    rcases ActionList.phase_leaveSpinner list result nextSelected with hp | hp
    · exact fun h => nomatch hp.symm.trans h
    · exact fun h => nomatch hp.symm.trans h
  exact ⟨fun _ => Or.inl rfl, fun h => absurd h hphase, fun h => absurd h hphase⟩

theorem painted_spinnerEvent (list : ActionList) (shown : Option View) {currentSelected : Nat}
    (hp : list.phase = .exiting currentSelected) (event : Event) :
    Painted title { list := list.spinnerEvent currentSelected event, shown } := by
  unfold ActionList.spinnerEvent
  split
  · exact painted_of_not_looping fun h => h
  · exact painted_of_not_looping fun h => h
  · exact painted_leaveSpinner _ _ _ _
  · refine painted_of_not_looping fun h => ?_
    have hl : Looping list.phase := h
    rw [hp] at hl
    exact hl

theorem Painted.step (h : s.Painted title) {action : Action} (hs : step title s action = some t) :
    t.Painted title := by
  cases action with
  | spin frame =>
    unfold Screen.step at hs
    dsimp only at hs
    split at hs
    · rename_i n hp
      cases hs
      refine painted_of_not_looping fun hl => ?_
      have hl : Looping s.list.phase := hl
      rw [hp] at hl
      exact hl
    · cases hs
  | move move =>
    obtain ⟨list, hlist, rfl⟩ := Option.map_eq_some_iff.mp hs
    cases ActionList.step_turn hlist with
    | result hp =>
      exact h.move (by rw [hp]; trivial) (ActionList.repaints_tryResult _) (phase_tryResult hp)
    | snapshot hp =>
      exact h.move (by rw [hp]; trivial) (ActionList.repaints_trySnapshot _) (phase_trySnapshot hp)
    | draw spinnerDue drawn hp => exact h.draw hp spinnerDue drawn
    | timeout refreshDue hp =>
      exact h.move (by rw [hp]; trivial) (ActionList.repaints_idle _ _) fun hi => nomatch hi
    | event event hp =>
      exact h.move (by rw [hp]; trivial) (ActionList.repaints_handle _ _) (phase_handle _ _)
    | spinnerEvent event n hp => exact painted_spinnerEvent _ _ hp event
    | exited result n hp => exact painted_leaveSpinner _ _ _ _
    | failed err => exact painted_of_not_looping fun hl => hl
    | takeRefresh request rest ht hq => exact h.thread rfl rfl rfl
    | loaded result request ht => exact h.thread rfl rfl rfl
    | refreshEnds => exact h.thread rfl rfl rfl
    | takeAction action rest ht hq => exact h.thread rfl rfl rfl
    | activated result action ht => exact h.thread rfl rfl rfl
    | actionEnds => exact h.thread rfl rfl rfl

theorem painted_of_run {items : List TuiItem} {actions : List Action}
    (h : run (step title) (start items) actions = some s) : s.Painted title :=
  invariant_of_run (fun _ _ _ hp hs => hp.step hs) (painted_start items) h

/-! ## Keys act on what is shown -/

/-- What the space bar does to the queue of actions: nothing, or it queues the action of the row that
    is selected on the last frame, which is not shown as being processed. -/
def ActsOnShown (s : Screen) (t : ActionList) : Prop :=
  t.actionQueue = s.list.actionQueue ∨
    ∃ v item, s.shown = some v ∧ v.items[v.selected]? = some item ∧ v.isProcessing item = false ∧
      t.actionQueue = s.list.actionQueue ++
        [{ item, actionWasAttach := (stripPrefix "[ ]".toList item.label).isSome }]

/-- Whoever is asked for a key has the rows as they are in front of him. -/
structure SeesRows (title : Text) (s : Screen) : Prop where
  current : s.shown = some (s.list.view title)
  selected : InRange s.list.items.length s.list.selected
  acts : ∀ event t, s.list.step (.event event) = some t → ActsOnShown s t

theorem isProcessing_view (s : ActionList) (item : TuiItem) :
    (s.view title).isProcessing item = s.pendingIds.contains item.id := by
  unfold View.isProcessing ActionList.pendingIds
  show (s.postActionProcessing.any fun processing => processing.ids.contains item.id) = _
  cases s.postActionProcessing with
  | none => rfl
  | some processing => rfl

theorem actsOnShown_activate (hshown : s.shown = some (s.list.view title)) :
    ActsOnShown s s.list.activate := by
  unfold ActionList.activate
  split
  · exact Or.inl rfl
  · split
    · exact Or.inl rfl
    · rename_i item hitem
      split
      · exact Or.inl rfl
      · rename_i hpending
        unfold ActionList.enqueue
        dsimp only
        split
        · exact Or.inl rfl
        · refine Or.inr ⟨_, item, hshown, hitem, ?_, rfl⟩
          rw [isProcessing_view]
          exact Bool.eq_false_iff.mpr hpending

/-- **What is seen is what is toggled.** Whenever the list takes a key, the last frame is drawn from
    the rows, the selection, the message and the spinner as they are, and an action that the key
    queues is the one of the row that frame highlights. -/
theorem seesRows_of_run (items : List TuiItem) (actions : List Action)
    (h : run (step title) (start items) actions = some s) (hp : s.list.phase = .polling) :
    s.SeesRows title := by
  have hpainted := painted_of_run h
  have hshown : s.shown = some (s.list.view title) := by
    rcases hpainted.fresh (by rw [hp]; trivial) with hd | hshown
    · exact absurd hd (by rw [hpainted.drawn hp]; exact Bool.false_ne_true)
    · exact hshown
  refine ⟨hshown, hpainted.inRange hp, fun event t ht => ?_⟩
  cases ActionList.step_turn ht with
  | event _ _ =>
    unfold ActionList.handle
    split
    · exact Or.inl rfl
    · exact Or.inl rfl
    · exact actsOnShown_activate hshown
    · exact Or.inl rfl
    · exact Or.inl rfl
    · exact Or.inl rfl

/-- The list as it waits for its first key. -/
def firstScreen : Screen where
  list := { ActionList.start [ActionList.freeRow] with phase := .polling, dirty := false }
  shown := some ((ActionList.start [ActionList.freeRow]).view "LUSBIP".toList)

theorem seesRows_firstScreen : firstScreen.SeesRows "LUSBIP".toList :=
  seesRows_of_run [ActionList.freeRow]
    [.move .result, .move .snapshot, .move (.draw false (.ok ()))] rfl rfl

end Screen
end Tui
end Lusbip
