import Lusbip.Lib.Transition
import Lusbip.Tui.Items

/-!
# `run_action_list`

The loop that shows the rows and takes keys, and the two threads behind it. One thread loads the
rows again when it is asked to, the other one carries the actions out. The loop talks to each over a
queue there and a queue back, and nothing orders the two against each other.

A step is one `try_recv`, one drawing, one event, or one thing that a thread does. A thread may also
end, by a panic of what it calls; the queue in front of it goes with it, what it has answered stays.
Times are up to the moves: whether a tick of the spinner or a refresh is due.

What the terminal shows is not modelled, but for the drawing that fails. `results`, `refreshes` and
`applied` are kept for the statements only, and so is the count in a `RefreshRequest`.
-/

namespace Lusbip
namespace Tui

open Lib
open Lib.Fields
open Lib.Transition
open Agent (TuiItem)

/-! ## Queues and threads -/

/-- A sequence number on its way to the refresh thread and back. -/
structure RefreshRequest where
  seq : UInt64
  /-- The action results that had been processed when it was sent. -/
  results : Nat
  deriving DecidableEq, Repr

/-- An action that waits for the one before it, with what it was meant to do when the key was
    pressed. -/
structure QueuedAction where
  item : TuiItem
  actionWasAttach : Bool
  deriving DecidableEq, Repr

/-- The rows that show the spinner, and where that is. -/
structure ProcessingIndicator where
  frame : UInt64
  ids : List Text
  deriving DecidableEq, Repr

/-- A thread that takes jobs from a queue, one after the other. -/
inductive Thread (α : Type) where
  | waiting
  | working (job : α)
  | gone
  deriving DecidableEq, Repr

/-- The job that a thread is working at, if it has one. -/
def Thread.jobs {α : Type} : Thread α → List α
  | .working job => [job]
  | _ => []

/-- Where the loop stands. -/
inductive Phase where
  /-- `action_result_rx.try_recv()` -/
  | results
  /-- `items_rx.try_recv()` -/
  | snapshots
  | drawing
  /-- `event::poll` -/
  | polling
  /-- In `run_with_spinner`, with the selected row there. -/
  | exiting (currentSelected : Nat)
  | returned (result : Except Text Unit)
  | panicked

/-- The variables of `run_action_list`, with its two threads and the channels to and from them. -/
structure ActionList where
  phase : Phase := .results
  items : List TuiItem
  selected : Nat := 0
  message : Option Text := none
  refreshPending : Bool := false
  refreshSeq : UInt64 := 0
  minimumRefreshSeq : UInt64 := 0
  postActionProcessing : Option ProcessingIndicator := none
  stickyItems : List TuiItem := []
  dirty : Bool := true
  refreshQueue : List RefreshRequest := []
  refreshThread : Thread RefreshRequest := .waiting
  itemsQueue : List (RefreshRequest × Except Text (List TuiItem)) := []
  actionQueue : List QueuedAction := []
  actionThread : Thread QueuedAction := .waiting
  actionResultQueue : List (QueuedAction × Except Text Text) := []
  /-- The action results that have been processed. -/
  results : Nat := 0
  /-- The refreshes that have been requested. -/
  refreshes : Nat := 0
  /-- The snapshots that have replaced `items`, each with the action results processed by then. -/
  applied : List (RefreshRequest × Nat) := []

/-- Why a call to the terminal has failed. -/
inductive TerminalError where
  | draw (err : Text)
  | poll (err : Text)
  | read (err : Text)
  deriving DecidableEq, Repr

/-- The text that the loop ends with when the terminal fails. -/
def TerminalError.text : TerminalError → Text
  | .draw err => err
  | .poll err => "Failed to poll terminal event: ".toList ++ err
  | .read err => "Failed to read terminal event: ".toList ++ err

/-- What happens next: a step of the loop, or one of a thread. -/
inductive Move where
  | result
  | snapshot
  | draw (spinnerDue : Bool) (drawn : Except Text Unit)
  /-- No event has come. -/
  | timeout (refreshDue : Bool)
  | event (event : Event)
  /-- An event while `exit` is running. -/
  | spinnerEvent (event : Event)
  /-- `exit` has returned, or its thread has panicked. -/
  | exited (result : Option (Except Text Unit))
  | failed (err : TerminalError)
  | takeRefresh
  | loaded (result : Except Text (List TuiItem))
  | refreshEnds
  | takeAction
  | activated (result : Except Text Text)
  | actionEnds
  deriving DecidableEq

/-- `format!("Error: {err}")` -/
def errorMessage (err : Text) : Text := "Error: ".toList ++ err

/-- A message that tells of an error. -/
def isError (message : Option Text) : Bool :=
  message.any fun value => (stripPrefix "Error:".toList value).isSome

/-- The action is not in progress any more. -/
def ProcessingIndicator.finish (processing : ProcessingIndicator) (id : Text) :
    Option ProcessingIndicator :=
  let ids := processing.ids.filter (· ≠ id)
  if ids = [] then none else some { processing with ids }

namespace ActionList

/-- The loop before its first round, with the rows it has loaded itself. -/
def start (items : List TuiItem) : ActionList := { items }

/-- The rows with an action in progress. -/
def pendingIds (s : ActionList) : List Text := (s.postActionProcessing.map (·.ids)).getD []

/-- The refreshes that have been requested and whose results have not been taken. -/
def inFlight (s : ActionList) : List RefreshRequest :=
  s.itemsQueue.map (·.1) ++ s.refreshThread.jobs ++ s.refreshQueue

/-- The actions that are queued or running. -/
def underway (s : ActionList) : List QueuedAction := s.actionThread.jobs ++ s.actionQueue

/-- The actions whose results have not been taken. -/
def unfinished (s : ActionList) : List QueuedAction :=
  s.actionResultQueue.map (·.1) ++ s.underway

/-! ## What the loop does -/

/-- The next sequence number is sent, if the thread is there to receive it. -/
def requestRefresh (s : ActionList) : ActionList :=
  let seq := s.refreshSeq + 1
  let s := { s with refreshSeq := seq, refreshes := s.refreshes + 1 }
  match s.refreshThread with
  | .gone => { s with refreshPending := false }
  | _ =>
      { s with
        refreshPending := true
        refreshQueue := s.refreshQueue ++ [{ seq, results := s.results }] }

/-- The row of an action that has succeeded, until a refresh shows what has become of it. -/
def toggle (s : ActionList) (action : QueuedAction) : ActionList :=
  let s :=
    match s.items.find? fun item => item.id = action.item.id with
    | some item =>
        let item := toggled action.actionWasAttach item
        { s with
          items := toggleRow s.items action.item.id action.actionWasAttach
          stickyItems :=
            if action.actionWasAttach && !s.stickyItems.any fun sticky => sticky.id = item.id then
              s.stickyItems ++ [item]
            else s.stickyItems }
    | none => s
  if action.actionWasAttach then s
  else { s with stickyItems := s.stickyItems.filter fun sticky => sticky.id ≠ action.item.id }

/-- What a result changes on the screen. -/
def showResult (s : ActionList) (action : QueuedAction) (result : Except Text Text) : ActionList :=
  let s :=
    { s with
      postActionProcessing := s.postActionProcessing.bind (·.finish action.item.id)
      dirty := true }
  match result with
  | .ok _ => { s.toggle action with message := none }
  | .error err => { s with message := some (errorMessage err) }

/-- What was loaded before the result is out of date. -/
def processResult (s : ActionList) (action : QueuedAction) (result : Except Text Text) :
    ActionList :=
  let s := s.showResult action result
  let s := { s with results := s.results + 1 }.requestRefresh
  { s with minimumRefreshSeq := s.refreshSeq }

/-- `while let Ok((action, result)) = action_result_rx.try_recv()` -/
def tryResult (s : ActionList) : ActionList :=
  match s.actionResultQueue with
  | (action, result) :: actionResultQueue =>
      { s with actionResultQueue }.processResult action result
  | [] => { s with phase := .snapshots }

/-- The rows of a snapshot, with those that are retained, become the rows of the list. -/
def applySnapshot (s : ActionList) (request : RefreshRequest) (nextItems : List TuiItem) :
    ActionList :=
  let nextItems := mergeRetainedItems s.items nextItems s.pendingIds
  let stickyItems := retainSticky s.stickyItems nextItems
  let nextItems := pushSticky stickyItems nextItems
  let nextSelected := preserveSelectedIndex s.items nextItems s.selected
  { s with
    stickyItems
    dirty := s.dirty || decide (s.items ≠ nextItems ∨ s.selected ≠ nextSelected) ||
      isError s.message
    selected := nextSelected
    items := nextItems
    message := if isError s.message then none else s.message
    applied := s.applied ++ [(request, s.results)] }

/-- A refresh has come in. One that is older than the last action is dropped; an error becomes the
    message. -/
def processSnapshot (s : ActionList) (request : RefreshRequest)
    (result : Except Text (List TuiItem)) : ActionList :=
  if request.seq < s.minimumRefreshSeq then s
  else
    let s := { s with refreshPending := false }
    match result with
    | .ok nextItems => s.applySnapshot request nextItems
    | .error err => { s with message := some (errorMessage err), dirty := true }

/-- `while let Ok((seq, result)) = items_rx.try_recv()` -/
def trySnapshot (s : ActionList) : ActionList :=
  match s.itemsQueue with
  | (request, result) :: itemsQueue => { s with itemsQueue }.processSnapshot request result
  | [] => { s with phase := .drawing }

/-- The selected row is one of the rows. -/
def clamp (s : ActionList) : ActionList :=
  let nextSelected := if s.items = [] then 0 else min s.selected (s.items.length - 1)
  { s with selected := nextSelected, dirty := s.dirty || decide (s.selected ≠ nextSelected) }

/-- The spinner goes on by one stroke when its time has come. -/
def tickSpinner (s : ActionList) (spinnerDue : Bool) : ActionList :=
  match s.postActionProcessing with
  | some processing =>
      if spinnerDue then
        { s with
          postActionProcessing := some { processing with frame := processing.frame + 1 }
          dirty := true }
      else s
  | none => s

/-- A frame, if something has changed since the last one. -/
def draw (s : ActionList) (spinnerDue : Bool) (drawn : Except Text Unit) : ActionList :=
  let s := s.clamp.tickSpinner spinnerDue
  if s.dirty then
    match drawn with
    | .ok () => { s with dirty := false, phase := .polling }
    | .error err => { s with phase := .returned (.error err) }
  else { s with phase := .polling }

/-- Nobody has pressed a key. -/
def idle (s : ActionList) (refreshDue : Bool) : ActionList :=
  let s := if refreshDue && !s.refreshPending then s.requestRefresh else s
  { s with phase := .results }

/-- The selection goes to the next row or the one before. That alone makes a frame due only if it
    moves. -/
def moveSelection (s : ActionList) (action : SelectionAction) : ActionList :=
  let nextSelected := nextIndex s.selected s.items.length action
  { s with
    phase := .results
    selected := nextSelected
    dirty := s.dirty || decide (nextSelected ≠ s.selected) }

/-- An action for the row is queued. -/
def enqueue (s : ActionList) (item : TuiItem) : ActionList :=
  let queued : QueuedAction :=
    { actionWasAttach := (stripPrefix "[ ]".toList item.label).isSome, item }
  match s.actionThread with
  | .gone => s
  | _ =>
      { s with
        actionQueue := s.actionQueue ++ [queued]
        postActionProcessing :=
          match s.postActionProcessing with
          | some processing => some { processing with ids := processing.ids ++ [queued.item.id] }
          | none => some { frame := 0, ids := [queued.item.id] }
        dirty := true }

/-- The selected row is activated: `items[selected]` panics where there is none. -/
def activate (s : ActionList) : ActionList :=
  if s.items = [] then { s with phase := .results }
  else
    match s.items[s.selected]? with
    | none => { s with phase := .panicked }
    | some item =>
        if s.pendingIds.contains item.id then { s with phase := .results }
        else { s.enqueue item with phase := .results }

/-- What a key does, while no spinner is shown. -/
def handle (s : ActionList) (event : Event) : ActionList :=
  match listKeyAction event with
  | some .up => s.moveSelection .up
  | some .down => s.moveSelection .down
  | some .activate => s.activate
  | some .background => { s with phase := .returned (.ok ()) }
  | some .cancel => { s with phase := .exiting s.selected }
  | none => { s with phase := .results }

/-- `run_with_spinner` returns. -/
def leaveSpinner (s : ActionList) (result : Text) (nextSelected : Nat) : ActionList :=
  { s with
    selected := nextSelected
    message := some result
    dirty := true
    phase := if isError (some result) then .results else .returned (.ok ()) }

/-- What a key does, while the spinner is shown. -/
def spinnerEvent (s : ActionList) (currentSelected : Nat) (event : Event) : ActionList :=
  match listKeyAction event with
  | some .up => { s with phase := .exiting (nextIndex currentSelected s.items.length .up) }
  | some .down => { s with phase := .exiting (nextIndex currentSelected s.items.length .down) }
  | some .cancel =>
      s.leaveSpinner
        "Error: Operation is still running; usbip timeout will stop it shortly".toList
        currentSelected
  | _ => s

/-- What is told of `exit`. -/
def exitMessage : Option (Except Text Unit) → Text
  | some (.ok ()) => "Detached attached USB/IP ports".toList
  | some (.error err) => errorMessage err
  | none => "Error: worker stopped unexpectedly".toList

/-- One step: of the loop, or of a thread. -/
def step (s : ActionList) : Move → Option ActionList
  | .result =>
      match s.phase with
      | .results => some s.tryResult
      | _ => none
  | .snapshot =>
      match s.phase with
      | .snapshots => some s.trySnapshot
      | _ => none
  | .draw spinnerDue drawn =>
      match s.phase with
      | .drawing => some (s.draw spinnerDue drawn)
      | _ => none
  | .timeout refreshDue =>
      match s.phase with
      | .polling => some (s.idle refreshDue)
      | _ => none
  | .event event =>
      match s.phase with
      | .polling => some (s.handle event)
      | _ => none
  | .spinnerEvent event =>
      match s.phase with
      | .exiting currentSelected => some (s.spinnerEvent currentSelected event)
      | _ => none
  | .exited result =>
      match s.phase with
      | .exiting currentSelected => some (s.leaveSpinner (exitMessage result) currentSelected)
      | _ => none
  | .failed err =>
      match s.phase, err with
      | .polling, .draw _ => none
      | .polling, _ => some { s with phase := .returned (.error err.text) }
      | .exiting _, _ => some { s with phase := .returned (.error err.text) }
      | _, _ => none
  | .takeRefresh =>
      match s.refreshThread, s.refreshQueue with
      | .waiting, request :: refreshQueue =>
          some { s with refreshThread := .working request, refreshQueue }
      | _, _ => none
  | .loaded result =>
      match s.refreshThread with
      | .working request =>
          some
            { s with
              refreshThread := .waiting
              itemsQueue := s.itemsQueue ++ [(request, result)] }
      | _ => none
  | .refreshEnds =>
      match s.refreshThread with
      | .gone => none
      | _ => some { s with refreshThread := .gone, refreshQueue := [] }
  | .takeAction =>
      match s.actionThread, s.actionQueue with
      | .waiting, action :: actionQueue =>
          some { s with actionThread := .working action, actionQueue }
      | _, _ => none
  | .activated result =>
      match s.actionThread with
      | .working action =>
          some
            { s with
              actionThread := .waiting
              actionResultQueue := s.actionResultQueue ++ [(action, result)] }
      | _ => none
  | .actionEnds =>
      match s.actionThread with
      | .gone => none
      | _ => some { s with actionThread := .gone, actionQueue := [] }

/-! ## What a step can do -/

/-- What a move of the loop can come to, one case for each phase. -/
inductive Turn (s : ActionList) : Move → ActionList → Prop where
  | result (hp : s.phase = .results) : Turn s .result s.tryResult
  | snapshot (hp : s.phase = .snapshots) : Turn s .snapshot s.trySnapshot
  | draw (spinnerDue : Bool) (drawn : Except Text Unit) (hp : s.phase = .drawing) :
      Turn s (.draw spinnerDue drawn) (s.draw spinnerDue drawn)
  | timeout (refreshDue : Bool) (hp : s.phase = .polling) :
      Turn s (.timeout refreshDue) (s.idle refreshDue)
  | event (event : Event) (hp : s.phase = .polling) : Turn s (.event event) (s.handle event)
  | spinnerEvent (event : Event) (currentSelected : Nat) (hp : s.phase = .exiting currentSelected) :
      Turn s (.spinnerEvent event) (s.spinnerEvent currentSelected event)
  | exited (result : Option (Except Text Unit)) (currentSelected : Nat)
      (hp : s.phase = .exiting currentSelected) :
      Turn s (.exited result) (s.leaveSpinner (exitMessage result) currentSelected)
  | failed (err : TerminalError) :
      Turn s (.failed err) { s with phase := .returned (.error err.text) }
  | takeRefresh (request : RefreshRequest) (refreshQueue : List RefreshRequest)
      (ht : s.refreshThread = .waiting) (hq : s.refreshQueue = request :: refreshQueue) :
      Turn s .takeRefresh { s with refreshThread := .working request, refreshQueue }
  | loaded (result : Except Text (List TuiItem)) (request : RefreshRequest)
      (ht : s.refreshThread = .working request) :
      Turn s (.loaded result)
        { s with
          refreshThread := .waiting
          itemsQueue := s.itemsQueue ++ [(request, result)] }
  | refreshEnds : Turn s .refreshEnds { s with refreshThread := .gone, refreshQueue := [] }
  | takeAction (action : QueuedAction) (actionQueue : List QueuedAction)
      (ht : s.actionThread = .waiting) (hq : s.actionQueue = action :: actionQueue) :
      Turn s .takeAction { s with actionThread := .working action, actionQueue }
  | activated (result : Except Text Text) (action : QueuedAction)
      (ht : s.actionThread = .working action) :
      Turn s (.activated result)
        { s with
          actionThread := .waiting
          actionResultQueue := s.actionResultQueue ++ [(action, result)] }
  | actionEnds : Turn s .actionEnds { s with actionThread := .gone, actionQueue := [] }

/-- **A step is one of these.** -/
theorem step_turn {s t : ActionList} {move : Move} (h : s.step move = some t) : Turn s move t := by
  unfold step at h
  cases move with
  | result =>
    dsimp only at h
    split at h
    · cases h
      exact .result ‹_›
    · cases h
  | snapshot =>
    dsimp only at h
    split at h
    · cases h
      exact .snapshot ‹_›
    · cases h
  | draw spinnerDue drawn =>
    dsimp only at h
    split at h
    · cases h
      exact .draw spinnerDue drawn ‹_›
    · cases h
  | timeout refreshDue =>
    dsimp only at h
    split at h
    · cases h
      exact .timeout refreshDue ‹_›
    · cases h
  | event event =>
    dsimp only at h
    split at h
    · cases h
      exact .event event ‹_›
    · cases h
  | spinnerEvent event =>
    dsimp only at h
    split at h
    · cases h
      exact .spinnerEvent event _ ‹_›
    · cases h
  | exited result =>
    dsimp only at h
    split at h
    · cases h
      exact .exited result _ ‹_›
    · cases h
  | failed err =>
    dsimp only at h
    split at h
    · cases h
    · cases h
      exact .failed _
    · cases h
      exact .failed _
    · cases h
  | takeRefresh =>
    dsimp only at h
    split at h
    · cases h
      exact .takeRefresh _ _ ‹_› ‹_›
    · cases h
  | loaded result =>
    dsimp only at h
    split at h
    · cases h
      exact .loaded result _ ‹_›
    · cases h
  | refreshEnds =>
    dsimp only at h
    split at h
    · cases h
    · cases h
      exact .refreshEnds
  | takeAction =>
    dsimp only at h
    split at h
    · cases h
      exact .takeAction _ _ ‹_› ‹_›
    · cases h
  | activated result =>
    dsimp only at h
    split at h
    · cases h
      exact .activated result _ ‹_›
    · cases h
  | actionEnds =>
    dsimp only at h
    split at h
    · cases h
    · cases h
      exact .actionEnds

end ActionList
end Tui
end Lusbip
