import Lusbip.Session.BulkIn

/-!
# The bulk-OUT worker

`run_bulk_out_worker` owns the buffered writer of one bulk-OUT endpoint. A URB is answered
once its bytes are in the buffer of the writer; they reach the device for certain only with
a flush, which a bulk-IN worker or the handler asks for, or which an idle delay brings on.
The first failed write or flush is kept in `health`, and fails everything after it.

As for the bulk-IN worker, a move is what ends an `await`, and a step goes from one `await`
to the next. `accepted`, `buffered` and `delivered` are kept for the statements: a
successful flush is what moves URBs from the second list to the third.
-/

namespace Lusbip

/-- An URB for the worker of a bulk OUT endpoint, with the generation it was sent in. -/
structure BulkOutRequest where
  header : UsbIpHeaderBasic
  data : List UInt8
  generation : UInt64
  urb : Urb
  deriving DecidableEq, Repr

/-- What the handler asks of an OUT worker. Flush and shutdown have a sender that is answered. -/
inductive BulkOutCommand where
  | submit (request : BulkOutRequest)
  | flush (reply : Oneshot)
  | shutdown (reply : Oneshot)
  | unlink (seqnum : UInt32)
  deriving DecidableEq, Repr

/-- The URB a command submits, if any. -/
def BulkOutCommand.urbs : BulkOutCommand → List Urb
  | .submit request => [request.urb]
  | _ => []

/-- The number of the URB that is submitted. -/
def BulkOutCommand.submitSeqnum? : BulkOutCommand → Option UInt32
  | .submit request => some request.header.seqnum
  | _ => none

/-- What an OUT worker tells the handler: the reply to an URB, with the generation it belongs to. -/
structure BulkOutEvent where
  seqnum : UInt32
  generation : UInt64
  response : UsbIpResponse
  urb : Urb
  deriving DecidableEq, Repr

/-- The URBs that go to a worker: bulk, and from the host to the device. -/
def usesBulkOutWorker (endpointAttributes : UInt8) (direction : UInt32) : Bool :=
  endpointAttributes = EndpointAttributes.bulk.toU8 ∧ direction = 0

/-- The event of another generation than that of the session is dropped. -/
def shouldWriteBulkOutResponse (activeGeneration eventGeneration : UInt64) : Bool :=
  activeGeneration = eventGeneration

/-! ## The worker -/

/-- Where the loop of an OUT worker is. -/
inductive OutPhase where
  /-- Waiting for a command, or for the idle delay. -/
  | receiving
  /-- Waiting for the writer, on behalf of a command. -/
  | busy (command : BulkOutCommand)
  | stopped
  deriving DecidableEq, Repr

/-- An OUT worker: its commands, whether there is something to flush, and the error that it has met,
    which stays. -/
structure OutWorker where
  address : UInt8
  queue : List BulkOutCommand := []
  phase : OutPhase := .receiving
  needsFlush : Bool := false
  health : Option String := none
  /-- The URBs the handler has sent to the worker. -/
  accepted : List Urb := []
  /-- The URBs written since the last successful flush. -/
  buffered : List Urb := []
  /-- The URBs flushed to the device. -/
  delivered : List Urb := []
  /-- What the worker has sent on reply channels. -/
  answers : List (Oneshot × Except String Unit) := []
  deriving DecidableEq

/-- What an OUT worker does next, with what the device and the clock answer. -/
inductive OutMove where
  | command
  /-- The write or the flush of the command at work returns, or runs into its timeout. -/
  | io (result : Except String Unit)
  /-- The idle delay passes, and the flush returns. -/
  | idleFlush (result : Except String Unit)

namespace OutWorker

/-- A command goes to the end of the queue. -/
def push (w : OutWorker) (command : BulkOutCommand) : OutWorker :=
  { w with queue := w.queue ++ [command], accepted := w.accepted ++ command.urbs }

/-- The senders' end of the command channel, of capacity 256. -/
def send (w : OutWorker) (command : BulkOutCommand) : Sent OutWorker :=
  if w.phase = .stopped then .closed
  else if w.queue.length < 256 then .sent (w.push command)
  else .full

/-- The worker ends, and the commands that are still queued are gone with it. -/
def stop (w : OutWorker) : OutWorker := { w with phase := .stopped, queue := [] }

/-- The event that answers a request. -/
def event (request : BulkOutRequest) (response : UsbIpHeaderBasic → UsbIpResponse) :
    BulkOutEvent where
  seqnum := request.header.seqnum
  generation := request.generation
  response := response (replyHeader request.header usbipRetSubmit)
  urb := request.urb

/-- The response to a request: its bytes are in the buffer, or they are not. -/
def submitResponse (data : List UInt8) (result : Except String Unit)
    (header : UsbIpHeaderBasic) : UsbIpResponse :=
  match result with
  | .ok () => .usbipRetSubmitSuccess header 0 (UInt32.ofNat data.length) [] []
  | .error _ => .usbipRetSubmitFail header 0

/-- What the writer's side of a flush does to the buffer. -/
def flushed (w : OutWorker) : Except String Unit → OutWorker
  | .ok () => { w with delivered := w.delivered ++ w.buffered, buffered := [] }
  | .error _ => w

/-- `state.mark_flushed()`, after a flush that succeeded or failed. -/
def markFlushed (w : OutWorker) : Except String Unit → OutWorker
  | .ok () => { w with needsFlush := false }
  | .error err => { w with needsFlush := false, health := some err }

/-- A sender is answered. -/
def reply (w : OutWorker) (sender : Oneshot) (result : Except String Unit) : OutWorker :=
  { w with answers := w.answers ++ [(sender, result)] }

/-- The end of a `Flush` command. -/
def endFlush (w : OutWorker) (sender : Oneshot) (result : Except String Unit) : OutWorker :=
  { (w.markFlushed result).reply sender result with phase := .receiving }

/-- The end of a `Shutdown` command, and of the task. -/
def endShutdown (w : OutWorker) (sender : Oneshot) (result : Except String Unit) : OutWorker :=
  (w.reply sender result).stop

/-- The end of a write. -/
def endWrite (w : OutWorker) (request : BulkOutRequest) (result : Except String Unit) :
    OutWorker :=
  match result with
  | .ok () =>
      { w with needsFlush := true, buffered := w.buffered ++ [request.urb], phase := .receiving }
  | .error err => { w with health := some err, phase := .receiving }

/-- A command is taken up. It is settled on the spot unless the writer is needed. -/
def receive (w : OutWorker) (command : BulkOutCommand) : OutWorker × List BulkOutEvent :=
  match command with
  | .submit request =>
      match w.health with
      | some err => (w, [event request (submitResponse request.data (.error err))])
      | none => ({ w with phase := .busy command }, [])
  | .flush sender =>
      match w.health with
      | some err => (w.endFlush sender (.error err), [])
      | none =>
          if w.needsFlush then ({ w with phase := .busy command }, [])
          else (w.endFlush sender (.ok ()), [])
  | .shutdown sender =>
      match w.health with
      | some err => (w.endShutdown sender (.error err), [])
      | none =>
          if w.needsFlush then ({ w with phase := .busy command }, [])
          else (w.endShutdown sender (.ok ()), [])
  -- the bytes are in the buffer already, where they cannot be taken out
  | .unlink _ => (w, [])

/-- The writer returns. -/
def resume (w : OutWorker) (result : Except String Unit) : Option (OutWorker × List BulkOutEvent) :=
  match w.phase with
  | .busy (.submit request) =>
      some (w.endWrite request result, [event request (submitResponse request.data result)])
  | .busy (.flush sender) => some ((w.flushed result).endFlush sender result, [])
  | .busy (.shutdown sender) => some ((w.flushed result).endShutdown sender result, [])
  | _ => none

/-- One step of the worker: what it becomes, and the events it sends. -/
def step (w : OutWorker) : OutMove → Option (OutWorker × List BulkOutEvent)
  | .command =>
      match w.phase, w.queue with
      | .receiving, command :: queue => some ({ w with queue := queue }.receive command)
      | _, _ => none
  | .io result => w.resume result
  | .idleFlush result =>
      if w.phase = .receiving ∧ w.needsFlush then
        some ((w.flushed result).markFlushed result, [])
      else none

/-! ## What a step can do -/

/-- What a move of the worker can come to, one case for each way through the loop. -/
inductive Turn (w : OutWorker) : OutWorker → List BulkOutEvent → Prop where
  | rejected (request : BulkOutRequest) (queue : List BulkOutCommand) (err : String)
      (hp : w.phase = .receiving) (hq : w.queue = .submit request :: queue)
      (hh : w.health = some err) :
      Turn w { w with queue := queue } [event request (submitResponse request.data (.error err))]
  | started (command : BulkOutCommand) (queue : List BulkOutCommand)
      (hp : w.phase = .receiving) (hq : w.queue = command :: queue) (hh : w.health = none) :
      Turn w { w with queue := queue, phase := .busy command } []
  /-- A flush with nothing to write. -/
  | answered (sender : Oneshot) (queue : List BulkOutCommand) (result : Except String Unit)
      (hp : w.phase = .receiving) (hq : w.queue = .flush sender :: queue)
      (hr : result = .ok () → w.health = none ∧ w.needsFlush = false) :
      Turn w ({ w with queue := queue }.endFlush sender result) []
  | shut (sender : Oneshot) (queue : List BulkOutCommand) (result : Except String Unit)
      (hp : w.phase = .receiving) (hq : w.queue = .shutdown sender :: queue)
      (hr : result = .ok () → w.health = none ∧ w.needsFlush = false) :
      Turn w ({ w with queue := queue }.endShutdown sender result) []
  | unlinked (seqnum : UInt32) (queue : List BulkOutCommand)
      (hp : w.phase = .receiving) (hq : w.queue = .unlink seqnum :: queue) :
      Turn w { w with queue := queue } []
  | written (request : BulkOutRequest) (result : Except String Unit)
      (hp : w.phase = .busy (.submit request)) :
      Turn w (w.endWrite request result) [event request (submitResponse request.data result)]
  | flushed (sender : Oneshot) (result : Except String Unit)
      (hp : w.phase = .busy (.flush sender)) :
      Turn w ((w.flushed result).endFlush sender result) []
  | flushedAndShut (sender : Oneshot) (result : Except String Unit)
      (hp : w.phase = .busy (.shutdown sender)) :
      Turn w ((w.flushed result).endShutdown sender result) []
  | idleFlushed (result : Except String Unit) (hp : w.phase = .receiving) :
      Turn w ((w.flushed result).markFlushed result) []

variable {w w' : OutWorker}

theorem receive_turn {command : BulkOutCommand} {queue : List BulkOutCommand}
    {events : List BulkOutEvent} (hp : w.phase = .receiving) (hq : w.queue = command :: queue)
    (h : { w with queue := queue }.receive command = (w', events)) : Turn w w' events := by
  unfold receive at h
  split at h
  · rename_i request
    split at h
    · rename_i err hh
      cases h
      exact .rejected request queue err hp hq hh
    · rename_i hh
      cases h
      exact .started _ queue hp hq hh
  · rename_i sender
    split at h
    · cases h
      exact .answered sender queue _ hp hq (fun h => nomatch h)
    · rename_i hh
      split at h
      · cases h
        exact .started _ queue hp hq hh
      · rename_i hn
        cases h
        exact .answered sender queue _ hp hq fun _ => ⟨hh, Bool.eq_false_iff.mpr hn⟩
  · rename_i sender
    split at h
    · cases h
      exact .shut sender queue _ hp hq (fun h => nomatch h)
    · rename_i hh
      split at h
      · cases h
        exact .started _ queue hp hq hh
      · rename_i hn
        cases h
        exact .shut sender queue _ hp hq fun _ => ⟨hh, Bool.eq_false_iff.mpr hn⟩
  · cases h
    exact .unlinked _ queue hp hq

theorem step_turn {move : OutMove} {events : List BulkOutEvent}
    (h : w.step move = some (w', events)) : Turn w w' events := by
  unfold step at h
  cases move with
  | command =>
    dsimp only at h
    split at h
    · rename_i command queue hp hq
      exact receive_turn hp hq (Option.some.inj h)
    · cases h
  | io result =>
    dsimp only [resume] at h
    split at h
    · cases h
      exact .written _ result ‹_›
    · cases h
      exact .flushed _ result ‹_›
    · cases h
      exact .flushedAndShut _ result ‹_›
    · cases h
  | idleFlush result =>
    dsimp only at h
    split at h
    · rename_i hw
      cases h
      exact .idleFlushed result hw.1
    · cases h

/-! ## The books

As for the bulk-IN worker: a move takes commands away, and an event stands for one of them.
-/

/-- The commands at the worker, the one at work first. -/
def commands (w : OutWorker) : List BulkOutCommand :=
  match w.phase with
  | .busy command => command :: w.queue
  | _ => w.queue

/-- The sequence numbers a worker may still answer. -/
def held (w : OutWorker) : List UInt32 := w.commands.filterMap BulkOutCommand.submitSeqnum?

/-- The event answers an URB that the worker has, under its own number and generation. -/
structure Answers (w : OutWorker) (event : BulkOutEvent) : Prop where
  held : ∃ request, .submit request ∈ w.commands ∧ event.urb = request.urb ∧
    event.generation = request.generation
  seqnum : event.response.submitSeqnum? = some event.seqnum

/-- `w` has become `w'`, and has sent the events. -/
structure Moves (w w' : OutWorker) (events : List BulkOutEvent) : Prop where
  accepted : w'.accepted = w.accepted
  commands : w'.commands.Sublist w.commands
  answers : ∀ event ∈ events, w.Answers event
  held : ∀ seqnum, (events.map (·.seqnum)).count seqnum + w'.held.count seqnum ≤
    w.held.count seqnum

/-- No event is sent. -/
theorem moves_of_sublist (ha : w'.accepted = w.accepted)
    (hc : w'.commands.Sublist w.commands) : Moves w w' [] := by
  refine ⟨ha, hc, fun _ h => (nomatch h), fun s => ?_⟩
  rw [List.map_nil, List.count_nil, Nat.zero_add]
  exact (hc.filterMap BulkOutCommand.submitSeqnum?).count_le s

theorem submitResponse_seqnum (data : List UInt8) (result : Except String Unit)
    (header : UsbIpHeaderBasic) :
    (submitResponse data result header).submitSeqnum? = some header.seqnum := by
  cases result <;> rfl

/-- The submit at the head is answered. -/
theorem moves_of_event {request : BulkOutRequest} {result : Except String Unit}
    (ha : w'.accepted = w.accepted) (hc : w.commands = .submit request :: w'.commands) :
    Moves w w' [event request (submitResponse request.data result)] := by
  refine ⟨ha, ?_, ?_, fun s => ?_⟩
  · rw [hc]
    exact List.sublist_cons_self _ _
  · intro e he
    rw [List.mem_singleton.mp he]
    exact ⟨⟨request, hc ▸ List.mem_cons_self, rfl, rfl⟩, submitResponse_seqnum _ _ _⟩
  · simp only [held, hc, event, BulkOutCommand.submitSeqnum?, List.filterMap_cons, List.map_cons,
      List.map_nil, List.count_cons, List.count_nil]
    omega

theorem commands_of_receiving (hp : w.phase = .receiving) : w.commands = w.queue := by
  simp only [commands, hp]

theorem commands_of_busy {command : BulkOutCommand} (hp : w.phase = .busy command) :
    w.commands = command :: w.queue := by
  simp only [commands, hp]

theorem queue_sublist (w : OutWorker) : w.queue.Sublist w.commands := by
  unfold commands
  split
  · exact List.sublist_cons_self _ _
  · exact List.Sublist.refl _

theorem commands_push (w : OutWorker) (command : BulkOutCommand) :
    (w.push command).commands = w.commands ++ [command] := by
  simp only [commands, push]
  cases w.phase <;> rfl

theorem held_push (w : OutWorker) (command : BulkOutCommand) :
    (w.push command).held = w.held ++ command.submitSeqnum?.toList := by
  rw [held, held, commands_push, List.filterMap_append]
  cases command <;> rfl

@[simp] theorem endFlush_accepted (sender : Oneshot) (result : Except String Unit) :
    (w.endFlush sender result).accepted = w.accepted := by
  cases result <;> rfl

@[simp] theorem endFlush_commands (sender : Oneshot) (result : Except String Unit) :
    (w.endFlush sender result).commands = w.queue := by
  cases result <;> rfl

@[simp] theorem flushed_accepted (result : Except String Unit) :
    (w.flushed result).accepted = w.accepted := by
  cases result <;> rfl

@[simp] theorem flushed_queue (result : Except String Unit) :
    (w.flushed result).queue = w.queue := by
  cases result <;> rfl

/-- **What a step of the worker does to its books.** -/
theorem Turn.moves {events : List BulkOutEvent} (h : Turn w w' events) : Moves w w' events := by
  cases h with
  | rejected request queue err hp hq hh =>
    refine moves_of_event rfl ?_
    rw [commands_of_receiving hp, commands_of_receiving (w := { w with queue := queue }) hp, hq]
  | started command queue hp hq hh =>
    refine moves_of_sublist rfl ?_
    rw [commands_of_receiving hp, hq]
    exact List.Sublist.refl _
  | answered sender queue result hp hq hr =>
    refine moves_of_sublist (endFlush_accepted _ _) ?_
    rw [endFlush_commands, commands_of_receiving hp, hq]
    exact List.sublist_cons_self _ _
  | shut sender queue result hp hq hr => exact moves_of_sublist rfl (List.nil_sublist _)
  | unlinked seqnum queue hp hq =>
    refine moves_of_sublist rfl ?_
    rw [commands_of_receiving (w := { w with queue := queue }) hp, commands_of_receiving hp, hq]
    exact List.sublist_cons_self _ _
  | written request result hp =>
    refine moves_of_event ?_ ?_
    · cases result <;> rfl
    · rw [commands_of_busy hp]
      cases result <;> rfl
  | flushed sender result hp =>
    refine moves_of_sublist ?_ ?_
    · rw [endFlush_accepted, flushed_accepted]
    · rw [endFlush_commands, flushed_queue, commands_of_busy hp]
      exact List.sublist_cons_self _ _
  | flushedAndShut sender result hp =>
    exact moves_of_sublist (flushed_accepted result) (List.nil_sublist _)
  | idleFlushed result hp =>
    refine moves_of_sublist ?_ ?_
    · cases result <;> rfl
    · cases result <;> exact List.Sublist.refl _

/-- A failure is not forgotten. -/
theorem Turn.healthy {events : List BulkOutEvent} (ht : Turn w w' events)
    (hh : w'.health = none) : w.health = none := by
  cases ht with
  | answered sender queue result hp hq hr =>
    cases result with
    | ok u => exact hh
    | error err => cases hh
  | written request result hp =>
    cases result with
    | ok u => exact hh
    | error err => cases hh
  | flushed sender result hp =>
    cases result with
    | ok u => exact hh
    | error err => cases hh
  | flushedAndShut sender result hp => cases result <;> exact hh
  | idleFlushed result hp =>
    cases result with
    | ok u => exact hh
    | error err => cases hh
  | _ => exact hh

/-- The writer is never at work after a failure. -/
theorem Turn.busy {events : List BulkOutEvent} (ht : Turn w w' events)
    (h : ∀ command, w.phase = .busy command → w.health = none) {command : BulkOutCommand}
    (hp' : w'.phase = .busy command) : w'.health = none := by
  cases ht with
  | rejected request queue err hp hq hh => exact h command hp'
  | started command queue hp hq hh => exact hh
  | answered sender queue result hp hq hr => cases result <;> cases hp'
  | shut sender queue result hp hq hr => cases hp'
  | unlinked seqnum queue hp hq => exact h command hp'
  | written request result hp => cases result <;> cases hp'
  | flushed sender result hp => cases result <;> cases hp'
  | flushedAndShut sender result hp => cases result <;> cases hp'
  | idleFlushed result hp =>
    cases result with
    | error err => exact absurd (hp.symm.trans hp') (by simp)
    | ok u => exact h command hp'

/-! ## A worker that has not been told to shut down -/

/-- The worker goes on: it has not stopped and is not about to. -/
structure Runs (w : OutWorker) : Prop where
  phase : w.phase ≠ .stopped
  commands : ∀ sender, .shutdown sender ∉ w.commands

theorem Runs.push (h : w.Runs) {command : BulkOutCommand}
    (hc : ∀ sender, command ≠ .shutdown sender) : (w.push command).Runs := by
  refine ⟨h.phase, fun sender hm => ?_⟩
  rw [commands_push] at hm
  rcases List.mem_append.mp hm with hm | hm
  · exact h.commands sender hm
  · exact hc sender (List.mem_singleton.mp hm).symm

/-- Only the end of a shutdown stops a worker. -/
theorem Runs.turn (h : w.Runs) {events : List BulkOutEvent} (ht : Turn w w' events) :
    w'.Runs := by
  refine ⟨fun hp' => ?_, fun sender hm => h.commands sender (ht.moves.commands.subset hm)⟩
  cases ht with
  | shut sender queue result hp hq hr =>
    refine h.commands sender ?_
    rw [commands_of_receiving hp, hq]
    exact List.mem_cons_self
  | flushedAndShut sender result hp =>
    refine h.commands sender ?_
    rw [commands_of_busy hp]
    exact List.mem_cons_self
  | answered sender queue result hp hq hr => cases result <;> cases hp'
  | written request result hp => cases result <;> cases hp'
  | flushed sender result hp => cases result <;> cases hp'
  | idleFlushed result hp => cases result <;> exact h.phase hp'
  | started command queue hp hq hh => cases hp'
  | rejected request queue err hp hq hh => exact h.phase hp'
  | unlinked seqnum queue hp hq => exact h.phase hp'

end OutWorker
end Lusbip
