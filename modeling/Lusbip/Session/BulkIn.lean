import Mathlib.Logic.Function.Basic
import Lusbip.Usb.Protocol

/-!
# The bulk-IN worker

`run_bulk_in_worker` owns one bulk-IN endpoint of the imported device. It takes commands
from a queue of 32, keeps the URBs that wait for data in `pending` and `requests`, and keeps
one physical read outstanding while any of them waits. Before it submits a read it has the
OUT endpoint of the same number flushed.

The worker is a function of the moves its surroundings make. A move is what ends an `await`:
the endpoint has been opened, a command has come, the barrier has got an answer, the read
has completed. What the worker then does up to its next `await` is one step.

A few fields are kept for the statements only. `Urb` numbers the URBs of a connection, since
sequence numbers may come again; `reads` and `received` are the history of the endpoint.
-/

namespace Lusbip

/-- A `CMD_SUBMIT`, as the handler dispatched it. -/
structure Urb where
  /-- Its place among the commands of the connection. -/
  index : Nat
  /-- The number of import commands before it. -/
  session : Nat
  ep : UInt8
  deriving DecidableEq, Repr

/-! ## Channels -/

/-- `mpsc::Sender::send` on a bounded channel: the future resolves with the command sent or
    with an error, and stays pending while the channel is full. -/
inductive Sent (α : Type) where
  | sent (receiver : α)
  | closed
  | full
  deriving DecidableEq, Repr

/-- The receiver is changed by what was sent. -/
def Sent.map {α β : Type} (f : α → β) : Sent α → Sent β
  | .sent receiver => .sent (f receiver)
  | .closed => .closed
  | .full => .full

/-- `let _ = sender.send(..).await`: nothing has changed if the channel is closed. -/
def Sent.ignoring {α : Type} (old : α) : Sent α → Option α
  | .sent receiver => some receiver
  | .closed => some old
  | .full => none

theorem Sent.ignoring_eq_some {α : Type} {s : Sent α} {old new : α}
    (h : s.ignoring old = some new) : s = .sent new ∨ new = old := by
  cases s with
  | sent x =>
    cases h
    exact Or.inl rfl
  | closed =>
    cases h
    exact Or.inr rfl
  | full => cases h

theorem Sent.map_eq_sent {α β : Type} {f : α → β} {s : Sent α} {b : β}
    (h : s.map f = .sent b) : ∃ x, s = .sent x ∧ f x = b := by
  cases s with
  | sent x => exact ⟨x, rfl, Sent.sent.inj h⟩
  | closed => cases h
  | full => cases h

theorem Sent.map_eq_closed {α β : Type} {f : α → β} {s : Sent α} (h : s.map f = .closed) :
    s = .closed := by
  cases s with
  | closed => rfl
  | sent x => cases h
  | full => cases h

/-- A `oneshot` channel for the answer to a flush. -/
structure Oneshot where
  id : Nat
  /-- The commands dispatched before the flush was sent. -/
  sentAt : Nat
  deriving DecidableEq, Repr

/-! ## Pending requests -/

/-- The numbers of the reads that were asked for and not answered, the oldest one first. -/
structure PendingBulkIn where
  seqnums : List UInt32 := []
  deriving DecidableEq, Repr

namespace PendingBulkIn

/-- A number comes last. -/
def push (p : PendingBulkIn) (seqnum : UInt32) : PendingBulkIn := ⟨p.seqnums ++ [seqnum]⟩

/-- The number that is answered next. -/
def next (p : PendingBulkIn) : Option UInt32 := p.seqnums.head?

/-- The first entry with the sequence number is removed. -/
def unlink (p : PendingBulkIn) (seqnum : UInt32) : PendingBulkIn := ⟨p.seqnums.erase seqnum⟩

/-- What `unlink` returns: whether there was an entry. -/
def contains (p : PendingBulkIn) (seqnum : UInt32) : Bool := seqnum ∈ p.seqnums

end PendingBulkIn

/-- After the barrier a read is submitted only if its number is still the oldest one pending. -/
def shouldSubmitBulkInAfterBarrier (pending : PendingBulkIn) (seqnum : UInt32) : Bool :=
  pending.next = some seqnum

/-- An URB for the worker of a bulk IN endpoint. -/
structure BulkInRequest where
  header : UsbIpHeaderBasic
  transferBufferLength : UInt32
  urb : Urb
  deriving DecidableEq, Repr

/-- What the handler asks of an IN worker. -/
inductive BulkInCommand where
  | submit (request : BulkInRequest)
  | unlink (seqnum : UInt32)
  deriving DecidableEq, Repr

/-- What an IN worker tells the handler: the reply to an URB. -/
structure BulkInEvent where
  seqnum : UInt32
  response : UsbIpResponse
  urb : Urb
  /-- The endpoint whose worker sent the event. -/
  endpoint : UInt8
  deriving DecidableEq, Repr

/-- The header of the reply to a read. -/
def bulkInResponseHeader (header : UsbIpHeaderBasic) : UsbIpHeaderBasic :=
  replyHeader header usbipRetSubmit

/-- The length of a physical read: the requested length, at least one byte, in whole
    packets. -/
def transferLen (transferBufferLength : UInt32) (maxPacketSize : Nat) : Outcome Nat := do
  let requestedLen := max transferBufferLength.toNat 1
  let packets ← divUsize (requestedLen + maxPacketSize - 1) maxPacketSize
  .ok (packets * maxPacketSize)

/-- The buffer of a physical read, `Buffer::new(transfer_len)`. -/
def transferBuffer (transferBufferLength : UInt32) (maxPacketSize : Nat) : Outcome Nat := do
  let transferLen ← transferLen transferBufferLength maxPacketSize
  Buffer.new transferLen

/-- The length a worker asks for. -/
theorem transferLen_eq_ok {len : UInt32} {m n : Nat} :
    transferLen len m = .ok n ↔ m ≠ 0 ∧ n = wholePackets (max len.toNat 1) m := by
  unfold transferLen divUsize wholePackets
  dsimp only
  split
  · rename_i hm
    exact iff_of_false (fun h => nomatch h) fun h => h.1 hm
  · rename_i hm
    constructor
    · intro h
      cases h
      exact ⟨hm, rfl⟩
    · intro h
      rw [h.2]
      rfl

/-- **A worker reads where it can**: its task gets a buffer, or panics. -/
theorem transferBuffer_eq_ok {len : UInt32} {m n : Nat} :
    transferBuffer len m = .ok n ↔
      Readable len m ∧ n = wholePackets (max len.toNat 1) m := by
  rw [transferBuffer, Outcome.bind_eq_ok]
  simp only [transferLen_eq_ok, Buffer.new_eq_ok]
  constructor
  · rintro ⟨k, ⟨hm, rfl⟩, hlt, rfl⟩
    exact ⟨⟨hm, hlt⟩, rfl⟩
  · rintro ⟨⟨hm, hlt⟩, rfl⟩
    exact ⟨_, ⟨hm, rfl⟩, hlt, rfl⟩

/-! ## The worker -/

/-- The `await` the worker is in. -/
inductive InPhase where
  | opening
  /-- Waiting for the barrier before the read for `seqnum`, or for a command; `flush` is the
      reply channel, once the flush command is on its way. -/
  | barrier (seqnum transferBufferLength : UInt32) (flush : Option Oneshot)
  /-- Waiting for the read to complete, or for a command. -/
  | reading
  /-- Waiting for a command. -/
  | idle
  | stopped
  deriving DecidableEq, Repr

/-- An IN worker: its commands, the numbers it owes an answer, and the read that is in flight. -/
structure InWorker where
  address : UInt8
  /-- The OUT endpoint that is flushed before a read. -/
  outWorker : Option UInt8
  queue : List BulkInCommand := []
  phase : InPhase := .opening
  maxPacketSize : Nat := 0
  pending : PendingBulkIn := {}
  requests : UInt32 → Option BulkInRequest := fun _ => none
  readPending : Bool := false
  activeSeqnum : Option UInt32 := none
  /-- The physical reads submitted to the endpoint and not completed, by their lengths. -/
  outstanding : List Nat := []
  /-- `cancel_all` has been called for the outstanding reads. -/
  cancelling : Bool := false
  /-- The URBs reads were submitted for. -/
  reads : List Urb := []
  /-- The buffers of the reads that completed while a request was pending. -/
  received : List (List UInt8) := []

/-- What an IN worker does next, with what the device and the OUT worker answer. -/
inductive InMove where
  /-- The endpoint is opened, with its packet size, or cannot be. -/
  | opened (maxPacketSize : Option Nat)
  | command
  /-- The flush command of the barrier has been sent. -/
  | flushSent (reply : Oneshot)
  | barrierResult (result : Except String Unit)
  | completion (result : Except TransferError (List UInt8))

namespace InWorker

/-- A command goes to the end of the queue. -/
def push (w : InWorker) (command : BulkInCommand) : InWorker :=
  { w with queue := w.queue ++ [command] }

/-- The handler's end of the command channel, of capacity 32. -/
def send (w : InWorker) (command : BulkInCommand) : Sent InWorker :=
  if w.phase = .stopped then .closed
  else if w.queue.length < 32 then .sent (w.push command)
  else .full

/-- The task returns; what is queued or pending goes with it. -/
def stop (w : InWorker) : InWorker :=
  { w with phase := .stopped, queue := [], pending := {}, requests := fun _ => none }

/-- From the head of the loop to its next `await`. Pending entries without a request are
    dropped on the way. -/
def settle (w : InWorker) : InWorker :=
  if w.readPending then { w with phase := .reading }
  else
    let seqnums := w.pending.seqnums.dropWhile fun seqnum => (w.requests seqnum).isNone
    match seqnums with
    | [] => { w with pending := ⟨[]⟩, phase := .idle }
    | seqnum :: rest =>
        { w with
          pending := ⟨seqnum :: rest⟩
          phase := .barrier seqnum
            (((w.requests seqnum).map (·.transferBufferLength)).getD 0) none }

/-- A command taken in front of a read. -/
def accept (w : InWorker) : BulkInCommand → InWorker
  | .submit request =>
      let seqnum := request.header.seqnum
      { w with
        requests := Function.update w.requests seqnum (some request)
        pending := w.pending.push seqnum }
  | .unlink seqnum =>
      { w with
        pending := w.pending.unlink seqnum
        requests := Function.update w.requests seqnum none }

/-- A command taken while a read is outstanding: the read is cancelled with its URB. -/
def acceptReading (w : InWorker) : BulkInCommand → InWorker
  | .submit request => w.accept (.submit request)
  | .unlink seqnum =>
      { w.accept (.unlink seqnum) with
        cancelling := w.cancelling || w.activeSeqnum = some seqnum }

/-- A command taken with nothing to do: there is nothing to unlink. -/
def acceptIdle (w : InWorker) : BulkInCommand → InWorker
  | .submit request => w.accept (.submit request)
  | .unlink _ => w

/-- The next command of the queue, taken by the branch that waits for one. -/
def receive (w : InWorker) : Option InWorker :=
  match w.queue with
  | [] => none
  | command :: queue =>
      let w := { w with queue := queue }
      match w.phase with
      | .barrier _ _ _ => some (w.accept command).settle
      | .reading => some (w.acceptReading command).settle
      | .idle => some (w.acceptIdle command).settle
      | _ => none

/-- Everything the queue holds, taken by `try_recv`. -/
def drain (w : InWorker) : InWorker :=
  { w.queue.foldl accept w with queue := [] }

/-- The answer to a request that the worker takes off its books. -/
def answer (w : InWorker) (seqnum : UInt32) (request : BulkInRequest)
    (response : UsbIpHeaderBasic → UsbIpResponse) : BulkInEvent where
  seqnum := seqnum
  response := response (bulkInResponseHeader request.header)
  urb := request.urb
  endpoint := w.address

/-- The URB is taken off the books. -/
def forget (w : InWorker) (seqnum : UInt32) : InWorker :=
  { w with
    pending := w.pending.unlink seqnum
    requests := Function.update w.requests seqnum none }

/-- The URB at the head has failed at the barrier. -/
def failBarrier (w : InWorker) (seqnum : UInt32) : InWorker × List BulkInEvent :=
  match w.requests seqnum with
  | some request =>
      ((w.forget seqnum).settle,
        [w.answer seqnum request fun header => .usbipRetSubmitFail header 0])
  | none => ({ w with pending := w.pending.unlink seqnum }.settle, [])

/-- A read is submitted for the URB at the head. Where there is no buffer for it the task
    panics, and what it had on its books is gone with it. -/
def submitRead (w : InWorker) (seqnum transferBufferLength : UInt32) : InWorker :=
  match transferBuffer transferBufferLength w.maxPacketSize with
  | .error _ => w.stop
  | .ok len =>
      { w with
        outstanding := w.outstanding ++ [len]
        activeSeqnum := some seqnum
        readPending := true
        cancelling := false
        phase := .reading
        reads := w.reads ++ ((w.requests seqnum).map (·.urb)).toList }

theorem submitRead_of_readable {w : InWorker} {len : UInt32} (h : Readable len w.maxPacketSize)
    (seqnum : UInt32) : w.submitRead seqnum len =
      { w with
        outstanding := w.outstanding ++ [wholePackets (max len.toNat 1) w.maxPacketSize]
        activeSeqnum := some seqnum
        readPending := true
        cancelling := false
        phase := .reading
        reads := w.reads ++ ((w.requests seqnum).map (·.urb)).toList } := by
  unfold submitRead
  rw [transferBuffer_eq_ok.mpr ⟨h, rfl⟩]

theorem submitRead_of_not_readable {w : InWorker} {len seqnum : UInt32}
    (h : ¬ Readable len w.maxPacketSize) : w.submitRead seqnum len = w.stop := by
  unfold submitRead
  split
  · rfl
  · rename_i n hn
    exact absurd (transferBuffer_eq_ok.mp hn).1 h

/-- The barrier is through: the queue is drained, and the read submitted if its URB still
    stands at the head. -/
def afterBarrier (w : InWorker) (seqnum transferBufferLength : UInt32)
    (result : Except String Unit) : InWorker × List BulkInEvent :=
  let w := w.drain
  if shouldSubmitBulkInAfterBarrier w.pending seqnum then
    match result with
    | .error _ => w.failBarrier seqnum
    | .ok () => (w.submitRead seqnum transferBufferLength, [])
  else (w.settle, [])

/-- The response to the URB a read was submitted for. -/
def completionResponse (result : Except TransferError (List UInt8)) (header : UsbIpHeaderBasic) :
    UsbIpResponse :=
  match result with
  | .ok buffer => .usbipRetSubmitSuccess header 0 (UInt32.ofNat buffer.length) buffer []
  | .error _ => .usbipRetSubmitFail header 0

/-- The endpoint's side of a completion. -/
def endRead (w : InWorker) (result : Except TransferError (List UInt8)) : InWorker :=
  { w with
    outstanding := w.outstanding.tail
    readPending := false
    activeSeqnum := none
    received := w.received ++
      match result with
      | .ok buffer => if w.pending.seqnums = [] then [] else [buffer]
      | .error _ => [] }

/-- A read has completed. Its buffer is for the URB it was submitted for, if that is still
    pending. -/
def complete (w : InWorker) (result : Except TransferError (List UInt8)) :
    InWorker × List BulkInEvent :=
  match w.activeSeqnum with
  | none => ((w.endRead result).settle, [])
  | some seqnum =>
      let w' := ((w.endRead result).forget seqnum).settle
      match w.pending.contains seqnum, w.requests seqnum with
      | true, some request => (w', [w.answer seqnum request (completionResponse result)])
      | _, _ => (w', [])

/-- One step of the worker: what it becomes, and the events it sends. -/
def step (w : InWorker) : InMove → Option (InWorker × List BulkInEvent)
  | .opened maxPacketSize =>
      if w.phase = .opening then
        match maxPacketSize with
        | some size => some ({ w with maxPacketSize := size }.settle, [])
        | none => some (w.stop, [])
      else none
  | .command => w.receive.map fun w => (w, [])
  | .flushSent reply =>
      match w.phase with
      | .barrier seqnum len none => some ({ w with phase := .barrier seqnum len (some reply) }, [])
      | _ => none
  | .barrierResult result =>
      match w.phase with
      | .barrier seqnum len _ => some (w.afterBarrier seqnum len result)
      | _ => none
  | .completion result => if w.phase = .reading then some (w.complete result) else none

/-! ## What a step can do -/

/-- What becomes of the command that is taken. -/
inductive Takes (w : InWorker) (command : BulkInCommand) (queue : List BulkInCommand) :
    InWorker → Prop where
  | accepted : Takes w command queue { w.accept command with queue := queue }
  /-- A read is cancelled with its URB. -/
  | cancelled (seqnum : UInt32) (hc : command = .unlink seqnum) (hp : w.phase = .reading) :
      Takes w command queue
        { w.accept (.unlink seqnum) with
          queue := queue
          cancelling := w.cancelling || w.activeSeqnum = some seqnum }
  /-- There is nothing to unlink. -/
  | skipped (seqnum : UInt32) (hc : command = .unlink seqnum) (hp : w.phase = .idle) :
      Takes w command queue { w with queue := queue }

/-- What a move of the worker can come to, one case for each way through the loop. -/
inductive Turn (w : InWorker) : InMove → InWorker → List BulkInEvent → Prop where
  | opened (size : Nat) (hp : w.phase = .opening) :
      Turn w (.opened (some size)) { w with maxPacketSize := size }.settle []
  | unopened (hp : w.phase = .opening) : Turn w (.opened none) w.stop []
  | received (v : InWorker) (hv : w.receive = some v) : Turn w .command v []
  | flushing (reply : Oneshot) (seqnum len : UInt32) (hp : w.phase = .barrier seqnum len none) :
      Turn w (.flushSent reply) { w with phase := .barrier seqnum len (some reply) } []
  | passed (result : Except String Unit) (seqnum len : UInt32) (flush : Option Oneshot)
      (hp : w.phase = .barrier seqnum len flush) :
      Turn w (.barrierResult result) (w.afterBarrier seqnum len result).1
        (w.afterBarrier seqnum len result).2
  | completed (result : Except TransferError (List UInt8)) (hp : w.phase = .reading) :
      Turn w (.completion result) (w.complete result).1 (w.complete result).2

variable {w w' : InWorker} {move : InMove} {events : List BulkInEvent}

theorem with_queue {queue : List BulkInCommand} (hq : w.queue = queue) :
    { w with queue := queue } = w := by
  rw [← hq]

/-- **A command that is taken is accepted**, or is an unlink that does more or less than that. -/
theorem receive_takes (h : w.receive = some w') : ∃ command queue v,
    w.queue = command :: queue ∧ Takes w command queue v ∧ w' = v.settle := by
  unfold receive at h
  split at h
  · cases h
  · rename_i command queue hq
    dsimp only at h
    have haccepted : { w with queue := queue }.accept command =
        { w.accept command with queue := queue } := by cases command <;> rfl
    split at h
    · cases h
      exact ⟨command, queue, _, hq, haccepted ▸ .accepted, rfl⟩
    · rename_i hp
      cases h
      cases command with
      | submit request => exact ⟨_, queue, _, hq, .accepted, rfl⟩
      | unlink seqnum => exact ⟨_, queue, _, hq, .cancelled seqnum rfl hp, rfl⟩
    · rename_i hp
      cases h
      cases command with
      | submit request => exact ⟨_, queue, _, hq, .accepted, rfl⟩
      | unlink seqnum => exact ⟨_, queue, _, hq, .skipped seqnum rfl hp, rfl⟩
    · cases h

/-- No command is taken before the endpoint is open, and none after the end. -/
theorem receive_eq_none (hp : w.phase = .opening ∨ w.phase = .stopped) : w.receive = none := by
  unfold receive
  cases w.queue with
  | nil => rfl
  | cons command queue => rcases hp with hp | hp <;> simp only [hp]

/-- **A step is one of these.** -/
theorem step_turn (h : w.step move = some (w', events)) : Turn w move w' events := by
  unfold step at h
  cases move with
  | opened maxPacketSize =>
    dsimp only at h
    split at h
    · rename_i hp
      cases maxPacketSize with
      | some size =>
        cases h
        exact .opened size hp
      | none =>
        cases h
        exact .unopened hp
    · cases h
  | command =>
    obtain ⟨v, hv, hpair⟩ := Option.map_eq_some_iff.mp h
    cases hpair
    exact .received _ hv
  | flushSent reply =>
    dsimp only at h
    split at h
    · rename_i seqnum len hp
      cases h
      exact .flushing reply seqnum len hp
    · cases h
  | barrierResult result =>
    dsimp only at h
    split at h
    · rename_i seqnum len flush hp
      have hturn := Turn.passed result seqnum len flush hp
      rwa [Option.some.inj h] at hturn
    · cases h
  | completion result =>
    dsimp only at h
    split at h
    · rename_i hp
      have hturn := Turn.completed result hp
      rwa [Option.some.inj h] at hturn
    · cases h

/-- A worker that has ended does not move any more. -/
theorem step_of_stopped (hp : w.phase = .stopped) (move : InMove) : w.step move = none := by
  cases move with
  | command =>
    rw [step, receive_eq_none (Or.inr hp)]
    rfl
  | _ => simp only [step, hp, reduceCtorEq, if_false]

end InWorker
end Lusbip
