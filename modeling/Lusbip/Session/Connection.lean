import Mathlib.Data.Finset.Basic
import Lusbip.Session.BulkOut

/-!
# A connection: the handler and its workers

`handler` reads the commands of one client. It hands the URBs of the bulk endpoints of the
imported device to their workers, serves the others itself, and writes the replies: its own
at once, those of the workers when it takes their events off the two event queues. Between
two iterations of its `select!` the books on the URBs at the workers are `bulkInSeqnums`,
`bulkOutSeqnums`, `cancelledBulkInSeqnums` and `pendingBulkOut`.

A state is all of that, a step is one party going from one `await` to the next. The handler
does nothing else while it waits for a flush or for the workers to shut down; where it waits
for room in a command queue, the step is taken once there is room. What the outside decides
comes with the action: the command, how the import ends, what the device answers.

`clock`, `session` and `controls` are kept for the statements. So are the annotations of
`Reply`: the session a reply is written in, the URB that it answers, and who had the URB.
-/

namespace Lusbip

/-- A `USBIP_CMD_SUBMIT` with its payload. The fields that the handler does not look at are left
    out. -/
structure SubmitCommand where
  header : UsbIpHeaderBasic
  transferBufferLength : UInt32
  setup : List UInt8
  data : List UInt8
  deriving DecidableEq, Repr

/-- A control transfer waits until the bulk OUT data before it has gone out. -/
def requiresBulkOutControlBarrier (realEp : UInt8) : Bool := realEp = 0 ∨ realEp = 0x80

/-- The event of an URB that was unlinked is dropped. -/
def shouldWriteBulkInResponse (cancelled : Finset UInt32) (seqnum : UInt32) : Bool :=
  seqnum ∉ cancelled

/-- Who had the URB that is answered. -/
inductive Source where
  | handler
  | bulkIn (endpoint : UInt8)
  | bulkOut
  deriving DecidableEq, Repr

/-- What the handler has written, with the session and the URB that it is about. -/
inductive Reply where
  | imported (session : Nat) (response : UsbIpResponse)
  | submit (session : Nat) (urb : Urb) (source : Source) (response : UsbIpResponse)
  | unlink (session : Nat) (unlinkSeqnum : UInt32) (response : UsbIpResponse)
  deriving DecidableEq

/-- The `await` the handler is in. -/
inductive HandlerPhase where
  | select
  /-- A URB that no worker took: the OUT workers still to be flushed before it, and the flush
      that is under way. -/
  | serving (command : SubmitCommand) (urb : Urb) (remaining : List UInt8)
      (awaiting : Option (UInt8 × Oneshot))
  /-- An import: the OUT workers still to be shut down. -/
  | importing (remaining : List UInt8)
  | panicked

/-- How `handle_op_req_import` ends. -/
inductive ImportOutcome where
  /-- The bus id is not UTF-8: no reply. -/
  | rejected
  | refused
  /-- `opens` tells which bulk-OUT endpoints of the device can be opened. -/
  | succeeded (device : UsbDevice) (opens : UInt8 → Bool)

/-- Whether the import is replied to. -/
def ImportOutcome.replied : ImportOutcome → Bool
  | .rejected => false
  | _ => true

/-- The state of the handler of one connection: the device it has imported, its workers, the events
    they have sent, and what is on the wire. -/
structure Connection where
  device : Option UsbDevice := none
  ins : UInt8 → Option InWorker := fun _ => none
  outs : UInt8 → Option OutWorker := fun _ => none
  /-- The keys of the map of OUT workers. -/
  outEndpoints : List UInt8 := []
  inEvents : List BulkInEvent := []
  outEvents : List BulkOutEvent := []
  bulkInSeqnums : UInt32 → Option UInt8 := fun _ => none
  bulkOutSeqnums : UInt32 → Option UInt8 := fun _ => none
  cancelledBulkInSeqnums : Finset UInt32 := ∅
  pendingBulkOut : Finset UInt32 := ∅
  bulkOutGeneration : UInt64 := 0
  phase : HandlerPhase := .select
  nextReply : Nat := 0
  /-- The commands dispatched. -/
  clock : Nat := 0
  /-- The import commands among them that are through. -/
  session : Nat := 0
  /-- The URBs of endpoint 0 executed by the handler. -/
  controls : List Urb := []
  wire : List Reply := []

/-- What happens next: a command is read, the handler goes on with the one that it serves, a worker
    makes a move, or an event is taken up. -/
inductive Action where
  | submit (command : SubmitCommand)
  | unlink (header : UsbIpHeaderBasic) (unlinkSeqnum : UInt32)
  | importRequest
  | shutdownSent (endpoint : UInt8)
  | importDone (outcome : ImportOutcome)
  | deliverIn
  | deliverOut
  /-- The handler sends a flush to an OUT worker, before a URB of endpoint 0. -/
  | controlFlush (endpoint : UInt8)
  | controlResult
  /-- The handler executes the URB that no worker took. -/
  | execute (host : Host)
  /-- A bulk-IN worker sends the flush of its barrier. -/
  | inFlush (endpoint : UInt8)
  /-- Its barrier is through. -/
  | inBarrier (endpoint : UInt8)
  | inOpened (endpoint : UInt8) (maxPacketSize : Option Nat)
  | inCommand (endpoint : UInt8)
  | inCompletion (endpoint : UInt8) (result : Except TransferError (List UInt8))
  | outMove (endpoint : UInt8) (move : OutMove)

/-- What a waiting barrier gets from an OUT worker: the answer to its flush, or an error if
    the worker has stopped before it took the flush or before it answered. -/
def OutWorker.flushResult (w : OutWorker) : Option Oneshot → Option (Except String Unit)
  | none =>
      if w.phase = .stopped then some (.error "bulk OUT worker stopped before read barrier")
      else none
  | some sender =>
      match w.answers.lookup sender with
      | some result => some result
      | none =>
          if w.phase = .stopped then some (.error "bulk OUT worker dropped read barrier")
          else none

namespace Connection

/-! ## Starting the workers -/

/-- The addresses of the bulk endpoints of one direction. -/
def bulkEndpoints (device : UsbDevice) (direction : Direction) : List UInt8 :=
  device.interfaces.flatMap fun interface =>
    (interface.endpoints.filter fun endpoint =>
      endpoint.attributes = EndpointAttributes.bulk.toU8 ∧ endpoint.direction = direction).map
        (·.address)

/-- The bulk OUT endpoints that can be opened get a worker each. -/
def startBulkOutWorkers (device : UsbDevice) (opens : UInt8 → Bool) : List UInt8 :=
  (bulkEndpoints device .out).filter opens

/-- Every bulk IN endpoint gets a worker, which opens it by itself. It knows the OUT worker of the
    same number, if there is one. -/
def startBulkInWorkers (device : UsbDevice) (outEndpoints : List UInt8) (endpoint : UInt8) :
    Option InWorker :=
  if endpoint ∈ bulkEndpoints device .in then
    some
      { address := endpoint
        outWorker := if endpoint &&& 0x7f ∈ outEndpoints then some (endpoint &&& 0x7f) else none }
  else none

theorem startBulkInWorkers_eq_some {device : UsbDevice} {outEndpoints : List UInt8}
    {endpoint : UInt8} {w : InWorker} :
    startBulkInWorkers device outEndpoints endpoint = some w ↔
      endpoint ∈ bulkEndpoints device .in ∧
        ({ address := endpoint
           outWorker :=
            if endpoint &&& 0x7f ∈ outEndpoints then some (endpoint &&& 0x7f) else none }
          : InWorker) = w := by
  unfold startBulkInWorkers
  exact Option.ite_none_right_eq_some.trans (and_congr_right' Option.some_inj)

/-- The bulk-OUT workers after an import. -/
theorem startedOut_eq_some {outEndpoints : List UInt8} {endpoint : UInt8} {w : OutWorker} :
    (if endpoint ∈ outEndpoints then some ({ address := endpoint } : OutWorker) else none) =
        some w ↔ endpoint ∈ outEndpoints ∧ ({ address := endpoint } : OutWorker) = w :=
  Option.ite_none_right_eq_some.trans (and_congr_right' Option.some_inj)

/-! ## Messages -/

/-- A reply is written. -/
def write (c : Connection) (reply : Reply) : Connection := { c with wire := c.wire ++ [reply] }

/-- A command is sent to the IN worker of an endpoint, if it still listens. -/
def sendIn (c : Connection) (endpoint : UInt8) (command : BulkInCommand) : Sent Connection :=
  match c.ins endpoint with
  | none => .closed
  | some w =>
      (w.send command).map fun w => { c with ins := Function.update c.ins endpoint (some w) }

/-- A command is sent to the OUT worker of an endpoint, if it still listens and has room. -/
def sendOut (c : Connection) (endpoint : UInt8) (command : BulkOutCommand) : Sent Connection :=
  match c.outs endpoint with
  | none => .closed
  | some w =>
      (w.send command).map fun w => { c with outs := Function.update c.outs endpoint (some w) }

/-! ## The handler -/

/-- The URB is taken by a bulk-IN worker. -/
def submitIn (c : Connection) (command : SubmitCommand) (urb : Urb) : Sent Connection :=
  let seqnum := command.header.seqnum
  if command.header.direction = 1 then
    let request := ⟨command.header, command.transferBufferLength, urb⟩
    (c.sendIn urb.ep (.submit request)).map fun c =>
      { c with bulkInSeqnums := Function.update c.bulkInSeqnums seqnum (some urb.ep) }
  else .closed

/-- The URB is taken by a bulk-OUT worker. -/
def submitOut (c : Connection) (device : UsbDevice) (command : SubmitCommand) (urb : Urb) :
    Sent Connection :=
  let seqnum := command.header.seqnum
  match device.findEp urb.ep with
  | none => .closed
  | some (endpoint, _) =>
      if usesBulkOutWorker endpoint.attributes command.header.direction then
        let request := ⟨command.header, command.data, c.bulkOutGeneration, urb⟩
        (c.sendOut urb.ep (.submit request)).map fun c =>
          { c with
            pendingBulkOut := insert seqnum c.pendingBulkOut
            bulkOutSeqnums := Function.update c.bulkOutSeqnums seqnum (some urb.ep) }
      else .closed

/-- The URB that a `CMD_SUBMIT` becomes when it is dispatched. -/
def urbOf (c : Connection) (command : SubmitCommand) : Urb :=
  ⟨c.clock, c.session, realEp command.header⟩

/-- One more command has been taken up. The count tells URBs of one number from each other. -/
def dispatched (c : Connection) : Connection := { c with clock := c.clock + 1 }

/-- No worker takes the URB; before one of endpoint 0, every OUT worker is flushed. -/
def serve (c : Connection) (command : SubmitCommand) (urb : Urb) : Connection :=
  let remaining := if requiresBulkOutControlBarrier urb.ep then c.outEndpoints else []
  { c with phase := .serving command urb remaining none }

/-- The `USBIP_CMD_SUBMIT` arm, up to the barrier. -/
def submit (c : Connection) (command : SubmitCommand) : Option Connection :=
  match c.device with
  | none => some { c with clock := c.clock + 1 }
  | some device =>
      let urb := c.urbOf command
      let c := c.dispatched
      match c.submitIn command urb with
      | .sent c => some c
      | .full => none
      | .closed =>
          match c.submitOut device command urb with
          | .sent c => some c
          | .full => none
          | .closed => some (c.serve command urb)

/-- The `USBIP_CMD_UNLINK` arm. -/
def unlink (c : Connection) (header : UsbIpHeaderBasic) (unlinkSeqnum : UInt32) :
    Option Connection :=
  let c := { c with clock := c.clock + 1 }
  let reply (c : Connection) (wasPending : Bool) : Connection :=
    c.write (.unlink c.session unlinkSeqnum (handleUsbipCmdUnlink header wasPending))
  match c.bulkInSeqnums unlinkSeqnum with
  | some endpoint =>
      let c := { c with
        bulkInSeqnums := Function.update c.bulkInSeqnums unlinkSeqnum none
        cancelledBulkInSeqnums := insert unlinkSeqnum c.cancelledBulkInSeqnums }
      ((c.sendIn endpoint (.unlink unlinkSeqnum)).ignoring c).map fun c => reply c true
  | none =>
      match c.bulkOutSeqnums unlinkSeqnum with
      | some endpoint =>
          let wasPending := unlinkSeqnum ∈ c.pendingBulkOut
          let c := { c with
            bulkOutSeqnums := Function.update c.bulkOutSeqnums unlinkSeqnum none
            pendingBulkOut := c.pendingBulkOut.erase unlinkSeqnum }
          ((c.sendOut endpoint (.unlink unlinkSeqnum)).ignoring c).map fun c => reply c wasPending
      | none => some (reply c false)

/-- The `OP_REQ_IMPORT` arm begins: the IN workers are aborted. -/
def importRequest (c : Connection) : Connection :=
  { c with clock := c.clock + 1, ins := fun _ => none, phase := .importing c.outEndpoints }

/-- An OUT worker is told to shut down, unless it has stopped already. -/
def shutdownSent (c : Connection) (remaining : List UInt8) (endpoint : UInt8) :
    Option Connection :=
  let sender := ⟨c.nextReply, c.clock⟩
  let c := { c with
    phase := .importing (remaining.filter (· ≠ endpoint))
    nextReply := c.nextReply + 1 }
  (c.sendOut endpoint (.shutdown sender)).ignoring c

/-- Every OUT worker has shut down, or is aborted when its time is over. The books are
    cleared, and the workers of the new device are started after the reply. -/
def importDone (c : Connection) (outcome : ImportOutcome) : Connection :=
  let c := { c with
    device := none
    ins := fun _ => none
    outs := fun _ => none
    outEndpoints := []
    bulkInSeqnums := fun _ => none
    bulkOutSeqnums := fun _ => none
    cancelledBulkInSeqnums := ∅
    pendingBulkOut := ∅
    bulkOutGeneration := c.bulkOutGeneration + 1
    session := c.session + 1
    phase := .select }
  match outcome with
  | .rejected => c
  | .refused => c.write (.imported c.session .opRepImportFail)
  | .succeeded device opens =>
      let outEndpoints := startBulkOutWorkers device opens
      { c.write (.imported c.session (.opRepImportSuccess device)) with
        device := some device
        outs := fun ep => if ep ∈ outEndpoints then some { address := ep } else none
        outEndpoints := outEndpoints
        ins := startBulkInWorkers device outEndpoints }

/-- A bulk-IN event is taken off its queue. -/
def deliverIn (c : Connection) (event : BulkInEvent) (rest : List BulkInEvent) : Connection :=
  let shouldWrite := shouldWriteBulkInResponse c.cancelledBulkInSeqnums event.seqnum
  let c := { c with
    inEvents := rest
    bulkInSeqnums := Function.update c.bulkInSeqnums event.seqnum none
    cancelledBulkInSeqnums := c.cancelledBulkInSeqnums.erase event.seqnum }
  if shouldWrite then
    c.write (.submit c.session event.urb (.bulkIn event.endpoint) event.response)
  else c

/-- A bulk-OUT event is taken off its queue. -/
def deliverOut (c : Connection) (event : BulkOutEvent) (rest : List BulkOutEvent) :
    Connection :=
  let c := { c with outEvents := rest }
  if shouldWriteBulkOutResponse c.bulkOutGeneration event.generation then
    let wasPending := event.seqnum ∈ c.pendingBulkOut
    let c := { c with
      bulkOutSeqnums := Function.update c.bulkOutSeqnums event.seqnum none
      pendingBulkOut := c.pendingBulkOut.erase event.seqnum }
    if wasPending then c.write (.submit c.session event.urb .bulkOut event.response) else c
  else c

/-- One OUT worker of the barrier before a URB of endpoint 0 is through with its flush. -/
def controlBarrier (c : Connection) (command : SubmitCommand) (urb : Urb)
    (remaining : List UInt8) (endpoint : UInt8) : Except String Unit → Connection
  | .ok () =>
      { c with phase := .serving command urb (remaining.filter (· ≠ endpoint)) none }
  | .error _ =>
      { c with phase := .select }.write (.submit c.session urb .handler
        (.usbipRetSubmitFail (replyHeader command.header usbipRetSubmit) 0))

/-- A flush is sent to an OUT worker. -/
def controlFlush (c : Connection) (command : SubmitCommand) (urb : Urb)
    (remaining : List UInt8) (endpoint : UInt8) : Option Connection :=
  let sender := ⟨c.nextReply, c.clock⟩
  match c.sendOut endpoint (.flush sender) with
  | .sent c =>
      some { c with
        phase := .serving command urb remaining (some (endpoint, sender))
        nextReply := c.nextReply + 1 }
  | .closed =>
      some (c.controlBarrier command urb remaining endpoint
        (.error "bulk OUT worker stopped before read barrier"))
  | .full => none

/-- The URB is executed. -/
def execute (prof : Profile) (c : Connection) (command : SubmitCommand) (urb : Urb)
    (device : UsbDevice) (host : Host) : Connection :=
  let c := { c with
    controls := c.controls ++ if requiresBulkOutControlBarrier urb.ep then [urb] else [] }
  match handleUsbipCmdSubmit prof command.header command.transferBufferLength command.setup
      command.data device host with
  | .ok response =>
      { c with phase := .select }.write (.submit c.session urb .handler response)
  | .error (.err _) => { c with phase := .select }
  | .error (.panic _) => { c with phase := .panicked }

/-! ## The workers -/

/-- An IN worker makes a move. The events that it sends go to the end of the queue. -/
def moveIn (c : Connection) (endpoint : UInt8) (move : InMove) : Option Connection := do
  let w ← c.ins endpoint
  let (w, events) ← w.step move
  some { c with
    ins := Function.update c.ins endpoint (some w)
    inEvents := c.inEvents ++ events }

/-- An OUT worker makes a move. The events that it sends go to the end of the queue. -/
def moveOut (c : Connection) (endpoint : UInt8) (move : OutMove) : Option Connection := do
  let w ← c.outs endpoint
  let (w, events) ← w.step move
  some { c with
    outs := Function.update c.outs endpoint (some w)
    outEvents := c.outEvents ++ events }

/-- The flush of a read barrier goes into the queue of the OUT worker. -/
def inFlush (c : Connection) (endpoint : UInt8) : Option Connection := do
  let w ← c.ins endpoint
  let out ← w.outWorker
  let sender := ⟨c.nextReply, c.clock⟩
  match c.sendOut out (.flush sender) with
  | .sent c => moveIn { c with nextReply := c.nextReply + 1 } endpoint (.flushSent sender)
  | _ => none

/-- What `flush_bulk_out_before_read` returns to a worker at its barrier. -/
def barrierResult (c : Connection) (w : InWorker) : Option (Except String Unit) :=
  match w.phase, w.outWorker with
  | .barrier _ _ _, none => some (.ok ())
  | .barrier _ _ flush, some out => (c.outs out).bind fun o => o.flushResult flush
  | _, _ => none

/-- The actions that are enabled are those of the phase that the handler is in; the workers move
    whenever they like. -/
def step (prof : Profile) (c : Connection) (a : Action) : Option Connection :=
  match a, c.phase with
  | .submit command, .select => c.submit command
  | .unlink header unlinkSeqnum, .select => c.unlink header unlinkSeqnum
  | .importRequest, .select => some c.importRequest
  | .shutdownSent endpoint, .importing remaining =>
      if endpoint ∈ remaining then c.shutdownSent remaining endpoint else none
  | .importDone outcome, .importing [] => some (c.importDone outcome)
  | .deliverIn, .select =>
      match c.inEvents with
      | event :: rest => some (c.deliverIn event rest)
      | [] => none
  | .deliverOut, .select =>
      match c.outEvents with
      | event :: rest => some (c.deliverOut event rest)
      | [] => none
  | .controlFlush endpoint, .serving command urb remaining none =>
      if endpoint ∈ remaining then c.controlFlush command urb remaining endpoint else none
  | .controlResult, .serving command urb remaining (some (endpoint, sender)) => do
      let w ← c.outs endpoint
      let result ← w.flushResult (some sender)
      some (c.controlBarrier command urb remaining endpoint result)
  | .execute host, .serving command urb [] none =>
      c.device.map fun device => c.execute prof command urb device host
  | .inFlush endpoint, _ => c.inFlush endpoint
  | .inBarrier endpoint, _ => do
      let w ← c.ins endpoint
      let result ← c.barrierResult w
      c.moveIn endpoint (.barrierResult result)
  | .inOpened endpoint maxPacketSize, _ => c.moveIn endpoint (.opened maxPacketSize)
  | .inCommand endpoint, _ => c.moveIn endpoint .command
  | .inCompletion endpoint result, _ => c.moveIn endpoint (.completion result)
  | .outMove endpoint move, _ => c.moveOut endpoint move
  | _, _ => none

end Connection
end Lusbip
