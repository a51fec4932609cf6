import Lusbip.Server.Listing
import Lusbip.Usb.Codec
import Lusbip.Session.InHand

/-!
# No request goes unheard

A client that gets no reply to a request waits for it forever. `Docket` watches a connection and
keeps a record of every request: the replies that were written while the handler was at it, whether
a worker has its URB, and whether the handler panicked over it. A URB that a worker has is awaited
until a reply answers it.

`Heard` is what a client may expect. It does not hold of two requests: a `CMD_SUBMIT` with no device
imported, and an `OP_REQ_IMPORT` whose bus id is not UTF-8, are logged and nothing else. With these
left out, and with no URB lost by the actions that `Spares` rules out, every request is heard.
-/

namespace Lusbip

open Lib.Transition

/-- What is written. -/
def Reply.response : Reply → UsbIpResponse
  | .imported _ response => response
  | .submit _ _ _ response => response
  | .unlink _ _ response => response

/-- What a command is to a connection. A device list is no business of it. -/
def UsbIpCommand.action? : UsbIpCommand → Option Action
  | .opReqDevlist _ => none
  | .opReqImport _ _ => some .importRequest
  | .usbIpCmdSubmit header _ transferBufferLength _ _ _ setup data _ =>
      some (.submit ⟨header, transferBufferLength, setup, data⟩)
  | .usbIpCmdUnlink header unlinkSeqnum => some (.unlink header unlinkSeqnum)

/-- The reply is of the kind that the command asks for, under its sequence number. -/
def UsbIpCommand.Matches : UsbIpCommand → UsbIpResponse → Prop
  | .opReqDevlist _, .opRepDevlist _ _ _ => True
  | .opReqImport _ _, .opRepImport _ _ => True
  | .usbIpCmdSubmit header _ _ _ _ _ _ _ _, response =>
      response.submitSeqnum? = some header.seqnum
  | .usbIpCmdUnlink header _, .usbIpRetUnlink reply _ => reply.seqnum = header.seqnum
  | _, _ => False

/-- Neither a command nor the end of an import. -/
def Action.Within : Action → Prop
  | .submit _ | .unlink _ _ | .importRequest | .importDone _ => False
  | _ => True

instance (a : Action) : Decidable a.Within :=
  match a with
  | .submit _ | .unlink _ _ | .importRequest | .importDone _ => isFalse id
  | .shutdownSent _ | .deliverIn | .deliverOut | .controlFlush _ | .controlResult | .execute _
  | .inFlush _ | .inBarrier _ | .inOpened _ _ | .inCommand _ | .inCompletion _ _
  | .outMove _ _ => isTrue trivial

namespace Connection

/-- The handler has panicked. -/
def ended (c : Connection) : Bool :=
  match c.phase with
  | .panicked => true
  | _ => false

instance (c : Connection) : Decidable c.Through :=
  match h : c.phase with
  | .select => isTrue (Or.inl h)
  | .panicked => isTrue (Or.inr h)
  | .serving _ _ _ _ => isFalse fun ht => ht.elim (fun hp => nomatch h.symm.trans hp)
      fun hp => nomatch h.symm.trans hp
  | .importing _ => isFalse fun ht => ht.elim (fun hp => nomatch h.symm.trans hp)
      fun hp => nomatch h.symm.trans hp

/-- The URB is in the queue of a worker. -/
def queues (c : Connection) (urb : Urb) : Bool :=
  (c.ins urb.ep).any (fun w => w.queue.any fun command => command.urb? = some urb) ||
    (c.outs urb.ep).any fun w => w.queue.any fun command => urb ∈ command.urbs

/-- What the step gives to a worker. -/
def queuedBy (c t : Connection) : Action → List (UInt32 × Urb)
  | .submit command =>
      if t.queues (c.urbOf command) then [(command.header.seqnum, c.urbOf command)] else []
  | _ => []

/-- What comes of an import request, on the inventory as it is then. -/
def importOutcome (c : Connection) (inventory : Inventory) (busid : List UInt8)
    (opens : UInt8 → Bool) : ImportOutcome :=
  match inventory.handleOpReqImport busid c.device with
  | .ok (_, some device, _) => .succeeded device opens
  | .ok (_, none, _) => .refused
  | .error _ => .rejected

end Connection

/-- A request that the handler is through with. -/
structure Served where
  command : UsbIpCommand
  /-- What was written while the handler was at it. -/
  replies : List UsbIpResponse
  /-- A worker has got the URB. -/
  queued : Bool
  /-- The handler panicked. -/
  ended : Bool

/-- The connection has ended, a worker has the URB, or there is one reply, and the right one. -/
def Served.Heard (arm : Served) : Prop :=
  arm.ended = true ∨ (arm.queued = true ∧ arm.replies = []) ∨
    ∃ response, arm.replies = [response] ∧ arm.command.Matches response

/-- The connection with a record of its requests: which one it is at, and which have been served. -/
structure Docket where
  conn : Connection := {}
  /-- The request that the handler is at, and the number of replies before it. -/
  current : Option (UsbIpCommand × Nat) := none
  served : List Served := []
  /-- The URBs that workers have got and that have not been answered. -/
  awaited : List (UInt32 × Urb) := []

namespace Docket

/-- What happens next: a request is taken up, or the connection goes on with one. -/
inductive Move where
  /-- A device list, on the snapshots that the handler takes; `occupied` are the occupancy map
      and the used devices, where the server keeps them. -/
  | devlist (status : UInt32) (available : List UsbDevice)
      (occupied : Option ((String → Option String) × List UsbDevice))
  | request (command : UsbIpCommand)
  /-- The import under way ends. -/
  | imports (inventory : Inventory) (opens : UInt8 → Bool)
  | goes (a : Action)

/-- The action of the connection that a move is. -/
def Move.action? : Move → Option Action
  | .request command => command.action?
  | .goes a => some a
  | .devlist _ _ _ | .imports _ _ => none

/-- The reply to a device list, with the occupancy of the devices or without. -/
def devlistResponse (prof : Profile) (available : List UsbDevice) :
    Option ((String → Option String) × List UsbDevice) → Outcome UsbIpResponse
  | none => .ok (Listing.handleOpReqDevlist available)
  | some (occupancy, used) =>
      Listing.handleOpReqDevlistWithOccupancy prof available occupancy used

/-- The `OP_REQ_DEVLIST` arm. -/
def devlist (s : Docket) (status : UInt32) : Outcome UsbIpResponse → Docket
  | .ok response =>
      { s with served := s.served ++ [⟨.opReqDevlist status, [response], false, false⟩] }
  | .error (.err _) => { s with served := s.served ++ [⟨.opReqDevlist status, [], false, false⟩] }
  | .error (.panic _) =>
      { s with
        conn := { s.conn with phase := .panicked }
        served := s.served ++ [⟨.opReqDevlist status, [], false, true⟩] }

/-- What is noted of a step of the connection, with the handler at `arm`. -/
def note (s : Docket) (arm : Option (UsbIpCommand × Nat)) (queued : List (UInt32 × Urb))
    (c : Connection) : Docket where
  conn := c
  current := if c.Through then none else arm
  served := s.served ++
    if c.Through then
      arm.toList.map fun (command, n) =>
        ⟨command, (c.wire.drop n).map (·.response), queued ≠ [], c.ended⟩
    else []
  awaited := (s.awaited ++ queued).filter fun (seqnum, urb) =>
    !(c.wire.drop s.conn.wire.length).any (Reply.answers seqnum urb)

/-- A request is taken up where the handler selects; else the connection makes its own steps. -/
def step (prof : Profile) (s : Docket) : Move → Option Docket
  | .devlist status available occupied =>
      match s.conn.phase with
      | .select => some (s.devlist status (devlistResponse prof available occupied))
      | _ => none
  | .request command => do
      let a ← command.action?
      let c ← s.conn.step prof a
      some (s.note (some (command, s.conn.wire.length)) (s.conn.queuedBy c a) c)
  | .imports inventory opens =>
      match s.current with
      | some (.opReqImport _ busid, _) => do
          let c ← s.conn.step prof (.importDone (s.conn.importOutcome inventory busid opens))
          some (s.note s.current [] c)
      | _ => none
  | .goes a =>
      if a.Within then (s.conn.step prof a).map (s.note s.current []) else none

/-- What a client may expect: the requests are answered, what the handler is at comes to its end,
    any command is taken up then, and the URBs at the workers can be answered. -/
structure Heard (prof : Profile) (s : Docket) : Prop where
  served : ∀ arm ∈ s.served, arm.Heard
  finishes : s.conn.CanFinish prof
  takes : s.conn.phase = .select → ∀ (command : UsbIpCommand) a, command.action? = some a →
    s.conn.CanTake prof a
  awaited : ∀ entry ∈ s.awaited, s.conn.InHand entry.1 entry.2

/-- An import that is under way is for a bus id that is UTF-8. -/
def Readable : Option (UsbIpCommand × Nat) → Prop
  | some (.opReqImport _ busid, _) => parseBusId busid ≠ none
  | _ => True

/-- The request is none of those that are only logged. -/
def Answers (s : Docket) : Move → Prop
  | .request (.usbIpCmdSubmit _ _ _ _ _ _ _ _ _) => s.conn.device ≠ none
  | .imports _ _ => Readable s.current
  | _ => True

/-- The move loses no URB, and brings none to a worker that cannot read for it. -/
def Spares (s : Docket) (move : Move) : Prop :=
  ∀ a ∈ move.action?,
    (∀ entry ∈ s.awaited, s.conn.Spares entry.1 entry.2 a) ∧ s.conn.Receives a

instance : ∀ arm, Decidable (Readable arm)
  | some (.opReqImport _ busid, _) => inferInstanceAs (Decidable (parseBusId busid ≠ none))
  | none | some (.opReqDevlist _, _) | some (.usbIpCmdSubmit _ _ _ _ _ _ _ _ _, _)
  | some (.usbIpCmdUnlink _ _, _) => isTrue trivial

instance (s : Docket) : ∀ move, Decidable (Answers s move)
  | .request (.usbIpCmdSubmit _ _ _ _ _ _ _ _ _) =>
      inferInstanceAs (Decidable (s.conn.device ≠ none))
  | .imports _ _ => inferInstanceAs (Decidable (Readable s.current))
  | .request (.opReqDevlist _) | .request (.opReqImport _ _) | .request (.usbIpCmdUnlink _ _)
  | .devlist _ _ _ | .goes _ => isTrue trivial

instance (s : Docket) (move : Move) : Decidable (Spares s move) :=
  have inner (a : Action) : Decidable
      ((∀ entry ∈ s.awaited, s.conn.Spares entry.1 entry.2 a) ∧ s.conn.Receives a) :=
    inferInstance
  @Option.decidableForallMem _ _ inner move.action?

end Docket

/-! ## The way of a request through its arm -/

namespace Connection

variable {prof : Profile} {c t : Connection} {a : Action} {urb : Urb}

/-- What a step without a command is to the arm that the handler is in. -/
inductive Course (c t : Connection) : Prop where
  | stays (hp : t.phase = c.phase) (hw : ¬ c.Through → t.wire = c.wire)
  | serves (command : SubmitCommand) (urb : Urb) (remaining remaining' : List UInt8)
      (awaiting awaiting' : Option (UInt8 × Oneshot))
      (hp : c.phase = .serving command urb remaining awaiting)
      (hp' : t.phase = .serving command urb remaining' awaiting') (hw : t.wire = c.wire)
  | imports (remaining remaining' : List UInt8) (hp : c.phase = .importing remaining)
      (hp' : t.phase = .importing remaining') (hw : t.wire = c.wire)
  | panics (ht : t.phase = .panicked)
  | replies (command : SubmitCommand) (urb : Urb) (remaining : List UInt8)
      (awaiting : Option (UInt8 × Oneshot)) (response : UsbIpResponse)
      (hp : c.phase = .serving command urb remaining awaiting) (ht : t.phase = .select)
      (hw : t.wire = c.wire ++ [.submit c.session urb .handler response])
      (hr : response.submitSeqnum? = some command.header.seqnum)

theorem Effect.course (he : Effect prof c a t) (ha : a.Within) : Course c t := by
  cases he with
  | ignored command hd hp => exact ha.elim
  | submitIn command w hp hw hd hdir => exact ha.elim
  | submitOut command w hp hw hd hdir => exact ha.elim
  | serve command remaining hp hr hd hn => exact ha.elim
  | unlinkIn header seqnum endpoint ins hp hs htold => exact ha.elim
  | unlinkOut header seqnum endpoint outs hp hs htold => exact ha.elim
  | unlinkUnknown header seqnum hp => exact ha.elim
  | importRequest hp => exact ha.elim
  | importDone outcome hp => exact ha.elim
  | shutdownSent endpoint remaining outs hp htold => exact .imports _ _ hp rfl rfl
  | deliverIn event rest hp he =>
    exact .stays (deliverIn_outs c event rest).2.2.2 fun h => absurd (Or.inl hp) h
  | deliverOut event rest hp he =>
    exact .stays (deliverOut_ins c event rest).2.2.2 fun h => absurd (Or.inl hp) h
  | controlFlush command urb remaining endpoint w hp hw => exact .serves _ _ _ _ _ _ hp rfl rfl
  | controlFailed a command urb remaining awaiting endpoint err hp ha' =>
    exact .replies command urb remaining awaiting _ hp rfl rfl rfl
  | controlPassed command urb remaining endpoint sender w hp hw hr =>
    exact .serves _ _ _ _ _ _ hp rfl rfl
  | execute host command urb device hp hd =>
    unfold Connection.execute
    dsimp only
    split
    · rename_i response hresponse
      exact .replies command urb [] none response hp rfl rfl (handleUsbipCmdSubmit_seqnum hresponse)
    · rename_i e herr
      exact absurd herr (handleUsbipCmdSubmit_ne_err prof _ _ _ _ _ _ e)
    · exact .panics rfl
  | inFlush endpoint w out o seqnum len hw ho hout hwp => exact .stays rfl fun _ => rfl
  | inMove endpoint move w w' events hw hs hf hb => exact .stays rfl fun _ => rfl
  | outMove endpoint move w w' events hw hs => exact .stays rfl fun _ => rfl

/-- The arm that the handler is in, and the command that it is for. -/
inductive UnderWay (c : Connection) : Option (UsbIpCommand × Nat) → Prop where
  | idle (h : c.Through) : UnderWay c none
  | serving (command : UsbIpCommand) (submit : SubmitCommand) (urb : Urb) (remaining : List UInt8)
      (awaiting : Option (UInt8 × Oneshot)) (hc : command.action? = some (.submit submit))
      (hp : c.phase = .serving submit urb remaining awaiting) :
      UnderWay c (some (command, c.wire.length))
  | importing (status : UInt32) (busid : List UInt8) (remaining : List UInt8)
      (hp : c.phase = .importing remaining) :
      UnderWay c (some (.opReqImport status busid, c.wire.length))

/-- The request of the arm is heard when the arm ends here, and is still under way if not. -/
structure Proper (c : Connection) (arm : Option (UsbIpCommand × Nat))
    (queued : List (UInt32 × Urb)) : Prop where
  heard : c.Through → ∀ command n, arm = some (command, n) →
    Served.Heard ⟨command, (c.wire.drop n).map (·.response), queued ≠ [], c.ended⟩
  underWay : ¬ c.Through → UnderWay c arm

theorem not_through_serving {command : SubmitCommand} {remaining : List UInt8}
    {awaiting : Option (UInt8 × Oneshot)} (hp : c.phase = .serving command urb remaining awaiting) :
    ¬ c.Through := by
  rintro (h | h)
  · cases hp.symm.trans h
  · cases hp.symm.trans h

theorem not_through_importing {remaining : List UInt8} (hp : c.phase = .importing remaining) :
    ¬ c.Through := by
  rintro (h | h)
  · cases hp.symm.trans h
  · cases hp.symm.trans h

theorem proper_of_underWay {arm : Option (UsbIpCommand × Nat)} {queued : List (UInt32 × Urb)}
    (h : UnderWay c arm) : Proper c arm queued := by
  refine ⟨fun hthrough command n harm => ?_, fun _ => h⟩
  cases h with
  | idle h => cases harm
  | serving command' submit urb remaining awaiting hc hp =>
    exact absurd hthrough (not_through_serving hp)
  | importing status busid remaining hp => exact absurd hthrough (not_through_importing hp)

/-- The handler is at its `select!` again, with one reply written. -/
theorem proper_of_reply {command : UsbIpCommand} {queued : List (UInt32 × Urb)} {n : Nat}
    {wire : List Reply} {reply : Reply} (hp : t.phase = .select) (hn : n = wire.length)
    (hw : t.wire = wire ++ [reply]) (hm : command.Matches reply.response) :
    Proper t (some (command, n)) queued := by
  refine ⟨fun _ command' n' harm => ?_, fun h => absurd (Or.inl hp) h⟩
  cases harm
  refine Or.inr (Or.inr ⟨reply.response, ?_, hm⟩)
  simp only [hw, hn, List.drop_left, List.map_cons, List.map_nil]

theorem UnderWay.of_select {arm : Option (UsbIpCommand × Nat)} (h : UnderWay c arm)
    (hp : c.phase = .select) : arm = none := by
  cases h with
  | idle h => rfl
  | serving command submit urb remaining awaiting hc hp' => cases hp.symm.trans hp'
  | importing status busid remaining hp' => cases hp.symm.trans hp'

theorem matches_submit {command : UsbIpCommand} {submit : SubmitCommand}
    {response : UsbIpResponse} (hc : command.action? = some (.submit submit))
    (hr : response.submitSeqnum? = some submit.header.seqnum) : command.Matches response := by
  cases command with
  | usbIpCmdSubmit header transferFlags transferBufferLength startFrame numberOfPackets interval
      setup data isoPacketDescriptor =>
    cases hc
    exact hr
  | opReqDevlist status => cases hc
  | opReqImport status busid => cases hc
  | usbIpCmdUnlink header unlinkSeqnum => cases hc

/-- **An arm goes on, or ends as it should.** -/
theorem UnderWay.course {arm : Option (UsbIpCommand × Nat)} (h : UnderWay c arm)
    (hc : Course c t) : Proper t arm [] := by
  cases hc with
  -- The arm goes on as it was; what is under way stays so.
  | stays hp hw =>
    refine proper_of_underWay ?_
    cases h with
    | idle h => exact .idle (h.imp hp.trans hp.trans)
    | serving command submit urb remaining awaiting hc hp' =>
      rw [← hw (not_through_serving hp')]
      exact .serving command submit urb remaining awaiting hc (hp.trans hp')
    | importing status busid remaining hp' =>
      rw [← hw (not_through_importing hp')]
      exact .importing status busid remaining (hp.trans hp')
  | serves command urb remaining remaining' awaiting awaiting' hp hp' hw =>
    refine proper_of_underWay ?_
    cases h with
    | idle h => exact absurd h (not_through_serving hp)
    | serving command' submit urb' remaining'' awaiting'' hc hphase =>
      cases hp.symm.trans hphase
      rw [← hw]
      exact .serving command' command urb remaining' awaiting' hc hp'
    | importing status busid remaining'' hphase => cases hp.symm.trans hphase
  | imports remaining remaining' hp hp' hw =>
    refine proper_of_underWay ?_
    cases h with
    | idle h => exact absurd h (not_through_importing hp)
    | serving command' submit urb' remaining'' awaiting'' hc hphase =>
      cases hp.symm.trans hphase
    | importing status busid remaining'' hphase =>
      rw [← hw]
      exact .importing status busid remaining' hp'
  | panics ht =>
    refine ⟨fun _ command n harm => Or.inl ?_, fun hthrough => absurd (Or.inr ht) hthrough⟩
    simp only [ended, ht]
  -- Here it ends, with the reply to the very command that it serves.
  | replies command urb remaining awaiting response hp ht hw hr =>
    cases h with
    | idle h => exact absurd h (not_through_serving hp)
    | serving command' submit urb' remaining' awaiting' hc hphase =>
      cases hp.symm.trans hphase
      exact proper_of_reply ht rfl hw (matches_submit hc hr)
    | importing status busid remaining' hphase => cases hp.symm.trans hphase

/-! ## Taking up a request -/

/-- A worker that has stopped takes no URB. -/
theorem submit_stopped {command : SubmitCommand} {w : InWorker} (h : c.submit command = some t)
    (hw : c.ins (realEp command.header) = some w) (hp : w.phase = .stopped) : t.ins = c.ins := by
  unfold submit at h
  split at h
  · cases h
    rfl
  · rename_i device hd
    dsimp only at h
    have hclosed : c.dispatched.submitIn command (c.urbOf command) = .closed := by
      unfold Connection.submitIn
      dsimp only
      split
      · have hsend : ∀ told, c.dispatched.sendIn (realEp command.header) told =
            .closed := by
          intro told
          simp only [sendIn, dispatched, hw, InWorker.send, hp, if_true, Sent.map]
        rw [urbOf, hsend]
        rfl
      · rfl
    rw [hclosed] at h
    dsimp only at h
    split at h
    · rename_i u hu
      cases h
      unfold Connection.submitOut at hu
      dsimp only at hu
      split at hu
      · cases hu
      · split at hu
        · obtain ⟨v, hv, rfl⟩ := Sent.map_eq_sent hu
          obtain ⟨o, ho, rfl⟩ := sendOut_sent hv
          rfl
        · cases hu
    · cases h
    · cases h
      rfl

/-- Before a URB is dispatched, no worker has it. -/
theorem Routed.not_queues {command : SubmitCommand} (h : Routed c) (hins : t.ins = c.ins)
    (houts : t.outs = c.outs) : t.queues (c.urbOf command) = false := by
  rw [queues, hins, houts, Bool.or_eq_false_iff]
  refine ⟨Bool.eq_false_iff.mpr fun hany => ?_, Bool.eq_false_iff.mpr fun hany => ?_⟩
  · obtain ⟨w, hw, hany⟩ := (Option.any_eq_true _ _).mp hany
    obtain ⟨command', hm, hurb⟩ := List.any_eq_true.mp hany
    cases command' with
    | submit request =>
      have hindex := ((h.ins _ w hw).2.2 request (Or.inl hm)).2
      rw [show request.urb = c.urbOf command by simpa [BulkInCommand.urb?] using hurb] at hindex
      exact absurd hindex (lt_irrefl _)
    | unlink seqnum => cases hurb
  · obtain ⟨w, hw, hany⟩ := (Option.any_eq_true _ _).mp hany
    obtain ⟨command', hm, hurb⟩ := List.any_eq_true.mp hany
    have hindex := ((h.outs _ w hw).2.mine _
      (List.mem_flatMap.mpr ⟨command', w.queue_sublist.subset hm, of_decide_eq_true hurb⟩)).2
    exact absurd hindex (lt_irrefl _)

theorem queues_in {w : InWorker} {request : BulkInRequest} (hw : c.ins urb.ep = some w)
    (hm : .submit request ∈ w.queue) (hu : request.urb = urb) : c.queues urb = true := by
  refine (Bool.or_eq_true _ _).mpr (Or.inl ((Option.any_eq_true _ _).mpr ⟨w, hw, ?_⟩))
  exact List.any_eq_true.mpr ⟨_, hm, decide_eq_true (congrArg some hu)⟩

theorem queues_out {w : OutWorker} {request : BulkOutRequest} (hw : c.outs urb.ep = some w)
    (hm : .submit request ∈ w.queue) (hu : request.urb = urb) : c.queues urb = true := by
  refine (Bool.or_eq_true _ _).mpr (Or.inr ((Option.any_eq_true _ _).mpr ⟨w, hw, ?_⟩))
  exact List.any_eq_true.mpr ⟨_, hm, decide_eq_true (List.mem_singleton.mpr hu.symm)⟩

/-- **A `CMD_SUBMIT` with a device imported** goes to a worker, or the handler is at it. -/
theorem Effect.submit_proper {command : UsbIpCommand} {submit : SubmitCommand}
    (he : Effect prof c a t) (ha : a = .submit submit)
    (hc : command.action? = some (.submit submit)) (hd : c.device ≠ none) :
    Proper t (some (command, c.wire.length)) (c.queuedBy t (.submit submit)) := by
  have hqueues : t.queues (c.urbOf submit) = true → t.wire = c.wire → t.phase = .select →
      Proper t (some (command, c.wire.length)) (c.queuedBy t (.submit submit)) := by
    intro hq hw hp
    refine ⟨fun _ command' n harm => ?_, fun h => absurd (Or.inl hp) h⟩
    cases harm
    rw [queuedBy, if_pos hq]
    refine Or.inr (Or.inl ⟨rfl, ?_⟩)
    simp only [hw, List.drop_length, List.map_nil]
  cases he with
  | ignored command' hnone hp => exact absurd hnone hd
  | submitIn command' w hp hw hd hdir =>
    cases ha
    exact hqueues (queues_in (Function.update_self ..)
      (List.mem_append_right _ (List.mem_singleton_self _)) rfl) rfl hp
  | submitOut command' w hp hw hd hdir =>
    cases ha
    exact hqueues (queues_out (Function.update_self ..)
      (List.mem_append_right _ (List.mem_singleton_self _)) rfl) rfl hp
  | serve command' remaining hp hrem hd hn =>
    cases ha
    exact proper_of_underWay (.serving command submit _ remaining none hc rfl)
  | controlFailed a command' urb remaining awaiting endpoint err hp ha' =>
    rcases ha' with rfl | rfl <;> cases ha
  | inMove endpoint move w w' events hw hs hf hb => cases move <;> cases ha
  | _ => cases ha

/-- A URB that has come to a worker stands. -/
theorem Effect.submit_stands {submit : SubmitCommand} (he : Effect prof c a t)
    (ha : a = .submit submit) (hr : Routed c) (hs : c.submit submit = some t) :
    ∀ entry ∈ c.queuedBy t (.submit submit), t.Stands entry.1 entry.2 := by
  intro entry hentry
  unfold queuedBy at hentry
  dsimp only at hentry
  split at hentry
  swap
  · cases hentry
  rename_i hqueues
  rw [List.mem_singleton.mp hentry]
  -- Where no queue has changed, nothing can have been queued.
  have hnone : t.ins = c.ins → t.outs = c.outs → t.Stands submit.header.seqnum (c.urbOf submit) :=
    fun hins houts => absurd hqueues (Bool.eq_false_iff.mp (hr.not_queues hins houts))
  cases he with
  | ignored command' hd hp => exact hnone rfl rfl
  | serve command' remaining hp hrem hd hn => exact hnone rfl rfl
  | submitIn command' w hp hw hd hdir =>
    cases ha
    have hin : Function.update c.ins (realEp submit.header) (some (w.push (.submit
        ⟨submit.header, submit.transferBufferLength, c.urbOf submit⟩))) (c.urbOf submit).ep =
          some (w.push (.submit
            ⟨submit.header, submit.transferBufferLength, c.urbOf submit⟩)) :=
      Function.update_self ..
    -- A worker that has stopped would have refused the URB, and it would not be queued.
    have hrunning : w.phase ≠ .stopped := by
      intro hstopped
      have hsame := congrFun (submit_stopped hs hw hstopped) (realEp submit.header)
      have hqueue := congrArg (Option.map fun w : InWorker => w.queue.length)
        (hin.symm.trans (hsame.trans hw))
      simp [InWorker.push] at hqueue
    refine .inWorker _ (inSession_select hp) hin hrunning ?_
    have hmark : BulkInCommand.mark submit.header.seqnum
        (.submit ⟨submit.header, submit.transferBufferLength, c.urbOf submit⟩) =
          [some (c.urbOf submit)] := if_pos rfl
    rw [InWorker.Owes, InWorker.word_push, hmark]
    exact Lib.Withdrawals.open_snoc _ _
  | submitOut command' w hp hw hd hdir =>
    cases ha
    refine .outWorker _ ⟨submit.header, submit.data, c.bulkOutGeneration, c.urbOf submit⟩
      (inSession_select hp) (Function.update_self ..) ?_ rfl rfl rfl (Finset.mem_insert_self _ _)
    rw [OutWorker.commands_push]
    exact List.mem_append_right _ (List.mem_singleton_self _)
  | controlFailed a command' urb remaining awaiting endpoint err hp ha' =>
    rcases ha' with rfl | rfl <;> cases ha
  | inMove endpoint move w w' events hw hs hf hb => cases move <;> cases ha
  | _ => cases ha

/-- **A `CMD_UNLINK` is answered on the spot.** -/
theorem Effect.unlink_proper {header : UsbIpHeaderBasic} {unlinkSeqnum : UInt32}
    (he : Effect prof c a t) (ha : a = .unlink header unlinkSeqnum) :
    Proper t (some (.usbIpCmdUnlink header unlinkSeqnum, c.wire.length)) [] := by
  have hm : ∀ wasPending, (UsbIpCommand.usbIpCmdUnlink header unlinkSeqnum).Matches
      (handleUsbipCmdUnlink header wasPending) := by
    intro wasPending
    cases wasPending <;> exact rfl
  cases he with
  | unlinkIn header' seqnum endpoint ins hp hs htold =>
    cases ha
    exact proper_of_reply hp rfl rfl (hm true)
  | unlinkOut header' seqnum endpoint outs hp hs htold =>
    cases ha
    exact proper_of_reply hp rfl rfl (hm (unlinkSeqnum ∈ c.pendingBulkOut))
  | unlinkUnknown header' seqnum hp =>
    cases ha
    exact proper_of_reply hp rfl rfl (hm false)
  | controlFailed a command urb remaining awaiting endpoint err hp ha' =>
    rcases ha' with rfl | rfl <;> cases ha
  | inMove endpoint move w w' events hw hs hf hb => cases move <;> cases ha
  | _ => cases ha

/-- The reply to an import, unless it is rejected. -/
theorem importDone_replies {outcome : ImportOutcome} (ho : outcome ≠ .rejected) :
    ∃ reply status device, (c.importDone outcome).wire = c.wire ++ [reply] ∧
      reply.response = .opRepImport status device := by
  cases outcome with
  | rejected => exact absurd rfl ho
  | refused => exact ⟨_, _, _, rfl, rfl⟩
  | succeeded device opens => exact ⟨_, _, _, rfl, rfl⟩

/-- A bus id that is UTF-8 is looked up. -/
theorem importOutcome_rejected_iff {inventory : Inventory} {busid : List UInt8}
    {opens : UInt8 → Bool} :
    c.importOutcome inventory busid opens = .rejected ↔ parseBusId busid = none := by
  unfold importOutcome Inventory.handleOpReqImport
  cases parseBusId busid with
  | none => exact iff_of_true rfl rfl
  | some busId =>
    refine iff_of_false ?_ nofun
    dsimp only
    cases (inventory.releaseImported c.device).occupy busId with
    | ok pair => exact nofun
    | error stop => exact nofun

/-- The handler panics at its `select!`. -/
theorem Waits.panicked (h : Waits c) (hp : c.phase = .select) :
    Waits { c with phase := .panicked } where
  running _ := h.running (inSession_select hp)
  apt := h.apt
  device _ _ _ _ hserving := nomatch hserving
  flush _ _ _ _ _ hserving := nomatch hserving

theorem Stands.panicked {k : UInt32} (h : Stands c k urb) :
    Stands { c with phase := .panicked } k urb := by
  have hs : InSession { c with phase := .panicked } := fun _ hi => nomatch hi
  cases h with
  | inWorker w _ hw ha ho => exact .inWorker w hs hw ha ho
  | inEvent event hm hk hu => exact .inEvent event hm hk hu
  | outWorker w request _ hw hm hk hu hg hp => exact .outWorker w request hs hw hm hk hu hg hp
  | outEvent event _ hm hk hu hg hp => exact .outEvent event hs hm hk hu hg hp

end Connection

/-! ## Runs -/

namespace Docket

open Connection (Routed Waits AllFit Stands UnderWay Proper Effect step_effect)

variable {prof : Profile} {s t : Docket} {move : Move} {c : Connection} {a : Action}

/-- The docket knows the arm that the handler is in. -/
structure Followed (s : Docket) : Prop where
  routed : Routed s.conn
  arm : UnderWay s.conn s.current

/-- What every state of a run is. -/
structure Kept (s : Docket) : Prop extends Followed s where
  waits : Waits s.conn
  fit : AllFit s.conn
  served : ∀ arm ∈ s.served, arm.Heard
  stands : ∀ entry ∈ s.awaited, s.conn.Stands entry.1 entry.2

theorem followed_init : Followed {} := ⟨Connection.routed_init, .idle (Or.inl rfl)⟩

theorem kept_init : Kept {} where
  toFollowed := followed_init
  waits := Connection.waits_init
  fit := Connection.allFit_init
  served _ h := nomatch h
  stands _ h := nomatch h

theorem Kept.heard (h : Kept s) : Heard prof s where
  served := h.served
  finishes := h.waits.canFinish
  takes hp command a ha := by
    refine h.waits.canTake hp ?_
    cases command with
    | opReqDevlist status => cases ha
    | _ =>
      cases ha
      exact id
  awaited entry hm := (h.stands entry hm).inHand h.waits h.fit

/-! ### The arms -/

theorem devlistResponse_ne_err (available : List UsbDevice)
    (occupied : Option ((String → Option String) × List UsbDevice)) (e : IoError) :
    devlistResponse prof available occupied ≠ .error (.err e) := by
  cases occupied with
  | none => exact nofun
  | some snapshots => exact Listing.handleOpReqDevlistWithOccupancy_ne_err e

theorem devlistResponse_matches {available : List UsbDevice}
    {occupied : Option ((String → Option String) × List UsbDevice)} {response : UsbIpResponse}
    (status : UInt32) (h : devlistResponse prof available occupied = .ok response) :
    (UsbIpCommand.opReqDevlist status).Matches response := by
  cases occupied with
  | none =>
    cases h
    exact trivial
  | some snapshots =>
    obtain ⟨devices, rfl, -⟩ := Listing.handleOpReqDevlistWithOccupancy_lists h
    exact trivial

/-- A request of the client that the connection takes up. -/
theorem proper_of_request {command : UsbIpCommand} (hanswers : Answers s (.request command))
    (ha : command.action? = some a) (hs : Connection.step prof s.conn a = some c) :
    Proper c (some (command, s.conn.wire.length)) (s.conn.queuedBy c a) := by
  cases command with
  | opReqDevlist status => cases ha
  | opReqImport status busid =>
    cases ha
    cases hp : s.conn.phase with
    | select =>
      simp only [Connection.step, hp, Option.some.injEq] at hs
      subst hs
      exact Connection.proper_of_underWay (.importing status busid _ rfl)
    | _ => simp [Connection.step, hp] at hs
  | usbIpCmdSubmit header transferFlags transferBufferLength startFrame numberOfPackets interval
      setup data isoPacketDescriptor =>
    cases ha
    exact (step_effect hs).submit_proper rfl rfl hanswers
  | usbIpCmdUnlink header unlinkSeqnum =>
    cases ha
    exact (step_effect hs).unlink_proper rfl

theorem stands_of_request {command : UsbIpCommand} (h : Routed s.conn)
    (ha : command.action? = some a)
    (hs : Connection.step prof s.conn a = some c) :
    ∀ entry ∈ s.conn.queuedBy c a, c.Stands entry.1 entry.2 := by
  cases command with
  | usbIpCmdSubmit header transferFlags transferBufferLength startFrame numberOfPackets interval
      setup data isoPacketDescriptor =>
    cases ha
    have he := step_effect hs
    have hsubmit := hs
    simp only [Connection.step, he.submit_select rfl] at hsubmit
    exact he.submit_stands rfl h hsubmit
  | opReqDevlist status => cases ha
  | opReqImport status busid =>
    cases ha
    intro entry hm
    cases hm
  | usbIpCmdUnlink header unlinkSeqnum =>
    cases ha
    intro entry hm
    cases hm

/-- The end of an import. -/
theorem proper_of_imports (h : UnderWay s.conn s.current) {status : UInt32} {busid : List UInt8}
    {n : Nat} {inventory : Inventory} {opens : UInt8 → Bool}
    (hcurrent : s.current = some (.opReqImport status busid, n)) (hb : parseBusId busid ≠ none)
    (hs : Connection.step prof s.conn
      (.importDone (s.conn.importOutcome inventory busid opens)) = some c) :
    Proper c s.current [] := by
  obtain ⟨rfl, hp⟩ := (step_effect hs).importDone_eq rfl
  rw [hcurrent] at h ⊢
  cases h with
  | serving command submit urb remaining awaiting hc hphase => cases hp.symm.trans hphase
  | importing status busid remaining hphase =>
    -- Only an import of an unreadable bus id ends without a reply.
    have hnot : s.conn.importOutcome inventory busid opens ≠ .rejected :=
      fun hrejected => hb (Connection.importOutcome_rejected_iff.mp hrejected)
    obtain ⟨reply, status', device, hwire, hresponse⟩ := Connection.importDone_replies hnot
    refine Connection.proper_of_reply (Connection.importDone_frame _ _).2.2 rfl hwire ?_
    rw [hresponse]
    exact trivial

/-! ### Steps -/

theorem Followed.note (h : Followed s) (hs : Connection.step prof s.conn a = some c)
    {arm : Option (UsbIpCommand × Nat)} {queued : List (UInt32 × Urb)}
    (harm : Proper c arm queued) : Followed (s.note arm queued c) where
  routed := h.routed.step (step_effect hs)
  arm := by
    dsimp only [Docket.note]
    split
    · exact .idle ‹_›
    · exact harm.underWay ‹_›

/-- **A step of the connection is noted**, and loses no URB that it spares. -/
theorem Kept.note (h : Kept s) (hs : Connection.step prof s.conn a = some c)
    (hspares : ∀ entry ∈ s.awaited, s.conn.Spares entry.1 entry.2 a)
    (hreceives : s.conn.Receives a)
    {arm : Option (UsbIpCommand × Nat)} {queued : List (UInt32 × Urb)}
    (harm : Proper c arm queued) (hqueued : ∀ entry ∈ queued, c.Stands entry.1 entry.2) :
    Kept (s.note arm queued c) where
  toFollowed := h.toFollowed.note hs harm
  waits := h.waits.step hs
  fit := h.fit.step hreceives (step_effect hs)
  served served hm := by
    rcases List.mem_append.mp hm with hm | hm
    · exact h.served served hm
    · split at hm
      · obtain ⟨⟨command, n⟩, harm', rfl⟩ := List.mem_map.mp hm
        exact harm.heard ‹_› command n (Option.mem_toList.mp harm')
      · cases hm
  stands entry hm := by
    obtain ⟨hm, hkeep⟩ := List.mem_filter.mp hm
    rcases List.mem_append.mp hm with hm | hm
    · -- A URB that stood before stands or is replied to, and what is replied to is not kept.
      have hstep := (h.stands entry hm).step h.routed h.waits h.fit hs
        (hspares entry hm) hreceives
      rcases hstep with hst | hreplied
      · exact hst
      · rw [Connection.Replied] at hreplied
        simp [hreplied] at hkeep
    · exact hqueued entry hm

/-- The device list goes out, or the handler panics over it. -/
theorem Followed.devlist (h : Followed s) (hp : s.conn.phase = .select) (status : UInt32)
    (response : Outcome UsbIpResponse) : Followed (s.devlist status response) := by
  cases response with
  | ok r => exact ⟨h.routed, h.arm⟩
  | error stop =>
    cases stop with
    | err e => exact ⟨h.routed, h.arm⟩
    | panic p =>
      refine ⟨⟨h.routed.device, h.routed.ins, h.routed.outs, h.routed.inEvents,
        h.routed.outEvents⟩, ?_⟩
      dsimp only [Docket.devlist]
      rw [h.arm.of_select hp]
      exact .idle (Or.inr rfl)

theorem Kept.devlist (h : Kept s) (hp : s.conn.phase = .select) (status : UInt32)
    {response : Outcome UsbIpResponse} (hne : ∀ e, response ≠ .error (.err e))
    (hok : ∀ r, response = .ok r → (UsbIpCommand.opReqDevlist status).Matches r) :
    Kept (s.devlist status response) := by
  have hserved : ∀ arm : Served, arm.Heard → ∀ arm' ∈ s.served ++ [arm], arm'.Heard := by
    intro arm harm arm' hm
    rcases List.mem_append.mp hm with hm | hm
    · exact h.served arm' hm
    · rw [List.mem_singleton.mp hm]
      exact harm
  have hf := h.toFollowed.devlist hp status response
  cases response with
  | ok r =>
    exact ⟨hf, h.waits, h.fit, hserved _ (Or.inr (Or.inr ⟨r, rfl, hok r rfl⟩)), h.stands⟩
  | error stop =>
    cases stop with
    | err e => exact absurd rfl (hne e)
    | panic p =>
      exact ⟨hf, h.waits.panicked hp, ⟨h.fit.fit, h.fit.able⟩, hserved _ (Or.inl rfl),
        fun entry hm => (h.stands entry hm).panicked⟩

/-- **What a step can do.** -/
inductive Stepped (prof : Profile) (s : Docket) : Move → Docket → Prop where
  | devlist (status : UInt32) (available : List UsbDevice)
      (occupied : Option ((String → Option String) × List UsbDevice))
      (hp : s.conn.phase = .select) :
      Stepped prof s (.devlist status available occupied)
        (s.devlist status (devlistResponse prof available occupied))
  | request (command : UsbIpCommand) (a : Action) (c : Connection)
      (ha : command.action? = some a) (hs : Connection.step prof s.conn a = some c) :
      Stepped prof s (.request command)
        (s.note (some (command, s.conn.wire.length)) (s.conn.queuedBy c a) c)
  | imports (inventory : Inventory) (opens : UInt8 → Bool) (status : UInt32) (busid : List UInt8)
      (n : Nat) (c : Connection) (hcurrent : s.current = some (.opReqImport status busid, n))
      (hs : Connection.step prof s.conn
        (.importDone (s.conn.importOutcome inventory busid opens)) = some c) :
      Stepped prof s (.imports inventory opens) (s.note s.current [] c)
  | goes (a : Action) (c : Connection) (hw : a.Within)
      (hs : Connection.step prof s.conn a = some c) :
      Stepped prof s (.goes a) (s.note s.current [] c)

theorem stepped (h : Docket.step prof s move = some t) : Stepped prof s move t := by
  cases move with
  | devlist status available occupied =>
    cases hp : s.conn.phase with
    | select =>
      simp only [Docket.step, hp, Option.some.injEq] at h
      subst h
      exact .devlist status available occupied hp
    | _ => simp [Docket.step, hp] at h
  | request command =>
    obtain ⟨a, ha, h⟩ := Option.bind_eq_some_iff.mp h
    obtain ⟨c, hc, h⟩ := Option.bind_eq_some_iff.mp h
    cases h
    exact .request command a c ha hc
  | imports inventory opens =>
    dsimp only [Docket.step] at h
    split at h
    · rename_i status busid n hcurrent
      obtain ⟨c, hc, h⟩ := Option.bind_eq_some_iff.mp h
      cases h
      exact .imports inventory opens status busid n c hcurrent hc
    · cases h
  | goes a =>
    dsimp only [Docket.step] at h
    split at h
    · obtain ⟨c, hc, rfl⟩ := Option.map_eq_some_iff.mp h
      exact .goes a c ‹_› hc
    · cases h

/-- The bus id of the import that ends. -/
theorem Answers.busid {inventory : Inventory} {opens : UInt8 → Bool} {status : UInt32}
    {busid : List UInt8} {n : Nat} (h : Answers s (.imports inventory opens))
    (hcurrent : s.current = some (.opReqImport status busid, n)) : parseBusId busid ≠ none := by
  simpa only [Answers, Readable, hcurrent] using h

theorem Followed.step (h : Followed s) (ha : Answers s move)
    (hs : Docket.step prof s move = some t) : Followed t := by
  cases stepped hs with
  | devlist status available occupied hp => exact h.devlist hp status _
  | request command a c haction hc => exact h.note hc (proper_of_request ha haction hc)
  | imports inventory opens status busid n c hcurrent hc =>
    exact h.note hc (proper_of_imports h.arm hcurrent (ha.busid hcurrent) hc)
  | goes a c hw hc => exact h.note hc (h.arm.course ((step_effect hc).course hw))

theorem Kept.step (h : Kept s) (ha : Answers s move) (hspares : Spares s move)
    (hs : Docket.step prof s move = some t) : Kept t := by
  have hnil : ∀ entry ∈ ([] : List (UInt32 × Urb)), t.conn.Stands entry.1 entry.2 :=
    fun entry hm => nomatch hm
  cases stepped hs with
  | devlist status available occupied hp =>
    exact h.devlist hp status (devlistResponse_ne_err available occupied)
      fun _ => devlistResponse_matches status
  | request command a c haction hc =>
    obtain ⟨hkept, hreceives⟩ := hspares a haction
    exact h.note hc hkept hreceives (proper_of_request ha haction hc)
      (stands_of_request h.routed haction hc)
  | imports inventory opens status busid n c hcurrent hc =>
    exact h.note hc (fun _ _ => trivial) trivial
      (proper_of_imports h.arm hcurrent (ha.busid hcurrent) hc) hnil
  | goes a c hw hc =>
    obtain ⟨hkept, hreceives⟩ := hspares a rfl
    exact h.note hc hkept hreceives (h.arm.course ((step_effect hc).course hw)) hnil

/-! ### The two requests that are only logged -/

/-- Nothing is written, nothing is queued, and the connection goes on. -/
theorem unheard_of_note {command : UsbIpCommand} {n : Nat} {arm : Option (UsbIpCommand × Nat)}
    (harm : arm = some (command, n)) (hp : c.phase = .select) (hw : c.wire.drop n = []) :
    ¬ Heard prof (s.note arm [] c) := by
  intro h
  have hm : (⟨command, (c.wire.drop n).map (·.response), false, c.ended⟩ : Served) ∈
      (s.note arm [] c).served := by
    have hthrough : c.Through := Or.inl hp
    refine List.mem_append_right _ ?_
    rw [if_pos hthrough, harm]
    exact List.mem_singleton_self _
  have hended : c.ended = false := by
    simp only [Connection.ended, hp]
  rcases h.served _ hm with hend | ⟨hqueued, -⟩ | ⟨response, hreplies, -⟩
  · cases hended.symm.trans hend
  · cases hqueued
  · rw [hw] at hreplies
    cases hreplies

/-- **A request that is only logged is not heard.** -/
theorem Followed.answers (h : Followed s) (hs : Docket.step prof s move = some t)
    (ht : Heard prof t) : Answers s move := by
  cases stepped hs with
  | devlist status available occupied hp => exact trivial
  | goes a c hw hc => exact trivial
  | imports inventory opens status busid n c hcurrent hc =>
    simp only [Answers, Readable, hcurrent]
    intro hb
    obtain ⟨rfl, hp⟩ := (step_effect hc).importDone_eq rfl
    rw [Connection.importOutcome_rejected_iff.mpr hb] at ht
    refine unheard_of_note hcurrent rfl ?_ ht
    have harm := hcurrent ▸ h.arm
    cases harm with
    | serving command submit urb remaining awaiting haction hphase => cases hp.symm.trans hphase
    | importing status busid remaining hphase => exact List.drop_length
  | request command a c haction hc =>
    cases command with
    | usbIpCmdSubmit header transferFlags transferBufferLength startFrame numberOfPackets interval
        setup data isoPacketDescriptor =>
      cases haction
      intro hd
      have hp := (step_effect hc).submit_select rfl
      simp only [Connection.step, hp, Connection.submit, hd, Option.some.injEq] at hc
      obtain ⟨hins, houts, hphase, hwire⟩ : c.ins = s.conn.ins ∧ c.outs = s.conn.outs ∧
          c.phase = .select ∧ c.wire = s.conn.wire := by
        subst hc
        exact ⟨rfl, rfl, rfl, rfl⟩
      have hnone : s.conn.queuedBy c (.submit ⟨header, transferBufferLength, setup, data⟩) = [] :=
        if_neg (Bool.eq_false_iff.mp (h.routed.not_queues hins houts))
      rw [hnone] at ht
      exact unheard_of_note rfl hphase (by rw [hwire, List.drop_length]) ht
    | opReqDevlist status => exact trivial
    | opReqImport status busid => exact trivial
    | usbIpCmdUnlink header unlinkSeqnum => exact trivial

/-! ## The two directions -/

/-- A run that is heard throughout has no request that is only logged. -/
theorem along_answers {moves : List Move} (h : Throughout (step prof) (Heard prof) {} moves) :
    Along (step prof) Answers {} moves :=
  along_of_throughout_within (fun _ _ _ hf _ ha hs => Followed.step hf ha hs)
    (fun _ _ _ hf _ hs ht => Followed.answers hf hs ht) followed_init
    (along_of_forall (fun _ _ => trivial) _ _) h

/-- **A run is heard throughout if the handler replies to all its requests and no URB is lost**,
    and only if the handler replies to all its requests. -/
theorem heard_of_answers (prof : Profile) (moves : List Move) :
    (Along (step prof) (fun s move => Answers s move ∧ Spares s move) {} moves →
      Throughout (step prof) (Heard prof) {} moves) ∧
      (Throughout (step prof) (Heard prof) {} moves → Along (step prof) Answers {} moves) := by
  refine ⟨?_, along_answers⟩
  exact throughout_of_along (fun _ _ _ hk ha hs => Kept.step hk ha.1 ha.2 hs)
    (fun _ => Kept.heard) kept_init

/-- A device is imported, and a URB of its bulk-IN endpoint answered. -/
def readOnce : List Move :=
  [.request (.opReqImport 0 ("1-1".toUTF8.toList ++ List.replicate 29 0)),
    .imports ⟨[Connection.serialPort], []⟩ fun _ => true, .goes (.inOpened 0x81 (some 64)),
    .request (.usbIpCmdSubmit ⟨1, 1, 0, 1, 1⟩ 0 64 0 0 0 (List.replicate 8 0) [] []),
    .goes (.inCommand 0x81), .goes (.inFlush 0x81), .goes (.outMove 1 .command),
    .goes (.inBarrier 0x81), .goes (.inCompletion 0x81 (.ok [0x2A])), .goes .deliverIn,
    .request (.usbIpCmdUnlink ⟨2, 2, 0, 0, 0⟩ 1), .devlist 0 [] none]

theorem heard_readOnce :
    ((run (step .release) {} readOnce).any fun s => s.served.length = 4 ∧ s.awaited = []) = true ∧
      Throughout (step .release) (Heard .release) {} readOnce :=
  ⟨by decide +kernel, (heard_of_answers .release readOnce).1 (by decide +kernel)⟩

/-- A read, with no device imported. -/
def readUnattached : UsbIpCommand :=
  .usbIpCmdSubmit ⟨1, 1, 0, 1, 1⟩ 0 64 0 0 0 (List.replicate 8 0) [] []

/-- An import, with a bus id that is not UTF-8. -/
def importUnreadable : UsbIpCommand := .opReqImport 0 (List.replicate 32 0xFF)

/-- Both are well formed, and neither is heard. -/
theorem unheard_requests :
    (readUnattached.WellFormed ∧
      ¬ Throughout (step .release) (Heard .release) {} [.request readUnattached]) ∧
      importUnreadable.WellFormed ∧
        ¬ Throughout (step .release) (Heard .release) {}
          [.request importUnreadable, .imports {} fun _ => false] := by
  refine ⟨⟨⟨⟨rfl, Or.inr rfl⟩, rfl, nofun, fun _ => rfl, rfl⟩, fun h => ?_⟩, ⟨rfl, rfl⟩,
    fun h => ?_⟩
  · exact absurd (along_answers h) (by decide +kernel)
  · exact absurd (along_answers h) (by decide +kernel)

end Docket
end Lusbip
