import Lusbip.Session.Chronicle
import Lusbip.Session.Workers

/-!
# What the replies answer

A `RET_SUBMIT` comes from a worker's event or from the handler, long after its command was
read. `Traced R` follows the commands through all of that: each URB a worker holds, each
event and each reply goes back to a command of the chronicle, and what was answered to it is
in the relation `R`. A step has to be looked at in two places only, where a response is made
from what the device returned; `Makes R` says that it is right there.
-/

namespace Lusbip

open Lib.Transition

/-! ## The events of the workers -/

namespace InWorker

variable {w w' : InWorker}

/-- An event fails a request of the worker, or brings the data its read was for. -/
structure Responds (w : InWorker) (move : InMove) (event : BulkInEvent)
    (request : BulkInRequest) : Prop where
  holds : w.Holds request
  urb : event.urb = request.urb
  endpoint : event.endpoint = w.address
  response : event.response = .usbipRetSubmitFail (bulkInResponseHeader request.header) 0 ∨
    ∃ buffer, move = .completion (.ok buffer) ∧ w.activeRequest = some request ∧
      event.response = .usbipRetSubmitSuccess (bulkInResponseHeader request.header) 0
        (UInt32.ofNat buffer.length) buffer []

theorem holds_of_activeRequest {request : BulkInRequest}
    (h : w.activeRequest = some request) : w.Holds request := by
  obtain ⟨seqnum, -, h⟩ := Option.bind_eq_some_iff.mp h
  split at h
  · exact Or.inr ⟨seqnum, h⟩
  · cases h

theorem afterBarrier_responds (w : InWorker) (seqnum len : UInt32)
    (result : Except String Unit) :
    ∀ event ∈ (w.afterBarrier seqnum len result).2, ∃ request,
      w.Responds (.barrierResult result) event request := by
  intro event he
  unfold afterBarrier at he
  dsimp only at he
  split at he
  · cases result with
    | ok u => cases he
    | error err =>
      dsimp only [failBarrier] at he
      split at he
      · rename_i request hr
        obtain rfl := List.mem_singleton.mp he
        refine ⟨request, (drain_sheds w).holds request (Or.inr ⟨seqnum, hr⟩), rfl, ?_, Or.inl rfl⟩
        exact (drain_sheds w).address
      · cases he
  · cases he

theorem complete_responds (w : InWorker) (result : Except TransferError (List UInt8)) :
    ∀ event ∈ (w.complete result).2, ∃ request,
      w.Responds (.completion result) event request := by
  intro event he
  cases h : w.activeRequest with
  | none =>
    rw [(complete_of_none h result).2] at he
    cases he
  | some request =>
    obtain ⟨-, -, seqnum, hev⟩ := complete_of_some h result
    rw [hev] at he
    obtain rfl := List.mem_singleton.mp he
    refine ⟨request, holds_of_activeRequest h, rfl, rfl, ?_⟩
    cases result with
    | error err => exact Or.inl rfl
    | ok buffer => exact Or.inr ⟨buffer, rfl, h, rfl⟩

theorem step_responds {move : InMove} {events : List BulkInEvent}
    (h : w.step move = some (w', events)) :
    ∀ event ∈ events, ∃ request, w.Responds move event request := by
  cases step_turn h with
  | passed result seqnum len flush hp => exact afterBarrier_responds w seqnum len result
  | completed result hp => exact complete_responds w result
  | _ =>
    intro event he
    cases he

end InWorker

/-- An event of an OUT worker answers a submit that the worker held. -/
theorem OutWorker.Turn.responds {w w' : OutWorker} {events : List BulkOutEvent}
    (h : OutWorker.Turn w w' events) : ∀ event ∈ events, ∃ request result,
      .submit request ∈ w.commands ∧
        event = OutWorker.event request (OutWorker.submitResponse request.data result) := by
  intro e he
  cases h with
  | rejected request queue err hp hq hh =>
    refine ⟨request, .error err, ?_, List.mem_singleton.mp he⟩
    rw [commands_of_receiving hp, hq]
    exact List.mem_cons_self
  | written request result hp =>
    refine ⟨request, result, ?_, List.mem_singleton.mp he⟩
    rw [commands_of_busy hp]
    exact List.mem_cons_self
  | _ => cases he

/-! ## Tracing the replies -/

/-- The direction of the URBs that come to a source. -/
def Source.direction? : Source → Option UInt32
  | .handler => none
  | .bulkIn _ => some 1
  | .bulkOut => some 0

namespace Chronicle

variable {prof : Profile} {torn : Urb → Nat} {s t : Chronicle} {a : Action}
  {R : SubmitCommand → UsbIpResponse → Prop}

/-- A request of an IN worker is a command that was dispatched to its endpoint, in the
    session. -/
def FromIn (submits : List (Urb × SubmitCommand)) (session : Nat) (endpoint : UInt8)
    (request : BulkInRequest) : Prop :=
  request.urb.session = session ∧ request.urb.ep = endpoint ∧
    ∃ command, (request.urb, command) ∈ submits ∧ command.header = request.header ∧
      command.transferBufferLength = request.transferBufferLength ∧ command.header.direction = 1

def FromOut (submits : List (Urb × SubmitCommand)) (session : Nat) (endpoint : UInt8)
    (request : BulkOutRequest) : Prop :=
  request.urb.session = session ∧ request.urb.ep = endpoint ∧
    ∃ command, (request.urb, command) ∈ submits ∧ command.header = request.header ∧
      command.data = request.data ∧ command.header.direction = 0

/-- The response answers the command that the URB stands for, and is in the relation. -/
def Answers (R : SubmitCommand → UsbIpResponse → Prop) (submits : List (Urb × SubmitCommand))
    (urb : Urb) (direction : Option UInt32) (response : UsbIpResponse) : Prop :=
  ∃ command, (urb, command) ∈ submits ∧ R command response ∧
    ∀ d ∈ direction, command.header.direction = d

structure Traced (R : SubmitCommand → UsbIpResponse → Prop) (s : Chronicle) : Prop where
  eps : ∀ p ∈ s.submits, p.1.ep = realEp p.2.header
  addresses : ∀ ep w, s.conn.ins ep = some w → w.address = ep
  ins : ∀ ep w, s.conn.ins ep = some w → ∀ request, w.Holds request →
    FromIn s.submits s.conn.session ep request
  outs : ∀ ep w, s.conn.outs ep = some w → ∀ request, .submit request ∈ w.commands →
    FromOut s.submits s.conn.session ep request
  inEvents : ∀ event ∈ s.conn.inEvents, Answers R s.submits event.urb (some 1) event.response
  outEvents : ∀ event ∈ s.conn.outEvents, Answers R s.submits event.urb (some 0) event.response
  serving : ∀ command urb remaining awaiting,
    s.conn.phase = .serving command urb remaining awaiting → (urb, command) ∈ s.submits
  wire : ∀ n urb source response, .submit n urb source response ∈ s.conn.wire →
    Answers R s.submits urb source.direction? response

theorem traced_init : Traced R {} :=
  ⟨fun _ h => (nomatch h), fun _ _ h => (nomatch h), fun _ _ h => (nomatch h),
    fun _ _ h => (nomatch h), fun _ h => (nomatch h), fun _ h => (nomatch h),
    fun _ _ _ _ h => (nomatch h), fun _ _ _ _ h => (nomatch h)⟩

/-! ## A step -/

/-- The responses a step makes from what the device returned are in the relation: those of a
    completion, and those of a URB that the handler executes. -/
def Makes (R : SubmitCommand → UsbIpResponse → Prop) (prof : Profile) (s : Chronicle) :
    Action → Prop
  | .inCompletion endpoint (.ok buffer) =>
      ∀ w ∈ s.conn.ins endpoint, ∀ request ∈ w.activeRequest, ∀ command,
        command.header = request.header → command.header.direction = 1 →
        command.transferBufferLength = request.transferBufferLength →
        R command (.usbipRetSubmitSuccess (bulkInResponseHeader request.header) 0
          (UInt32.ofNat buffer.length) buffer [])
  | .execute host =>
      ∀ command urb device response, s.conn.phase = .serving command urb [] none →
        s.conn.device = some device →
        handleUsbipCmdSubmit prof command.header command.transferBufferLength command.setup
          command.data device host = .ok response → R command response
  | _ => True

/-- What is in the relation whatever the device does: failures, and taken bulk-OUT URBs. -/
structure Admits (R : SubmitCommand → UsbIpResponse → Prop) : Prop where
  fail : ∀ command, R command (.usbipRetSubmitFail (replyHeader command.header usbipRetSubmit) 0)
  taken : ∀ command, command.header.direction = 0 → R command (.usbipRetSubmitSuccess
    (replyHeader command.header usbipRetSubmit) 0 (UInt32.ofNat command.data.length) [] [])

variable {submits submits' : List (Urb × SubmitCommand)}

theorem FromIn.mono {session : Nat} {endpoint : UInt8} {request : BulkInRequest}
    (h : FromIn submits session endpoint request) (hs : submits ⊆ submits') :
    FromIn submits' session endpoint request := by
  obtain ⟨hsession, hep, command, hm, hrest⟩ := h
  exact ⟨hsession, hep, command, hs hm, hrest⟩

theorem FromOut.mono {session : Nat} {endpoint : UInt8} {request : BulkOutRequest}
    (h : FromOut submits session endpoint request) (hs : submits ⊆ submits') :
    FromOut submits' session endpoint request := by
  obtain ⟨hsession, hep, command, hm, hrest⟩ := h
  exact ⟨hsession, hep, command, hs hm, hrest⟩

theorem Answers.mono {urb : Urb} {direction : Option UInt32} {response : UsbIpResponse}
    (h : Answers R submits urb direction response) (hs : submits ⊆ submits') :
    Answers R submits' urb direction response := by
  obtain ⟨command, hm, hrest⟩ := h
  exact ⟨command, hs hm, hrest⟩

theorem dispatchedBy_ep (c : Connection) (a : Action) :
    ∀ p ∈ dispatchedBy c a, p.1.ep = realEp p.2.header := by
  intro p hp
  cases a with
  | submit command =>
    unfold dispatchedBy at hp
    dsimp only at hp
    split at hp
    · cases hp
    · rw [List.mem_singleton.mp hp]
      rfl
  | _ => cases hp

/-- With a device, a command that is dispatched gets into the chronicle. -/
theorem dispatchedBy_submit {c : Connection} (hd : c.device ≠ none) (command : SubmitCommand) :
    dispatchedBy c (.submit command) = [(c.urbOf command, command)] := by
  unfold dispatchedBy
  dsimp only
  split
  · exact absurd ‹_› hd
  · rfl

theorem mem_dispatchedBy {c : Connection} (hd : c.device ≠ none) (command : SubmitCommand) :
    (c.urbOf command, command) ∈ dispatchedBy c (.submit command) := by
  rw [dispatchedBy_submit hd]
  exact List.mem_cons_self

/-- A reply on the longer wire was there, or is the new one. -/
theorem mem_wire_append {wire : List Reply} {reply reply' : Reply} (h : reply ∈ wire ++ [reply']) :
    reply ∈ wire ∨ reply = reply' :=
  (List.mem_append.mp h).imp id List.mem_singleton.mp

/-- A reply to an unlink answers no submit. -/
theorem mem_wire_of_unlink {wire : List Reply} {n n' : Nat} {urb : Urb} {source : Source}
    {response response' : UsbIpResponse} {seqnum : UInt32}
    (h : .submit n urb source response ∈ wire ++ [.unlink n' seqnum response']) :
    .submit n urb source response ∈ wire := by
  rcases mem_wire_append h with h | h
  · exact h
  · cases h

/-- A request that a worker takes from the handler. -/
theorem fromIn_of_submit {c : Connection} {command : SubmitCommand} (hd : c.device ≠ none)
    (hdir : command.header.direction = 1) (submits : List (Urb × SubmitCommand)) :
    FromIn (submits ++ dispatchedBy c (.submit command)) c.session (realEp command.header)
      ⟨command.header, command.transferBufferLength, c.urbOf command⟩ :=
  ⟨rfl, rfl, command, List.mem_append_right _ (mem_dispatchedBy hd command), rfl, rfl, hdir⟩

theorem fromOut_of_submit {c : Connection} {command : SubmitCommand} (hd : c.device ≠ none)
    (hdir : command.header.direction = 0) (submits : List (Urb × SubmitCommand)) :
    FromOut (submits ++ dispatchedBy c (.submit command)) c.session (realEp command.header)
      ⟨command.header, command.data, c.bulkOutGeneration, c.urbOf command⟩ :=
  ⟨rfl, rfl, command, List.mem_append_right _ (mem_dispatchedBy hd command), rfl, rfl, hdir⟩

/-- The events of an IN worker. -/
theorem Traced.answersIn (h : Traced R s) (hR : Admits R) {endpoint : UInt8} {move : InMove}
    {w w' : InWorker} {events : List BulkInEvent} (hw : s.conn.ins endpoint = some w)
    (hs : w.step move = some (w', events)) (hm : Makes R prof s (move.action endpoint)) :
    ∀ event ∈ events, Answers R s.submits event.urb (some 1) event.response := by
  intro event he
  obtain ⟨request, hr⟩ := InWorker.step_responds hs event he
  obtain ⟨-, -, command, hmem, hheader, hlen, hdir⟩ := h.ins endpoint w hw request hr.holds
  have hheader' : bulkInResponseHeader request.header =
      replyHeader command.header usbipRetSubmit := by
    rw [hheader]
    rfl
  refine ⟨command, hr.urb ▸ hmem, ?_, fun d hd => ?_⟩
  · rcases hr.response with hresp | ⟨buffer, rfl, hactive, hresp⟩
    · rw [hresp, hheader']
      exact hR.fail command
    · rw [hresp]
      exact hm w hw request hactive command hheader hdir hlen
  · rw [← Option.mem_some_iff.mp hd]
    exact hdir

/-- The events of an OUT worker. -/
theorem Traced.answersOut (h : Traced R s) (hR : Admits R) {endpoint : UInt8} {w w' : OutWorker}
    {events : List BulkOutEvent} (hw : s.conn.outs endpoint = some w)
    (ht : OutWorker.Turn w w' events) :
    ∀ event ∈ events, Answers R s.submits event.urb (some 0) event.response := by
  intro event he
  obtain ⟨request, result, hmem, rfl⟩ := ht.responds event he
  obtain ⟨-, -, command, hsub, hheader, hdata, hdir⟩ := h.outs endpoint w hw request hmem
  refine ⟨command, hsub, ?_, fun d hd => ?_⟩
  · cases result with
    | ok u =>
      have := hR.taken command hdir
      rwa [hheader, hdata] at this
    | error err =>
      have := hR.fail command
      rwa [hheader] at this
  · rw [← Option.mem_some_iff.mp hd]
    exact hdir

theorem submits_mono (ht : step prof torn s a = some t) : s.submits ⊆ t.submits := by
  obtain ⟨-, hsub, -⟩ := step_eq_some ht
  rw [hsub]
  exact List.subset_append_left _ _

/-- Of the IN workers: a request that is new to a worker has just been dispatched. -/
theorem Traced.ins_step (h : Traced R s) (ht : step prof torn s a = some t) (ep : UInt8)
    (w : InWorker) (hw : t.conn.ins ep = some w) :
    w.address = ep ∧ ∀ request, w.Holds request →
      FromIn t.submits t.conn.session ep request := by
  have hs := submits_mono ht
  obtain ⟨he, hsub, -⟩ := step_eq_some ht
  have hkept : ∀ v, s.conn.ins ep = some v → ∀ request, v.Holds request →
      FromIn t.submits s.conn.session ep request :=
    fun v hv request hr => (h.ins ep v hv request hr).mono hs
  rcases he.session with ⟨outcome, -, himport⟩ | hsession
  · rw [himport] at hw
    obtain ⟨out, rfl⟩ := Connection.importDone_ins hw
    refine ⟨rfl, fun request hr => ?_⟩
    rcases hr with hr | ⟨seqnum, hr⟩
    · cases hr
    · cases hr
  · rw [hsession]
    cases he.in hw with
    | started device opens ha hp w hw' =>
      rw [(he.importDone_eq ha).1, Connection.importDone_session] at hsession
      exact absurd hsession (Nat.succ_ne_self _)
    | kept w hw' => exact ⟨h.addresses ep w hw', hkept w hw'⟩
    | told w command hw' hc =>
      refine ⟨h.addresses ep w hw', fun request hr => ?_⟩
      cases hc with
      | submit command hp hdir =>
        rcases he.submit_device rfl with hd | ⟨hsame, -⟩
        · rcases hr with hr | hr
          · rcases List.mem_append.mp hr with hr | hr
            · exact hkept w hw' request (Or.inl hr)
            · obtain rfl := BulkInCommand.submit.inj (List.mem_singleton.mp hr)
              rw [hsub]
              exact fromIn_of_submit hd hdir s.submits
          · exact hkept w hw' request (Or.inr hr)
        · exact hkept _ (hsame ▸ hw) request hr
      | unlink header seqnum endpoint hp hseq =>
        rcases hr with hr | hr
        · rcases List.mem_append.mp hr with hr | hr
          · exact hkept w hw' request (Or.inl hr)
          · cases List.mem_singleton.mp hr
        · exact hkept w hw' request (Or.inr hr)
    | flushing w seqnum len hw' ha hp => exact ⟨h.addresses ep w hw', hkept w hw'⟩
    | moved w w' move events hw' ha hst hb =>
      have hmoves := InWorker.step_moves hst
      exact ⟨hmoves.address.trans (h.addresses ep w hw'),
        fun request hr => hkept w hw' request (hmoves.holds request hr)⟩

theorem Traced.outs_step (h : Traced R s) (ht : step prof torn s a = some t) (ep : UInt8)
    (w : OutWorker) (hw : t.conn.outs ep = some w) (request : BulkOutRequest)
    (hr : .submit request ∈ w.commands) : FromOut t.submits t.conn.session ep request := by
  have hs := submits_mono ht
  obtain ⟨he, hsub, -⟩ := step_eq_some ht
  have hkept : ∀ v, s.conn.outs ep = some v → .submit request ∈ v.commands →
      FromOut t.submits s.conn.session ep request :=
    fun v hv hr => (h.outs ep v hv request hr).mono hs
  rcases he.session with ⟨outcome, -, himport⟩ | hsession
  · rw [himport] at hw
    rw [Connection.importDone_outs hw] at hr
    cases hr
  · rw [hsession]
    cases he.out hw with
    | started outcome ha hp => cases hr
    | kept w hw' => exact hkept w hw' hr
    | told w command hw' hc =>
      rw [OutWorker.commands_push] at hr
      rcases List.mem_append.mp hr with hr | hr
      · exact hkept w hw' hr
      · obtain rfl := List.mem_singleton.mp hr
        cases hc with
        | submit command hp hdir =>
          rcases he.submit_device rfl with hd | ⟨-, hsame, -⟩
          · rw [hsub]
            exact fromOut_of_submit hd hdir s.submits
          · refine hkept _ (hsame ▸ hw) ?_
            rw [OutWorker.commands_push]
            exact List.mem_append_right _ List.mem_cons_self
    | moved w w' move events hw' ha hst =>
      exact hkept w hw' ((OutWorker.step_turn hst).moves.commands.subset hr)

theorem Traced.inEvents_step (h : Traced R s) (hR : Admits R) (hm : Makes R prof s a)
    (ht : step prof torn s a = some t) (event : BulkInEvent) (hevent : event ∈ t.conn.inEvents) :
    Answers R t.submits event.urb (some 1) event.response := by
  have hs := submits_mono ht
  obtain ⟨he, -, -⟩ := step_eq_some ht
  rcases he.inEvent hevent with hold | ⟨endpoint, move, w, w', events, rfl, hw, hst, -, -, hnew⟩
  · exact (h.inEvents event hold).mono hs
  · exact (h.answersIn hR hw hst hm event hnew).mono hs

theorem Traced.outEvents_step (h : Traced R s) (hR : Admits R)
    (ht : step prof torn s a = some t) (event : BulkOutEvent)
    (hevent : event ∈ t.conn.outEvents) :
    Answers R t.submits event.urb (some 0) event.response := by
  have hs := submits_mono ht
  obtain ⟨he, -, -⟩ := step_eq_some ht
  rcases he.outEvent hevent with hold | ⟨endpoint, move, w, w', events, rfl, hw, hst, hnew⟩
  · exact (h.outEvents event hold).mono hs
  · exact (h.answersOut hR hw (OutWorker.step_turn hst) event hnew).mono hs

theorem Traced.serving_step (h : Traced R s) (ht : step prof torn s a = some t)
    (command : SubmitCommand) (urb : Urb) (remaining : List UInt8)
    (awaiting : Option (UInt8 × Oneshot))
    (hp : t.conn.phase = .serving command urb remaining awaiting) :
    (urb, command) ∈ t.submits := by
  have hs := submits_mono ht
  obtain ⟨he, hsub, -⟩ := step_eq_some ht
  rcases he.serving hp with ⟨rfl, -, rfl, -⟩ | ⟨remaining', awaiting', hp', -⟩
  · rcases he.submit_device rfl with hd | ⟨-, -, hsame⟩
    · rw [hsub]
      exact List.mem_append_right _ (mem_dispatchedBy hd command)
    · exact hs (h.serving command _ remaining awaiting (hsame.symm.trans hp))
  · exact hs (h.serving command urb remaining' awaiting' hp')

/-- A new reply is a worker's event, or comes from the handler and is to the URB it serves. -/
theorem Traced.wire_step (h : Traced R s) (hR : Admits R) (hm : Makes R prof s a)
    (ht : step prof torn s a = some t) (n : Nat) (urb : Urb) (source : Source)
    (response : UsbIpResponse) (hr : .submit n urb source response ∈ t.conn.wire) :
    Answers R t.submits urb source.direction? response := by
  have hs := submits_mono ht
  obtain ⟨he, -, -⟩ := step_eq_some ht
  rcases he.reply hr with hold | ⟨-, hnew⟩
  · exact (h.wire n urb source response hold).mono hs
  · cases hnew with
    | bulkIn event hevent => exact (h.inEvents event hevent).mono hs
    | bulkOut event rest hevent hg hp =>
      exact (h.outEvents event (hevent ▸ List.mem_cons_self)).mono hs
    | barrier a command urb remaining awaiting hp =>
      exact ⟨command, hs (h.serving command urb remaining awaiting hp), hR.fail command,
        fun _ hd => (nomatch hd)⟩
    | executed host command urb device response hp hd hresponse =>
      exact ⟨command, hs (h.serving command urb [] none hp),
        hm command urb device response hp hd hresponse, fun _ hd => (nomatch hd)⟩

/-- **A step keeps what is traced**, if the responses it makes are in the relation. -/
theorem Traced.step (h : Traced R s) (hR : Admits R) (hm : Makes R prof s a)
    (ht : step prof torn s a = some t) : Traced R t where
  eps p hp := by
    obtain ⟨-, hsub, -⟩ := step_eq_some ht
    rw [hsub] at hp
    exact (List.mem_append.mp hp).elim (h.eps p) (dispatchedBy_ep s.conn a p)
  addresses ep w hw := (h.ins_step ht ep w hw).1
  ins ep w hw := (h.ins_step ht ep w hw).2
  outs := h.outs_step ht
  inEvents := h.inEvents_step hR hm ht
  outEvents := h.outEvents_step hR ht
  serving := h.serving_step ht
  wire := h.wire_step hR hm ht

/-- Any response is in the relation that holds always. -/
theorem makes_true (prof : Profile) (s : Chronicle) (a : Action) :
    Makes (fun _ _ => True) prof s a := by
  cases a with
  | inCompletion ep result =>
    cases result with
    | ok buffer => exact fun _ _ _ _ _ _ _ _ => trivial
    | error err => trivial
  | execute host => exact fun _ _ _ _ _ _ _ => trivial
  | _ => trivial

theorem admits_true : Admits fun _ _ => True := ⟨fun _ => trivial, fun _ _ => trivial⟩

/-- The events of a worker are of the session, and of its endpoint. -/
theorem Traced.inEvents_own (h : Traced R s) {endpoint : UInt8} {move : InMove} {w w' : InWorker}
    {events : List BulkInEvent} (hw : s.conn.ins endpoint = some w)
    (hs : w.step move = some (w', events)) :
    ∀ event ∈ events, event.urb.session = s.conn.session ∧ event.endpoint = endpoint := by
  intro event he
  obtain ⟨request, hr⟩ := InWorker.step_responds hs event he
  obtain ⟨hsession, -⟩ := h.ins endpoint w hw request hr.holds
  exact ⟨hr.urb ▸ hsession, hr.endpoint.trans (h.addresses endpoint w hw)⟩

theorem Traced.outEvents_own (h : Traced R s) {endpoint : UInt8} {w w' : OutWorker}
    {events : List BulkOutEvent} (hw : s.conn.outs endpoint = some w)
    (ht : OutWorker.Turn w w' events) :
    ∀ event ∈ events, event.urb.session = s.conn.session ∧ event.urb.ep = endpoint := by
  intro event he
  obtain ⟨request, result, hm, rfl⟩ := ht.responds event he
  obtain ⟨hsession, hep, -⟩ := h.outs endpoint w hw request hm
  exact ⟨hsession, hep⟩

end Chronicle
end Lusbip
