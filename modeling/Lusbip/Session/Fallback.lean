import Lusbip.Session.BulkInReplies
import Lusbip.Session.SynchronousRead
import Lusbip.Session.Workers

/-!
# Bulk-IN URBs without a worker

A bulk-IN worker that cannot open its endpoint ends, and the URBs of the endpoint are then
executed by the handler, on the synchronous path. That path should do for a URB what the worker
would have done: ask for the same number of bytes, and have the OUT worker of the endpoint flushed
before.

It does neither. It takes 1 off the length before it rounds it up, which an empty buffer does not
stand: the checked build panics at the subtraction, the other one at a buffer of 2^32 bytes. And
the only barrier of the handler is for endpoint 0.
-/

namespace Lusbip

/-! ## The flushes an OUT worker knows of -/

namespace OutWorker

variable {w w' : OutWorker} {time time' : Nat}

/-- Every flush the worker has been asked for was sent by the given time. -/
structure SentBy (time : Nat) (w : OutWorker) : Prop where
  busy : ∀ command, w.phase = .busy command → w.health = none
  senders : ∀ command ∈ w.commands, ∀ sender, command.reply? = some sender → sender.sentAt ≤ time
  answers : ∀ sender result, (sender, result) ∈ w.answers → sender.sentAt ≤ time

theorem sentBy_start (time : Nat) (address : UInt8) : SentBy time { address := address } := by
  constructor
  · intro command hp
    cases hp
  · intro command hm
    cases hm
  · intro sender result hm
    cases hm

theorem SentBy.mono (h : SentBy time w) (ht : time ≤ time') : SentBy time' w where
  busy := h.busy
  senders command hm sender hs := (h.senders command hm sender hs).trans ht
  answers sender result hm := (h.answers sender result hm).trans ht

theorem SentBy.push (h : SentBy time w) {command : BulkOutCommand}
    (hs : ∀ sender, command.reply? = some sender → sender.sentAt ≤ time) :
    SentBy time (w.push command) where
  busy := h.busy
  senders command' hm sender hs' := by
    rw [commands_push] at hm
    rcases List.mem_append.mp hm with hm | hm
    · exact h.senders command' hm sender hs'
    · rw [List.mem_singleton.mp hm] at hs'
      exact hs sender hs'
  answers := h.answers

/-- The answers a step adds: to a flush at the head, and a good one only from a worker that
    has not failed. -/
theorem Turn.answer {events : List BulkOutEvent} (ht : Turn w w' events)
    (hbusy : ∀ command, w.phase = .busy command → w.health = none) {sender : Oneshot}
    {result : Except String Unit} (hm : (sender, result) ∈ w'.answers) :
    (sender, result) ∈ w.answers ∨
      (∃ command ∈ w.commands, command.reply? = some sender) ∧
        (result = .ok () → w.health = none) ∧
        (result ≠ .ok () → w'.phase ≠ .stopped → w'.health ≠ none) := by
  cases ht with
  | answered sender' queue result' hp hq hr =>
    -- A flush that needs no writer is answered by the worker's health.
    have hmem : (sender, result) ∈ w.answers ++ [(sender', result')] := by
      cases result' <;> exact hm
    refine (List.mem_append.mp hmem).imp id fun hm => ?_
    obtain ⟨rfl, rfl⟩ := Prod.mk.inj (List.mem_singleton.mp hm)
    refine ⟨⟨.flush sender, ?_, rfl⟩, fun hok => (hr hok).1, fun herr _ => ?_⟩
    · rw [commands_of_receiving hp, hq]
      exact List.mem_cons_self
    · cases result with
      | ok u => exact absurd rfl herr
      | error err => exact Option.some_ne_none err
  | shut sender' queue result' hp hq hr =>
    refine (List.mem_append.mp hm).imp id fun hm => ?_
    obtain ⟨rfl, rfl⟩ := Prod.mk.inj (List.mem_singleton.mp hm)
    refine ⟨⟨.shutdown sender, ?_, rfl⟩, fun hok => (hr hok).1, fun _ hstop => absurd rfl hstop⟩
    rw [commands_of_receiving hp, hq]
    exact List.mem_cons_self
  -- A flush through the writer is answered by what came of it, which the health then is.
  | flushed sender' result' hp =>
    have hmem : (sender, result) ∈ w.answers ++ [(sender', result')] := by
      cases result' <;> exact hm
    refine (List.mem_append.mp hmem).imp id fun hm => ?_
    obtain ⟨rfl, rfl⟩ := Prod.mk.inj (List.mem_singleton.mp hm)
    refine ⟨⟨.flush sender, ?_, rfl⟩, fun _ => hbusy _ hp, fun herr _ => ?_⟩
    · rw [commands_of_busy hp]
      exact List.mem_cons_self
    · cases result with
      | ok u => exact absurd rfl herr
      | error err => exact Option.some_ne_none err
  | flushedAndShut sender' result' hp =>
    have hmem : (sender, result) ∈ w.answers ++ [(sender', result')] := by
      cases result' <;> exact hm
    refine (List.mem_append.mp hmem).imp id fun hm => ?_
    obtain ⟨rfl, rfl⟩ := Prod.mk.inj (List.mem_singleton.mp hm)
    refine ⟨⟨.shutdown sender, ?_, rfl⟩, fun _ => hbusy _ hp, fun _ hstop => absurd rfl hstop⟩
    rw [commands_of_busy hp]
    exact List.mem_cons_self
  | written request result' hp => cases result' <;> exact Or.inl hm
  | idleFlushed result' hp => cases result' <;> exact Or.inl hm
  | _ => exact Or.inl hm

theorem SentBy.turn (h : SentBy time w) {events : List BulkOutEvent} (ht : Turn w w' events) :
    SentBy time w' where
  busy command hp := ht.busy h.busy hp
  senders command hm := h.senders command (ht.moves.commands.subset hm)
  answers sender result hm := by
    rcases ht.answer h.busy hm with hm | ⟨⟨command, hc, hs⟩, -⟩
    · exact h.answers sender result hm
    · exact h.senders command hc sender hs

end OutWorker

/-! ## The connection -/

namespace Connection

open Lib.Transition (run invariant_of_run)

variable {prof : Profile} {c t : Connection} {a : Action}

/-- The OUT worker of the endpoint, if there is one, has done a flush that it was sent after the
    URB. -/
def FlushedFor (c : Connection) (urb : Urb) : Prop :=
  ∀ o, c.outs (urb.ep &&& 0x7f) = some o →
    ∃ sender, (sender, .ok ()) ∈ o.answers ∧ urb.index < sender.sentAt

theorem eq_of_bits {e u : UInt8} (he : e &&& 0x80 = 0x80) (hu : u &&& 0x80 = 0x80)
    (h : e &&& 0x7f = u &&& 0x7f) : e = u := by
  have hsplit : ∀ x : UInt8, x = x &&& 0x80 ||| x &&& 0x7f := by
    intro x
    apply UInt8.toBitVec_inj.mp
    rw [UInt8.toBitVec_or, UInt8.toBitVec_and, UInt8.toBitVec_and, ← BitVec.and_or_distrib_left]
    exact BitVec.and_allOnes.symm
  rw [hsplit e, hsplit u, he, hu, h]

theorem bulkEndpoints_in {device : UsbDevice} {ep : UInt8}
    (h : ep ∈ bulkEndpoints device .in) : ep &&& 0x80 = 0x80 := by
  obtain ⟨interface, -, h⟩ := List.mem_flatMap.mp h
  obtain ⟨endpoint, hm, rfl⟩ := List.mem_map.mp h
  have hdir := (of_decide_eq_true (List.mem_filter.mp hm).2).2
  unfold UsbEndpoint.direction at hdir
  split at hdir
  · assumption
  · cases hdir

/-- What holds while the handler serves an IN URB that is not for endpoint 0: no flush has been
    sent to the OUT worker of its endpoint since it came. -/
structure Standing (c : Connection) : Prop where
  left : LeftOver c
  sent : ∀ ep o, c.outs ep = some o → o.SentBy c.clock
  paired : ∀ ep w, c.ins ep = some w →
    ep &&& 0x80 = 0x80 ∧ ∀ out, w.outWorker = some out → out = ep &&& 0x7f
  served : ∀ command urb remaining awaiting, c.phase = .serving command urb remaining awaiting →
    command.header.direction = 1 → requiresBulkOutControlBarrier (realEp command.header) = false →
      remaining = [] ∧ urb.ep = realEp command.header ∧
        ∀ o, c.outs (urb.ep &&& 0x7f) = some o → o.SentBy urb.index

theorem standing_init : Standing {} :=
  ⟨leftOver_init, fun _ _ h => (nomatch h), fun _ _ h => (nomatch h), fun _ _ _ _ h => (nomatch h)⟩

/-- No OUT worker is flushed before a URB that is not for endpoint 0. -/
theorem submit_remaining {command command' : SubmitCommand} {urb : Urb} {remaining : List UInt8}
    {awaiting : Option (UInt8 × Oneshot)} (hp : c.phase = .select)
    (h : c.submit command = some t) (ht : t.phase = .serving command' urb remaining awaiting)
    (hbar : requiresBulkOutControlBarrier (realEp command.header) = false) : remaining = [] := by
  unfold submit at h
  split at h
  · cases h
    cases hp.symm.trans ht
  · dsimp only at h
    split at h
    · rename_i u hu
      cases h
      unfold Connection.submitIn at hu
      dsimp only at hu
      split at hu
      · obtain ⟨v, hv, rfl⟩ := Sent.map_eq_sent hu
        obtain ⟨w, hw, rfl⟩ := sendIn_sent hv
        cases hp.symm.trans ht
      · cases hu
    · cases h
    · split at h
      · rename_i u hu
        cases h
        unfold Connection.submitOut at hu
        dsimp only at hu
        split at hu
        · cases hu
        · split at hu
          · obtain ⟨v, hv, rfl⟩ := Sent.map_eq_sent hu
            obtain ⟨w, hw, rfl⟩ := sendOut_sent hv
            cases hp.symm.trans ht
          · cases hu
      · cases h
      · cases h
        obtain ⟨-, -, hr, -⟩ := HandlerPhase.serving.inj ht
        rw [← hr]
        exact if_neg (by simp [urbOf, hbar])

theorem Standing.step (h : Standing c) (hstep : Connection.step prof c a = some t) :
    Standing t := by
  have he := step_effect hstep
  have hclock := he.mono.1
  refine ⟨h.left.step hstep, fun ep o ho => ?_, fun ep w hw => ?_, ?_⟩
  · cases he.out ho with
    | started outcome ha hp => exact OutWorker.sentBy_start _ ep
    | kept o ho => exact (h.sent ep o ho).mono hclock
    | told o command ho' hc =>
      refine ((h.sent ep o ho').mono hclock).push fun sender hs => ?_
      rw [hc.reply hs]
      exact hclock
    | moved o o' move events ho' ha hs =>
      exact ((h.sent ep o ho').mono hclock).turn (OutWorker.step_turn hs)
  · cases he.in hw with
    | started device opens ha hp w hw =>
      obtain ⟨hmem, rfl⟩ := startBulkInWorkers_eq_some.mp hw
      refine ⟨bulkEndpoints_in hmem, fun out hout => ?_⟩
      exact Option.some.inj (Option.ite_none_right_eq_some.mp hout).2.symm
    | kept w hw => exact h.paired ep w hw
    | told w command hw' hc => exact h.paired ep w hw'
    | flushing w seqnum len hw' ha hp => exact h.paired ep w hw'
    | moved w w' move events hw' ha hs hb =>
      obtain ⟨hbit, hout⟩ := h.paired ep w hw'
      refine ⟨hbit, fun out ho => hout out ?_⟩
      rwa [(InWorker.step_moves hs).outWorker] at ho
  · intro command urb remaining awaiting hp hdir hbar
    rcases he.serving hp with ⟨rfl, hselect, rfl, houts⟩ | ⟨remaining', awaiting', hp', hsub⟩
    · -- The URB has just come, and no flush is later than that.
      refine ⟨?_, rfl, fun o ho => ?_⟩
      · simp only [Connection.step, hselect] at hstep
        exact submit_remaining hselect hstep hp hbar
      · rw [houts] at ho
        exact h.sent _ o ho
    · obtain ⟨rfl, hep, hsent⟩ := h.served command urb remaining' awaiting' hp' hdir hbar
      refine ⟨List.subset_nil.mp hsub, hep, fun o ho => ?_⟩
      cases he.out ho with
      | started outcome ha himporting => cases hp'.symm.trans himporting
      | kept o ho => exact hsent o ho
      | told o told ho' hc =>
        refine (hsent o ho').push fun sender hs => ?_
        generalize hout : urb.ep &&& 0x7f = out at hc
        cases hc with
        | submit command' hselect hdir' => cases hs
        | unlink header seqnum endpoint hselect hseq => cases hs
        | shutdown endpoint remaining'' himporting => cases hp'.symm.trans himporting
        | flush endpoint command' urb' remaining'' hserving =>
          -- There is no endpoint left to be flushed.
          simp only [Connection.step, hserving] at hstep
          rw [hp'] at hserving
          cases hserving
          simp at hstep
        | barrier endpoint out w seqnum len hw hpartner hwp =>
          -- The worker that flushes the same OUT worker is the one that has stopped.
          obtain ⟨hbit, hpair⟩ := h.paired endpoint w hw
          have hne : command.header.direction ≠ 0 := by
            rw [hdir]
            decide
          have hsame : endpoint = urb.ep :=
            eq_of_bits hbit (hep ▸ realEp_in hne) ((hpair _ hpartner).symm.trans hout.symm)
          have hstopped := (h.left command urb _ _ hp' hdir).2 w (hsame ▸ hw)
          cases hstopped.symm.trans hwp
      | moved o o' move events ho' ha hs => exact (hsent o ho').turn (OutWorker.step_turn hs)

/-! ## The two paths -/

/-- The handler is about to execute a bulk-IN URB whose worker has stopped. -/
structure FallsBack (c : Connection) (command : SubmitCommand) (urb : Urb) (device : UsbDevice)
    (ep : UsbEndpoint) (intf : UsbInterface) : Prop where
  serving : c.phase = .serving command urb [] none
  imported : c.device = some device
  ep0 : device.HasEp0
  found : device.findEp (realEp command.header) = some (ep, some intf)
  bulk : ep.attributes = EndpointAttributes.bulk.toU8
  incoming : command.header.direction = 1
  stopped : ∃ w, c.ins (realEp command.header) = some w ∧ w.phase = .stopped

/-- What the synchronous path does for the URB is what the worker would have done: the length of
    a read is the worker's and does not come of an underflow, and the barrier has been passed
    before, or the URB fails. -/
structure AsWorker (prof : Profile) (c : Connection) (command : SubmitCommand) (urb : Urb)
    (device : UsbDevice) (host : Host) : Prop where
  returns : (handleUsbipCmdSubmit prof command.header command.transferBufferLength command.setup
    command.data device host).Returns
  length : ∀ (interface interface' : Interface) (address address' : UInt8) (m n : Nat)
    (answer : Except TransferError (List UInt8)),
    ⟨.maxPacketSize interface address, m⟩ ∈ submitExchanges prof command.header
      command.transferBufferLength command.setup command.data device host →
    ⟨.transferIn interface' address' n, answer⟩ ∈ submitExchanges prof command.header
      command.transferBufferLength command.setup command.data device host →
    transferLen command.transferBufferLength m = .ok n ∧
      requestedLen .dev command.transferBufferLength m = .ok n
  barrier : c.FlushedFor urb ∨ AnsweredWithFailure (handleUsbipCmdSubmit prof command.header
    command.transferBufferLength command.setup command.data device host)

/-- The endpoint cannot be opened by the handler either; or the buffer is not empty, there is one
    for the read, and either there is no OUT worker to be flushed or the host fails the read. -/
def Harmless (c : Connection) (command : SubmitCommand) (urb : Urb) (ep : UsbEndpoint)
    (intf : UsbInterface) (host : Host) : Prop :=
  (∃ e, host 0 (.openEndpoint intf.handler ep.attributes ep.address) = .error e) ∨
    (command.transferBufferLength ≠ 0 ∧ Readable command.transferBufferLength
        (host 1 (.maxPacketSize intf.handler ep.address))) ∧
      (c.outs (urb.ep &&& 0x7f) = none ∨
        host.ReadFails 2 intf.handler ep.address
          (wholePackets command.transferBufferLength.toNat
            (host 1 (.maxPacketSize intf.handler ep.address))))

section FallsBack

variable {command : SubmitCommand} {urb : Urb} {device : UsbDevice} {ep : UsbEndpoint}
  {intf : UsbInterface}

theorem FallsBack.direction (h : FallsBack c command urb device ep intf) : ep.direction = .in := by
  have hne : command.header.direction ≠ 0 := by
    rw [h.incoming]
    decide
  unfold UsbEndpoint.direction
  rw [UsbDevice.findEp_address h.found, if_pos (realEp_in hne)]

/-- An endpoint with an interface is not endpoint 0. -/
theorem FallsBack.ordinary (h : FallsBack c command urb device ep intf) :
    requiresBulkOutControlBarrier (realEp command.header) = false := by
  obtain ⟨hin, hout⟩ := UsbDevice.findEp_zero h.ep0
  have hfound := h.found
  apply decide_eq_false
  rintro (hzero | hzero)
  · rw [hzero, hout] at hfound
    cases hfound
  · rw [hzero, hin] at hfound
    cases hfound

/-- **The handler passes no barrier**: with an OUT worker for the endpoint, the URB is executed
    without a flush that was sent after it came. -/
theorem FallsBack.flushedFor_iff (h : FallsBack c command urb device ep intf) (hs : Standing c) :
    c.FlushedFor urb ↔ c.outs (urb.ep &&& 0x7f) = none := by
  constructor
  · intro hflushed
    cases ho : c.outs (urb.ep &&& 0x7f) with
    | none => rfl
    | some o =>
      obtain ⟨sender, hanswer, hlt⟩ := hflushed o ho
      obtain ⟨-, -, hsent⟩ := hs.served command urb [] none h.serving h.incoming h.ordinary
      exact absurd ((hsent o ho).answers sender _ hanswer) (Nat.not_le.mpr hlt)
  · intro hnone o ho
    cases hnone.symm.trans ho

/-- An endpoint that the handler cannot open fails the URB, and nothing is read. -/
theorem FallsBack.asWorker_of_unopened (hf : FallsBack c command urb device ep intf) {host : Host}
    {e : UsbError}
    (hopen : host 0 (.openEndpoint intf.handler ep.attributes ep.address) = .error e) :
    AsWorker prof c command urb device host := by
  obtain ⟨hout, hex⟩ :=
    bulkIn_unopened prof command.transferBufferLength command.data hf.direction hopen
  have hfailed := handleUsbipCmdSubmit_failed hf.found hf.bulk command.transferBufferLength
    command.setup command.data hout
  refine ⟨hfailed.returns, ?_, Or.inr hfailed⟩
  intro interface interface' address address' m n answer hm hn
  rw [submitExchanges_bulk hf.found hf.bulk, hex] at hn
  cases List.mem_singleton.mp hn

/-- With the endpoint open and a buffer to read into, what is left to the host is whether the read
    fails: a read that does not fail needs its flush. -/
theorem FallsBack.asWorker_iff_of_opened (hf : FallsBack c command urb device ep intf)
    {host : Host} {v : Unit} {requested : Nat}
    (hopen : host 0 (.openEndpoint intf.handler ep.attributes ep.address) = .ok v)
    (hlen : requestedBuffer prof command.transferBufferLength
      (host 1 (.maxPacketSize intf.handler ep.address)) = .ok requested) :
    AsWorker prof c command urb device host ↔
      c.FlushedFor urb ∨ host.ReadFails 2 intf.handler ep.address requested := by
  have hdir := hf.direction
  obtain ⟨hout, -⟩ := bulkIn_read prof command.transferBufferLength command.data hdir hopen hlen
  -- Whether the URB fails is up to the host.
  rcases @bulkRead_outcome intf.handler ep host 2 requested with ⟨hfails, e, he⟩ | ⟨hok, buf, hbuf⟩
  · have hfailed := handleUsbipCmdSubmit_failed hf.found hf.bulk command.transferBufferLength
      command.setup command.data (hout.trans he)
    refine iff_of_true ⟨hfailed.returns, ?_, Or.inr hfailed⟩ (Or.inr hfails)
    intro _ _ _ _ _ _ _ hpacket hread
    exact reads_as_worker hf.found hf.bulk _ _ _ hdir hopen hlen hpacket hread
  · obtain ⟨response, hreply, hstatus⟩ := handleUsbipCmdSubmit_performed hf.found hf.bulk
      command.transferBufferLength command.setup command.data (hout.trans hbuf)
    constructor
    · intro h
      refine h.barrier.imp id fun hfailed => ?_
      obtain ⟨response', status, hreply', hstatus', hne⟩ := hfailed
      cases hreply.symm.trans hreply'
      cases hstatus.symm.trans hstatus'
      exact absurd rfl hne
    · intro h
      refine ⟨?_, ?_, Or.inl (h.resolve_right hok)⟩
      · rw [hreply]
        trivial
      · intro _ _ _ _ _ _ _ hpacket hread
        exact reads_as_worker hf.found hf.bulk _ _ _ hdir hopen hlen hpacket hread

/-- Without a buffer for the read there is no reply. -/
theorem FallsBack.not_asWorker_of_panics (hf : FallsBack c command urb device ep intf)
    {host : Host} {v : Unit}
    (hopen : host 0 (.openEndpoint intf.handler ep.attributes ep.address) = .ok v)
    (hpanic : requestedBuffer prof command.transferBufferLength
      (host 1 (.maxPacketSize intf.handler ep.address)) = .panic .arithmeticOverflow) :
    ¬ AsWorker prof c command urb device host := by
  intro h
  have hout :=
    bulkIn_panics prof command.transferBufferLength command.data hf.direction hopen hpanic
  have hreturns := h.returns
  rw [handleUsbipCmdSubmit_panics hf.found hf.bulk command.transferBufferLength
    command.setup command.data hout] at hreturns
  exact hreturns

/-- **The fallback agrees with the worker exactly if it is harmless.** For every bulk-IN URB that
    the handler executes in a run of a connection, of whatever length, and for every host that
    gives packet sizes. -/
theorem fallback_asWorker_iff {acts : List Action} (hr : run (step prof) {} acts = some c)
    (hf : FallsBack c command urb device ep intf) {host : Host}
    (hsize : ∀ n interface address, (0 : Nat) < host n (.maxPacketSize interface address)) :
    AsWorker prof c command urb device host ↔ Harmless c command urb ep intf host := by
  have hs : Standing c := invariant_of_run (fun _ _ _ h => h.step) standing_init hr
  have hpositive := hsize 1 intf.handler ep.address
  cases hopen : host 0 (.openEndpoint intf.handler ep.attributes ep.address) with
  | error e => exact iff_of_true (hf.asWorker_of_unopened hopen) (Or.inl ⟨e, hopen⟩)
  | ok v =>
    have hopened : ¬ ∃ e, host 0 (.openEndpoint intf.handler ep.attributes ep.address) =
        .error e := by
      rintro ⟨e, he⟩
      cases hopen.symm.trans he
    unfold Harmless
    rw [or_iff_right hopened]
    by_cases hread : command.transferBufferLength ≠ 0 ∧ Readable command.transferBufferLength
        (host 1 (.maxPacketSize intf.handler ep.address))
    · have hlen : requestedBuffer prof _ _ = .ok _ := requestedBuffer_eq_ok.mpr ⟨hread, rfl⟩
      rw [hf.asWorker_iff_of_opened hopen hlen, hf.flushedFor_iff hs]
      exact (and_iff_right hread).symm
    · have hpanic : requestedBuffer prof _ _ = _ := requestedBuffer_panics hpositive.ne' hread
      exact iff_of_false (hf.not_asWorker_of_panics hopen hpanic) fun h => hread h.1

end FallsBack

/-- The port is imported, and the worker of its bulk-IN endpoint cannot open it. -/
def attachBroken (opens : UInt8 → Bool) : List Action :=
  [.importRequest, .importDone (.succeeded serialPort opens), .inOpened 0x81 none]

/-- A read of the given length. -/
def readCommand (transferBufferLength : UInt32) : SubmitCommand :=
  ⟨⟨1, 1, 0, 1, 1⟩, transferBufferLength, List.replicate 8 0, []⟩

theorem readyHost_packets (n : Nat) (interface : Interface) (address : UInt8) :
    (0 : Nat) < readyHost n (.maxPacketSize interface address) := by
  show 0 < 64
  decide

/-- A read without an OUT worker to wait for. -/
theorem fallback_asWorker_unpaired :
    ∃ c, run (step .dev) {} (attachBroken (fun _ => false) ++ [.submit (readCommand 64)]) = some c ∧
      AsWorker .dev c (readCommand 64) ⟨1, 1, 0x81⟩ serialPort readyHost := by
  obtain ⟨c, hr, houts, hf⟩ : ∃ c,
      run (step .dev) {} (attachBroken (fun _ => false) ++ [.submit (readCommand 64)]) = some c ∧
        c.outs 1 = none ∧ FallsBack c (readCommand 64) ⟨1, 1, 0x81⟩ serialPort
          { address := 0x81, attributes := 2 } dataInterface :=
    ⟨_, rfl, rfl, rfl, rfl, ⟨rfl, rfl⟩, rfl, rfl, rfl, _, rfl, rfl⟩
  have hread : (64 : UInt32) ≠ 0 ∧ Readable 64 64 := by decide
  exact ⟨c, hr, (fallback_asWorker_iff hr hf readyHost_packets).mpr
    (Or.inr ⟨hread, Or.inl houts⟩)⟩

/-- **An empty buffer makes the handler panic**, where the worker asks for a packet. -/
theorem fallback_not_always_asWorker :
    ¬ ∀ (prof : Profile) (acts : List Action) (c : Connection) (command : SubmitCommand)
      (urb : Urb) (device : UsbDevice) (ep : UsbEndpoint) (intf : UsbInterface) (host : Host),
      run (step prof) {} acts = some c → FallsBack c command urb device ep intf →
      (∀ n interface address, (0 : Nat) < host n (.maxPacketSize interface address)) →
      AsWorker prof c command urb device host := by
  intro h
  obtain ⟨c, hr, hf⟩ : ∃ c,
      run (step .dev) {} (attachBroken (fun _ => true) ++ [.submit (readCommand 0)]) = some c ∧
        FallsBack c (readCommand 0) ⟨1, 1, 0x81⟩ serialPort
          { address := 0x81, attributes := 2 } dataInterface :=
    ⟨_, rfl, rfl, rfl, ⟨rfl, rfl⟩, rfl, rfl, rfl, _, rfl, rfl⟩
  exact (h .dev _ c _ _ _ _ _ readyHost hr hf readyHost_packets).returns

end Connection
end Lusbip
