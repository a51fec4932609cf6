import Lusbip.Usb.ReplyLength
import Lusbip.Session.Outcomes
import Lusbip.Session.Replies

/-!
# The buffer of the client

A client allocates a buffer of `transfer_buffer_length` bytes for an IN URB, and takes a reply
that is longer for a fatal error. The server asks the device for more than that: a bulk read
is rounded up to whole packets, and a control request is answered by its `wLength` or with a
descriptor of the server's own. Whether a reply fits is then up to the device.

A state is *measured* when nothing the device may still return in it makes a reply too long.
`throughout_keeps_iff` says that this is exactly what it takes, for any limit on the payloads,
and `replies_fit_iff` is the case of the buffer length.
-/

namespace Lusbip

/-- A `RET_SUBMIT` that fits into the buffer of the client, with a payload of exactly the
    actual length. -/
def UsbIpResponse.Fits (transferBufferLength : UInt32) : UsbIpResponse → Prop
  | .usbIpRetSubmit _ _ actualLength _ _ _ transferBuffer _ =>
      actualLength ≤ transferBufferLength ∧ transferBuffer.length = actualLength.toNat
  | _ => False

/-- The device that a URB is executed on returns no more than it is asked for. -/
def Action.CallsAtMost (packetSize : Interface → UInt8 → Nat) : Action → Prop
  | .execute host => host.Obliging packetSize
  | _ => True

namespace Chronicle

open Lib.Transition

variable {prof : Profile} {torn : Urb → Nat} {packetSize : Interface → UInt8 → Nat}
  {s t : Chronicle} {a : Action}

/-! ## What was answered so far, and what may be answered next -/

/-- A response that waits in an event queue or has been written. -/
def Made (s : Chronicle) (urb : Urb) (response : UsbIpResponse) : Prop :=
  (∃ event ∈ s.conn.inEvents, event.urb = urb ∧ event.response = response) ∨
    (∃ event ∈ s.conn.outEvents, event.urb = urb ∧ event.response = response) ∨
    ∃ n source, .submit n urb source response ∈ s.conn.wire

/-- Every response to a URB is in the relation with its command. -/
def Responds (R : SubmitCommand → UsbIpResponse → Prop) (s : Chronicle) : Prop :=
  ∀ urb command response, (urb, command) ∈ s.submits → s.Made urb response → R command response

/-- An outstanding read completes with at most its length. -/
def ReadsAtMost (s : Chronicle) : Action → Prop
  | .inCompletion endpoint (.ok buffer) =>
      ∀ w ∈ s.conn.ins endpoint, ∃ n ∈ w.outstanding.head?, buffer.length ≤ n
  | _ => True

/-- The device returns no more than it is asked for. -/
def Obliging (packetSize : Interface → UInt8 → Nat) (s : Chronicle) (a : Action) : Prop :=
  s.ReadsAtMost a ∧ Action.CallsAtMost packetSize a

/-- The responses made so far are in the relation, and so are those made next, whatever the
    device returns. -/
structure Keeps (prof : Profile) (torn : Urb → Nat) (packetSize : Interface → UInt8 → Nat)
    (R : SubmitCommand → UsbIpResponse → Prop) (s : Chronicle) : Prop where
  now : Responds R s
  next : ∀ a t, Obliging packetSize s a → step prof torn s a = some t → Responds R t

/-- A limit on the payload of the reply to a URB, by its header and its buffer length. -/
abbrev PayloadLimit := UsbIpHeaderBasic → UInt32 → Option Nat

/-- Nothing the device may return makes a payload exceed its limit: an outstanding read is no
    longer than the limit of the URB that its completion answers, and neither is what a URB
    that is about to be executed can be answered with. -/
structure Measured (prof : Profile) (packetSize : Interface → UInt8 → Nat)
    (limit : PayloadLimit) (s : Chronicle) : Prop where
  reads : ∀ ep w, s.conn.ins ep = some w → w.phase = .reading →
    ∀ request ∈ w.activeRequest, ∀ n ∈ w.outstanding.head?,
      ∀ max ∈ limit request.header request.transferBufferLength, n ≤ max
  urbs : ∀ command urb device, s.conn.phase = .serving command urb [] none →
    s.conn.device = some device →
      ∀ max ∈ limit command.header command.transferBufferLength,
        device.RepliesAtMost prof packetSize command.header command.transferBufferLength
          command.setup max

/-- A reply of the right shape whose payload is within the limit. -/
def Within (limit : PayloadLimit) (command : SubmitCommand) (response : UsbIpResponse) : Prop :=
  response.Replies command.header ∧
    ∀ max ∈ limit command.header command.transferBufferLength, response.payload.length ≤ max

variable {limit : PayloadLimit}

theorem admits_within : Admits (Within limit) := by
  refine ⟨fun command => ⟨UsbIpResponse.replies_fail _, fun _ _ => Nat.zero_le _⟩,
    fun command hdir => ⟨⟨0, _, [], rfl, fun h => absurd hdir h⟩, fun _ _ => Nat.zero_le _⟩⟩

theorem Traced.responds {R : SubmitCommand → UsbIpResponse → Prop} (h : Traced R s)
    (hd : Dated s) : Responds R s := by
  have hanswers : ∀ {urb command response direction}, (urb, command) ∈ s.submits →
      Answers R s.submits urb direction response → R command response := by
    intro urb command response direction hm ha
    obtain ⟨command', hm', hR, -⟩ := ha
    rwa [hd.unique hm hm']
  intro urb command response hm hmade
  rcases hmade with ⟨event, he, rfl, rfl⟩ | ⟨event, he, rfl, rfl⟩ | ⟨n, source, hr⟩
  · exact hanswers hm (h.inEvents event he)
  · exact hanswers hm (h.outEvents event he)
  · exact hanswers hm (h.wire n urb source response hr)

theorem step_inCompletion (prof : Profile) (torn : Urb → Nat) {endpoint : UInt8} {w : InWorker}
    (hw : s.conn.ins endpoint = some w) (hphase : w.phase = .reading)
    (result : Except TransferError (List UInt8)) :
    ∃ t, step prof torn s (.inCompletion endpoint result) = some t ∧
      t.submits = s.submits ∧ t.conn.inEvents = s.conn.inEvents ++ (w.complete result).2 := by
  have hmove : s.conn.step prof (.inCompletion endpoint result) =
      some { s.conn with
        ins := Function.update s.conn.ins endpoint (some (w.complete result).1)
        inEvents := s.conn.inEvents ++ (w.complete result).2 } := by
    show s.conn.moveIn endpoint (.completion result) = _
    rw [Connection.moveIn, hw]
    show (w.step (.completion result) >>= _) = _
    rw [InWorker.step, if_pos hphase]
    rfl
  exact ⟨_, Option.map_eq_some_iff.mpr ⟨_, hmove, rfl⟩, List.append_nil _, rfl⟩

theorem step_execute (torn : Urb → Nat) {command : SubmitCommand} {urb : Urb} {device : UsbDevice}
    {host : Host} {response : UsbIpResponse} (hphase : s.conn.phase = .serving command urb [] none)
    (hdevice : s.conn.device = some device)
    (hresponse : handleUsbipCmdSubmit prof command.header command.transferBufferLength
      command.setup command.data device host = .ok response) :
    ∃ t, step prof torn s (.execute host) = some t ∧ t.submits = s.submits ∧
      .submit s.conn.session urb .handler response ∈ t.conn.wire := by
  have hstep : s.conn.step prof (.execute host) =
      some (s.conn.execute prof command urb device host) := by
    unfold Connection.step
    rw [hphase]
    dsimp only
    rw [hdevice]
    rfl
  refine ⟨_, Option.map_eq_some_iff.mpr ⟨_, hstep, rfl⟩, List.append_nil _, ?_⟩
  unfold Connection.execute
  dsimp only
  rw [hresponse]
  exact List.mem_append_right _ List.mem_cons_self

/-- A worker takes a completion only while its read is under way. -/
theorem reading_of_step {endpoint : UInt8} {result : Except TransferError (List UInt8)}
    (ht : step prof torn s (.inCompletion endpoint result) = some t) :
    ∃ w, s.conn.ins endpoint = some w ∧ w.phase = .reading := by
  obtain ⟨c, hc, -⟩ := Option.map_eq_some_iff.mp ht
  obtain ⟨w, hw, hc⟩ := Option.bind_eq_some_iff.mp
    (show s.conn.moveIn endpoint (.completion result) = some c from hc)
  obtain ⟨⟨w', events⟩, hp, -⟩ := Option.bind_eq_some_iff.mp hc
  cases InWorker.step_turn hp with
  | completed result hphase => exact ⟨w, hw, hphase⟩

/-- In a measured state, an obliging device makes no response too long. -/
theorem Measured.makes (h : Measured prof packetSize limit s) (ha : Obliging packetSize s a)
    (ht : step prof torn s a = some t) : Makes (Within limit) prof s a := by
  cases a with
  | inCompletion endpoint result =>
    cases result with
    | error err => trivial
    | ok buffer =>
      intro w hw request hr command hheader hdir hlen
      obtain ⟨w', hw', hphase⟩ := reading_of_step ht
      obtain rfl : w = w' := Option.some.inj (hw.symm.trans hw')
      obtain ⟨n, hn, hle⟩ := ha.1 w hw
      refine ⟨?_, fun max hmax => ?_⟩
      · rw [← hheader]
        exact UsbIpResponse.replies_success _ _
      · rw [hheader, hlen] at hmax
        exact hle.trans (h.reads endpoint w hw hphase request hr n hn max hmax)
  | execute host =>
    intro command urb device response hphase hdevice hresponse
    refine ⟨UsbDevice.handleUsbipCmdSubmit_replies hresponse, fun max hmax => ?_⟩
    exact (UsbDevice.handleUsbipCmdSubmit_atMost_iff command.data).mpr
      (h.urbs command urb device hphase hdevice max hmax) host ha.2 response hresponse
  | _ => trivial

/-! ## What the device can do to a state that is not measured -/

/-- The relations that limit the payload of what has the right shape. -/
def Limits (limit : PayloadLimit) (R : SubmitCommand → UsbIpResponse → Prop) : Prop :=
  ∀ command response, response.Replies command.header →
    (R command response ↔
      ∀ max ∈ limit command.header command.transferBufferLength, response.payload.length ≤ max)

theorem Keeps.measured {R : SubmitCommand → UsbIpResponse → Prop}
    (h : Keeps prof torn packetSize R s) (hR : Limits limit R)
    (htraced : Traced (fun _ _ => True) s) : Measured prof packetSize limit s := by
  constructor
  · intro ep w hw hphase request hr n hn max hmax
    obtain ⟨t, ht, hsub, hevents⟩ :=
      step_inCompletion prof torn hw hphase (.ok (List.replicate n 0))
    have hobliging : Obliging packetSize s (.inCompletion ep (.ok (List.replicate n 0))) := by
      refine ⟨fun w' hw' => ?_, trivial⟩
      obtain rfl : w = w' := Option.some.inj (hw.symm.trans hw')
      exact ⟨n, hn, (List.length_replicate).le⟩
    obtain ⟨-, -, seqnum, hev⟩ := InWorker.complete_of_some hr (.ok (List.replicate n 0))
    obtain ⟨-, -, command, hm, hheader, hlen, -⟩ :=
      htraced.ins ep w hw request (InWorker.holds_of_activeRequest hr)
    have hmade : t.Made request.urb (InWorker.completionResponse (.ok (List.replicate n 0))
        (bulkInResponseHeader request.header)) := by
      have hmem : w.answer seqnum request (InWorker.completionResponse (.ok (List.replicate n 0)))
          ∈ t.conn.inEvents := by
        rw [hevents, hev]
        exact List.mem_append_right _ List.mem_cons_self
      exact Or.inl ⟨_, hmem, rfl, rfl⟩
    have hresp := h.next _ t hobliging ht request.urb command _ (hsub ▸ hm) hmade
    rw [← hheader, ← hlen] at hmax
    have hle := (hR command _ (hheader ▸ UsbIpResponse.replies_success _ _)).mp hresp max hmax
    rwa [show UsbIpResponse.payload _ = List.replicate n 0 from rfl, List.length_replicate] at hle
  · intro command urb device hphase hdevice max hmax
    refine (UsbDevice.handleUsbipCmdSubmit_atMost_iff command.data).mp
      fun host hhost response hresponse => ?_
    obtain ⟨t, ht, hsub, hwire⟩ :=
      step_execute torn hphase hdevice hresponse
    have hm : (urb, command) ∈ t.submits := hsub ▸ htraced.serving command urb [] none hphase
    have hresp := h.next (.execute host) t ⟨trivial, hhost⟩ ht urb command response hm
      (Or.inr (Or.inr ⟨_, _, hwire⟩))
    exact (hR command response (UsbDevice.handleUsbipCmdSubmit_replies hresponse)).mp hresp max hmax

/-- **Payloads stay within a limit** in exactly those runs that visit measured states only. -/
theorem throughout_keeps_iff {R : SubmitCommand → UsbIpResponse → Prop} (hR : Limits limit R)
    {acts : List Action} (hd : Along (step prof torn) (Obliging packetSize) {} acts) :
    Throughout (step prof torn) (Keeps prof torn packetSize R) {} acts ↔
      Throughout (step prof torn) (Measured prof packetSize limit) {} acts := by
  constructor
  · refine Throughout.imp (I := Traced fun _ _ => True) (fun s a t h _ _ ht => ?_)
      (fun s h hk => hk.measured hR h) traced_init hd
    exact h.step admits_true (makes_true prof s a) ht
  · refine Throughout.imp (I := fun s => Traced (Within limit) s ∧ Dated s)
      (fun s a t h hm ha ht => ⟨h.1.step admits_within (hm.makes ha ht) ht, h.2.step ht⟩)
      (fun s h hm => ?_) ⟨traced_init, dated_init⟩ hd
    have hwithin : ∀ {t}, Traced (Within limit) t → Dated t → Responds R t := by
      intro t htraced hdated urb command response hsub hmade
      obtain ⟨hreplies, hle⟩ := htraced.responds hdated urb command response hsub hmade
      exact (hR command response hreplies).mpr hle
    refine ⟨hwithin h.1 h.2, fun a t ha ht => ?_⟩
    exact hwithin (h.1.step admits_within (hm.makes ha ht) ht) (h.2.step ht)

/-! ## The buffer of an IN URB -/

/-- The reply to an IN URB fits into its buffer. -/
def FitsBuffer (command : SubmitCommand) (response : UsbIpResponse) : Prop :=
  command.header.direction = 1 → response.Fits command.transferBufferLength

def bufferLimit : PayloadLimit := fun header transferBufferLength =>
  if header.direction = 1 then some transferBufferLength.toNat else none

theorem limits_fitsBuffer : Limits bufferLimit FitsBuffer := by
  intro command response hreplies
  obtain ⟨status, actualLength, payload, rfl, hlen⟩ := hreplies
  unfold FitsBuffer bufferLimit UsbIpResponse.Fits
  by_cases hdir : command.header.direction = 1
  · have hactual := hlen (by rw [hdir]; decide)
    simp only [hdir, if_true, forall_const, Option.mem_some_iff, forall_eq', UsbIpResponse.payload]
    rw [hactual, UInt32.le_iff_toNat_le, UInt32.toNat_ofNat']
    have hlt := command.transferBufferLength.toNat_lt
    constructor
    · intro h
      omega
    · intro h
      rw [Nat.mod_eq_of_lt (by omega)]
      exact ⟨h, rfl⟩
  · simp [hdir]

/-- **Replies fit their buffers** in exactly those runs that visit measured states only,
    whatever an obliging device returns. -/
theorem replies_fit_iff (prof : Profile) (torn : Urb → Nat)
    (packetSize : Interface → UInt8 → Nat) (acts : List Action)
    (hd : Along (step prof torn) (Obliging packetSize) {} acts) :
    Throughout (step prof torn) (Keeps prof torn packetSize FitsBuffer) {} acts ↔
      Throughout (step prof torn) (Measured prof packetSize bufferLimit) {} acts :=
  throughout_keeps_iff limits_fitsBuffer hd

/-! ## A read of one byte -/

instance (transferBufferLength : UInt32) :
    ∀ response : UsbIpResponse, Decidable (response.Fits transferBufferLength)
  | .usbIpRetSubmit _ _ actualLength _ _ _ transferBuffer _ =>
      inferInstanceAs (Decidable (actualLength ≤ transferBufferLength ∧
        transferBuffer.length = actualLength.toNat))
  | .opRepDevlist _ _ _ | .opRepImport _ _ | .usbIpRetUnlink _ _ => isFalse id

instance (s : Chronicle) : ∀ a : Action, Decidable (s.ReadsAtMost a)
  | .inCompletion endpoint (.ok buffer) =>
      inferInstanceAs (Decidable (∀ w ∈ s.conn.ins endpoint,
        ∃ n ∈ w.outstanding.head?, buffer.length ≤ n))
  | .inCompletion _ (.error _) | .submit _ | .unlink _ _ | .importRequest | .shutdownSent _
  | .importDone _ | .deliverIn | .deliverOut | .controlFlush _ | .controlResult | .execute _
  | .inFlush _ | .inBarrier _ | .inOpened _ _ | .inCommand _ | .outMove _ _ => isTrue trivial

/-- A client reads `len` bytes from a bulk endpoint, and the device returns `n`. -/
def readBytes (len : UInt32) (n : Nat) : List Action :=
  Connection.attach ++
    [.submit ⟨⟨1, 1, 0, 1, 1⟩, len, List.replicate 8 0, []⟩] ++ Connection.startRead ++
    [.inCompletion 0x81 (.ok (List.replicate n 0))]

theorem readBytes_obliging (len : UInt32) (n : Nat)
    (h : Along (step .release fun _ => 0) ReadsAtMost {} (readBytes len n)) :
    Along (step .release fun _ => 0) (Obliging fun _ _ => 64) {} (readBytes len n) := by
  have hcalls : ∀ a ∈ readBytes len n, Action.CallsAtMost (fun _ _ => 64) a := by
    intro a ha
    simp only [readBytes, Connection.attach, Connection.startRead, List.cons_append,
      List.nil_append, List.mem_cons, List.not_mem_nil, or_false] at ha
    rcases ha with rfl | rfl | rfl | rfl | rfl | rfl | rfl | rfl | rfl <;> trivial
  exact Along.and h (along_of_mem hcalls _)

/-- A read of whole packets fits. -/
theorem readPacket_fits :
    Throughout (step .release fun _ => 0)
        (Keeps .release (fun _ => 0) (fun _ _ => 64) FitsBuffer) {} (readBytes 64 64) ↔
      Throughout (step .release fun _ => 0)
        (Measured .release (fun _ _ => 64) bufferLimit) {} (readBytes 64 64) :=
  replies_fit_iff .release (fun _ => 0) (fun _ _ => 64) (readBytes 64 64)
    (readBytes_obliging 64 64 (by decide +kernel))

/-- **A read of one byte may be answered with a whole packet**: the read that is submitted
    for it is 64 bytes long. -/
theorem readByte_does_not_fit :
    ¬ ∀ prof torn packetSize acts, Along (step prof torn) (Obliging packetSize) {} acts →
      Throughout (step prof torn) (Keeps prof torn packetSize FitsBuffer) {} acts := by
  intro h
  have hrun : ((run (step .release fun _ => 0) {} (readBytes 1 64)).any fun t =>
      t.conn.inEvents.any fun event => t.submits.any fun p =>
        decide (p.1 = event.urb ∧ p.2.header.direction = 1 ∧
          ¬ event.response.Fits p.2.transferBufferLength)) = true := by decide +kernel
  obtain ⟨t, ht, hevents⟩ := (Option.any_eq_true _ _).mp hrun
  obtain ⟨event, he, hsubmits⟩ := List.any_eq_true.mp hevents
  obtain ⟨⟨urb, command⟩, hm, hp⟩ := List.any_eq_true.mp hsubmits
  obtain ⟨rfl, hdir, hnot⟩ := of_decide_eq_true hp
  have hkeeps := (h .release (fun _ => 0) (fun _ _ => 64) (readBytes 1 64)
    (readBytes_obliging 1 64 (by decide +kernel))).of_run ht
  exact hnot (hkeeps.now event.urb command event.response hm (Or.inl ⟨event, he, rfl, rfl⟩) hdir)

end Chronicle
end Lusbip
