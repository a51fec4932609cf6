import Lusbip.Usb.Responses
import Lusbip.Session.ReplyBounds
import Lusbip.Session.Workers

/-!
# The stream of replies

One byte too many behind a `RET_SUBMIT` and the client reads every later reply from the wrong
place. Whether a URB is an IN or an OUT URB is decided three times over: by the header of its
command, by the address of its endpoint, and for a control request by the direction bit of the
setup packet. A reply is in step when they agree, and `replies_inStep_iff` says in which runs
all of them are. In those a client that knows the direction of its sequence numbers splits the
stream into the replies that were written.

The workers are never out of step: a write is answered without a payload, and a read with less
than the 2^32 bytes that `actual_length` could not give, since there is no buffer for more.
-/

namespace Lusbip

namespace Connection

variable {prof : Profile} {c t : Connection} {a : Action}

/-- The reads outstanding are for less than 2^32 bytes. -/
def Buffered (c : Connection) : Prop :=
  ∀ ep w, c.ins ep = some w → ∀ n ∈ w.outstanding, n < 2 ^ 32

theorem buffered_init : Buffered {} := fun _ _ h => nomatch h

theorem Buffered.step (h : Buffered c) (he : Effect prof c a t) : Buffered t := by
  intro ep w hw n hn
  cases he.in hw with
  | started device opens ha hp w hw =>
    obtain ⟨-, rfl⟩ := startBulkInWorkers_eq_some.mp hw
    cases hn
  | kept w hw => exact h ep w hw n hn
  | told w command hw' hc => exact h ep w hw' n hn
  | flushing w seqnum len hw' ha hp => exact h ep w hw' n hn
  | moved w w' move events hw' ha hs hb =>
    exact (InWorker.step_outstanding hs n hn).elim (h ep w hw' n) id

end Connection

namespace Chronicle

open Lib Lib.Transition

/-- The commands of a client that keeps to the protocol: a direction, and an endpoint number of
    four bits. -/
def Regular (header : UsbIpHeaderBasic) : Prop :=
  (header.direction = 0 ∨ header.direction = 1) ∧ header.ep ≤ 15

instance (header : UsbIpHeaderBasic) : Decidable (Regular header) :=
  inferInstanceAs (Decidable (_ ∧ _))

def ReplyInStep (prof : Profile) (command : SubmitCommand) (response : UsbIpResponse) : Prop :=
  Regular command.header → response.InStep prof command.header.direction

/-- The payload of an IN URB has a length that its `actual_length` can give, and an OUT URB has
    no payload. -/
def directionLimit : PayloadLimit := fun header _ =>
  if Regular header then
    if header.direction = 1 then some (2 ^ 32 - 1) else some 0
  else none

theorem limits_replyInStep (prof : Profile) : Limits directionLimit (ReplyInStep prof) := by
  intro command response hreplies
  unfold ReplyInStep directionLimit
  by_cases hreg : Regular command.header
  · rw [hreplies.inStep_iff]
    rcases hreg.1 with hdir | hdir
    · simp [hreg, hdir]
    · simp [hreg, hdir]
  · simp [hreg]

/-- The `RET_SUBMIT`s that have been written. -/
def retSubmits (s : Chronicle) : List UsbIpResponse :=
  s.conn.wire.filterMap fun
    | .submit _ _ _ response => some response
    | _ => none

/-- A client that knows the directions of its sequence numbers splits the stream of the
    `RET_SUBMIT`s into the replies written. -/
def Splits (prof : Profile) (s : Chronicle) : Prop :=
  ∀ direction : UInt32 → UInt32,
    (∀ p ∈ s.submits, Regular p.2.header ∧ direction p.2.header.seqnum = p.2.header.direction) →
    ∃ chunks, s.retSubmits.mapM (·.toBytes prof) = .ok chunks ∧
      Reader.frames (readRetSubmit direction) chunks.flatten = (s.retSubmits, none)

variable {prof : Profile} {torn : Urb → Nat} {packetSize : Interface → UInt8 → Nat}
  {s t : Chronicle} {a : Action}

theorem Traced.splits (h : Traced (Within directionLimit) s) : Splits prof s := by
  intro direction hknown
  refine frames_replies fun response hr => ?_
  obtain ⟨reply, hreply, heq⟩ := List.mem_filterMap.mp hr
  cases reply with
  | submit n urb source response' =>
    cases heq
    obtain ⟨command, hm, hwithin, -⟩ := h.wire n urb source response hreply
    obtain ⟨hreg, hdir⟩ := hknown _ hm
    exact hwithin.1.reads hdir hreg.1
      ((limits_replyInStep prof command response hwithin.1).mpr hwithin.2 hreg)
  | imported n response' => cases heq
  | unlink n seqnum response' => cases heq

/-- Whatever the device returns, the URB that is about to be executed is answered in step. -/
def ServesInStep (prof : Profile) (packetSize : Interface → UInt8 → Nat) (s : Chronicle) : Prop :=
  ∀ command urb device, s.conn.phase = .serving command urb [] none →
    s.conn.device = some device →
      ∀ max ∈ directionLimit command.header command.transferBufferLength,
        device.RepliesAtMost prof packetSize command.header command.transferBufferLength
          command.setup max

/-- The requests at the IN workers are for IN URBs. -/
theorem directionLimit_of_request (h : Traced (fun _ _ => True) s) {ep : UInt8} {w : InWorker}
    (hw : s.conn.ins ep = some w) {request : BulkInRequest} (hr : w.Holds request) {max : Nat}
    (hmax : max ∈ directionLimit request.header request.transferBufferLength) :
    max = 2 ^ 32 - 1 := by
  obtain ⟨-, -, command, -, hheader, -, hdir⟩ := h.ins ep w hw request hr
  rw [hheader] at hdir
  rw [directionLimit, if_pos hdir] at hmax
  split at hmax
  · exact (Option.some.inj hmax).symm
  · cases hmax

/-- **Only what the handler executes can be out of step.** -/
theorem measured_directionLimit_iff (h : Traced (fun _ _ => True) s) (hb : s.conn.Buffered) :
    Measured prof packetSize directionLimit s ↔ ServesInStep prof packetSize s := by
  refine ⟨fun hm => hm.urbs, fun hserves => ⟨?_, hserves⟩⟩
  intro ep w hw hphase request hr n hn max hmax
  have hlt := hb ep w hw n (List.mem_of_mem_head? hn)
  rw [directionLimit_of_request h hw (InWorker.holds_of_activeRequest hr) hmax]
  exact Nat.le_sub_one_of_lt hlt

theorem throughout_measured_iff {acts : List Action} :
    Throughout (step prof torn) (Measured prof packetSize directionLimit) {} acts ↔
      Throughout (step prof torn) (ServesInStep prof packetSize) {} acts := by
  have hinvariant : ∀ s a t, Traced (fun _ _ => True) s ∧ s.conn.Buffered →
      step prof torn s a = some t → Traced (fun _ _ => True) t ∧ t.conn.Buffered :=
    fun s a t h ht => ⟨h.1.step admits_true (makes_true prof s a) ht, h.2.step (step_eq_some ht).1⟩
  have hall : Along (step prof torn) (fun _ _ => True) {} acts :=
    along_of_forall (fun _ _ => trivial) _ _
  constructor
  · exact Throughout.imp (fun s a t h _ _ ht => hinvariant s a t h ht)
      (fun s h hm => (measured_directionLimit_iff h.1 h.2).mp hm)
      ⟨traced_init, Connection.buffered_init⟩ hall
  · exact Throughout.imp (fun s a t h _ _ ht => hinvariant s a t h ht)
      (fun s h hm => (measured_directionLimit_iff h.1 h.2).mpr hm)
      ⟨traced_init, Connection.buffered_init⟩ hall

/-- **Replies stay in step with the client** in exactly those runs in which the handler serves
    in step, and its stream of replies is then split as it was written. -/
theorem replies_inStep_iff (prof : Profile) (torn : Urb → Nat)
    (packetSize : Interface → UInt8 → Nat) (acts : List Action)
    (hd : Along (step prof torn) (Obliging packetSize) {} acts) :
    (Throughout (step prof torn) (Keeps prof torn packetSize (ReplyInStep prof)) {} acts ↔
        Throughout (step prof torn) (ServesInStep prof packetSize) {} acts) ∧
      (Throughout (step prof torn) (ServesInStep prof packetSize) {} acts →
        Throughout (step prof torn) (Splits prof) {} acts) := by
  rw [← throughout_measured_iff]
  refine ⟨throughout_keeps_iff (limits_replyInStep prof) hd, fun h => ?_⟩
  refine Throughout.imp (I := Traced (Within directionLimit)) (fun s a t htraced hm ha ht => ?_)
    (fun s htraced _ => htraced.splits) traced_init hd h
  exact htraced.step admits_within (hm.makes ha ht) ht

/-! ## An OUT URB with a payload -/

/-- A client sets the configuration of a device, with a buffer of `wLength` bytes. -/
def configure (wLength : UInt8) : List Action :=
  [.importRequest, .importDone (.succeeded Connection.serialPort fun _ => false),
    .submit ⟨⟨1, 1, 0, 0, 0⟩, wLength.toUInt32, [0x00, 0x09, 1, 0, 0, 0, wLength, 0],
      List.replicate wLength.toNat 0⟩,
    .execute Host.disconnected]

theorem configure_obliging (wLength : UInt8) :
    Along (step .release fun _ => 0) (Obliging fun _ _ => 64) {} (configure wLength) := by
  have hall : ∀ a ∈ configure wLength, ∀ s, Obliging (fun _ _ => 64) s a := by
    intro a ha s
    simp only [configure, List.mem_cons, List.not_mem_nil, or_false] at ha
    rcases ha with rfl | rfl | rfl | rfl
    · exact ⟨trivial, trivial⟩
    · exact ⟨trivial, trivial⟩
    · exact ⟨trivial, trivial⟩
    · exact ⟨trivial, Host.disconnected_obliging⟩
  exact Along.imp (I := fun _ => True) (fun _ _ _ _ _ => trivial) (fun s a _ h => h s) trivial
    (along_of_mem hall _)

/-- A configuration is set as the standard has it, without a data stage. -/
theorem configure_inStep :
    (Throughout (step .release fun _ => 0)
        (Keeps .release (fun _ => 0) (fun _ _ => 64) (ReplyInStep .release)) {} (configure 0) ↔
      Throughout (step .release fun _ => 0)
        (ServesInStep .release fun _ _ => 64) {} (configure 0)) ∧
      (Throughout (step .release fun _ => 0)
        (ServesInStep .release fun _ _ => 64) {} (configure 0) →
        Throughout (step .release fun _ => 0) (Splits .release) {} (configure 0)) :=
  replies_inStep_iff .release (fun _ => 0) (fun _ _ => 64) (configure 0) (configure_obliging 0)

/-- **An OUT URB may be answered with a payload**: the arm of `SET_CONFIGURATION` returns the
    configuration value when the setup packet asks for a byte. -/
theorem configureWithData_not_inStep :
    ¬ ∀ prof torn packetSize acts, Along (step prof torn) (Obliging packetSize) {} acts →
      Throughout (step prof torn) (Keeps prof torn packetSize (ReplyInStep prof)) {} acts := by
  intro h
  have hrun : ((run (step .release fun _ => 0) {} (configure 1)).any fun t =>
      t.conn.wire.any fun reply => match reply with
        | .submit _ urb _ response => t.submits.any fun p =>
            decide (p.1 = urb ∧ Regular p.2.header ∧ p.2.header.direction = 0 ∧
              response.payload ≠ [])
        | _ => false) = true := by decide +kernel
  obtain ⟨t, ht, hwire⟩ := (Option.any_eq_true _ _).mp hrun
  obtain ⟨reply, hreply, hsubmits⟩ := List.any_eq_true.mp hwire
  cases reply with
  | submit n urb source response =>
    obtain ⟨⟨urb', command⟩, hm, hp⟩ := List.any_eq_true.mp hsubmits
    obtain ⟨rfl, hreg, hdir, hne⟩ := of_decide_eq_true hp
    have hkeeps := (h .release (fun _ => 0) (fun _ _ => 64) (configure 1)
      (configure_obliging 1)).of_run ht
    obtain ⟨-, -, -, -, hzero⟩ :=
      hkeeps.now urb' command response hm (Or.inr (Or.inr ⟨n, source, hreply⟩)) hreg
    exact hne (hzero hdir)
  | imported n response => cases hsubmits
  | unlink n seqnum response => cases hsubmits

end Chronicle
end Lusbip
