import Lusbip.Lib.Transition
import Lusbip.Session.BulkInBooks
import Lusbip.Session.Effect

/-!
# Outcomes on the wire

What the client sees of a URB is written on the wire: a `RET_SUBMIT`, or a `RET_UNLINK` with
status 0. Which of the two a sequence number got, and in which session, is read off here; so is
what a command does to the numbers that a worker holds.

At the end stand the device and the commands that the runs of the later modules are made of.
-/

namespace Lusbip

open Lib.Transition

/-! ## What is on the wire -/

def Reply.session : Reply → Nat
  | .imported session _ => session
  | .submit session _ _ _ => session
  | .unlink session _ _ => session

/-- The sequence number a reply is a `RET_SUBMIT` for. -/
def Reply.submitSeqnum? : Reply → Option UInt32
  | .submit _ _ _ response => response.submitSeqnum?
  | _ => none

/-- A `RET_UNLINK` with status 0 was written for the sequence number in the session. -/
def Unlinked (wire : List Reply) (session : Nat) (seqnum : UInt32) : Prop :=
  ∃ response, .unlink session seqnum response ∈ wire ∧ response.unlinkStatus? = some 0

/-- A `RET_SUBMIT` was written for the sequence number in the session. -/
def Answered (wire : List Reply) (session : Nat) (seqnum : UInt32) : Prop :=
  ∃ reply ∈ wire, reply.session = session ∧ reply.submitSeqnum? = some seqnum

namespace Connection

variable {prof : Profile} {c t : Connection} {a : Action}

/-! ## Replies -/

section Replies

variable {wire : List Reply} {session n : Nat} {seqnum s : UInt32} {reply : Reply}
variable {response : UsbIpResponse}

theorem unlinked_append_submit {urb : Urb} {source : Source} :
    Unlinked (wire ++ [.submit session urb source response]) n s ↔ Unlinked wire n s := by
  simp [Unlinked]

theorem unlinked_append_imported :
    Unlinked (wire ++ [.imported session response]) n s ↔ Unlinked wire n s := by
  simp [Unlinked]

theorem unlinked_append_unlink :
    Unlinked (wire ++ [.unlink session seqnum response]) n s ↔
      Unlinked wire n s ∨ (n = session ∧ s = seqnum ∧ response.unlinkStatus? = some 0) := by
  constructor
  · rintro ⟨r, hr, hs⟩
    rcases List.mem_append.mp hr with hr | hr
    · exact Or.inl ⟨r, hr, hs⟩
    · obtain ⟨rfl, rfl, rfl⟩ := Reply.unlink.inj (List.mem_singleton.mp hr)
      exact Or.inr ⟨rfl, rfl, hs⟩
  · rintro (⟨r, hr, hs⟩ | ⟨rfl, rfl, hs⟩)
    · exact ⟨r, List.mem_append_left _ hr, hs⟩
    · exact ⟨response, List.mem_append_right _ List.mem_cons_self, hs⟩

theorem answered_append (h : Answered (wire ++ [reply]) n s) :
    Answered wire n s ∨ (reply.session = n ∧ reply.submitSeqnum? = some s) := by
  obtain ⟨r, hr, hn, hs⟩ := h
  rcases List.mem_append.mp hr with hr | hr
  · exact Or.inl ⟨r, hr, hn, hs⟩
  · rw [List.mem_singleton.mp hr] at hn hs
    exact Or.inr ⟨hn, hs⟩

theorem handleUsbipCmdUnlink_status (header : UsbIpHeaderBasic) (wasPending : Bool) :
    (handleUsbipCmdUnlink header wasPending).unlinkStatus? = some 0 ↔ wasPending = true := by
  cases wasPending <;> simp [handleUsbipCmdUnlink, UsbIpResponse.usbipRetUnlinkSuccess,
    UsbIpResponse.usbipRetUnlinkFail, UsbIpResponse.unlinkStatus?]

end Replies

theorem held_push_submit (w : InWorker) (request : BulkInRequest) (k : UInt32) :
    (w.push (.submit request)).held.count k =
      w.held.count k + [request.header.seqnum].count k := by
  simp only [InWorker.held, InWorker.push, List.filterMap_append, List.count_append,
    List.filterMap_cons, List.filterMap_nil, BulkInCommand.submitSeqnum?]
  omega

/-! ## What a command does -/

theorem ToldIn.held {ins ins' : UInt8 → Option InWorker} {endpoint : UInt8} {seqnum : UInt32}
    (h : ToldIn ins endpoint (.unlink seqnum) ins') (ep : UInt8) :
    (ins' ep).map (·.held) = (ins ep).map (·.held) := by
  rcases h with rfl | ⟨w, hw, rfl⟩
  · rfl
  · by_cases he : ep = endpoint
    · subst he
      simp [hw, InWorker.held, InWorker.push, List.filterMap_append,
        BulkInCommand.submitSeqnum?]
    · rw [Function.update_of_ne he]

theorem ToldIn.keyed {ins ins' : UInt8 → Option InWorker} {endpoint : UInt8} {seqnum : UInt32}
    (h : ToldIn ins endpoint (.unlink seqnum) ins')
    (hk : ∀ ep w, ins ep = some w → w.Keyed) : ∀ ep w, ins' ep = some w → w.Keyed := by
  rcases h with rfl | ⟨w, hw, rfl⟩
  · exact hk
  · exact forall_update_some (fun ep v _ hv => hk ep v hv) (hk endpoint w hw)

theorem ToldOut.held {outs outs' : UInt8 → Option OutWorker} {endpoint : UInt8}
    {command : BulkOutCommand} (h : ToldOut outs endpoint command outs')
    (hc : command.submitSeqnum? = none) (ep : UInt8) :
    (outs' ep).map (·.held) = (outs ep).map (·.held) := by
  rcases h with rfl | ⟨w, hw, rfl⟩
  · rfl
  · by_cases he : ep = endpoint
    · subst he
      simp [hw, OutWorker.held_push, hc]
    · rw [Function.update_of_ne he]

/-- The workers of a device that was just imported hold nothing. -/
theorem held_startBulkInWorkers {device : UsbDevice} {outEndpoints : List UInt8}
    {endpoint : UInt8} {w : InWorker}
    (h : startBulkInWorkers device outEndpoints endpoint = some w) :
    w.held = [] ∧ w.requests = fun _ => none := by
  obtain ⟨-, rfl⟩ := startBulkInWorkers_eq_some.mp h
  exact ⟨rfl, rfl⟩

/-! ## A run -/

/-- The data interface of a serial port: one bulk endpoint in each direction. -/
def dataInterface : UsbInterface where
  interfaceClass := 0x0A
  interfaceSubclass := 0
  interfaceProtocol := 0
  endpoints := [{ address := 0x81, attributes := 2 }, { address := 0x01, attributes := 2 }]
  stringInterface := 0
  classSpecificDescriptor := []
  handler := ⟨⟨0⟩, 0⟩

def serialPort : UsbDevice where
  busId := "1-1"
  interfaces := [dataInterface]
  ep0In := ep0InEndpoint
  ep0Out := ep0OutEndpoint

/-- The device is imported, and its bulk-IN endpoint is open. -/
def attach : List Action :=
  [.importRequest, .importDone (.succeeded serialPort fun _ => true), .inOpened 0x81 (some 64)]

def submitRead (seqnum : UInt32) : Action :=
  .submit ⟨⟨1, seqnum, 0, 1, 1⟩, 64, List.replicate 8 0, []⟩

/-- A read that there is no buffer for: its length in whole packets is beyond `u32`. -/
def submitLargeRead (seqnum : UInt32) : Action :=
  .submit ⟨⟨1, seqnum, 0, 1, 1⟩, 0xFFFFFFFF, List.replicate 8 0, []⟩

def submitWrite (seqnum : UInt32) : Action :=
  .submit ⟨⟨1, seqnum, 0, 0, 1⟩, 1, List.replicate 8 0, [0xAA]⟩

def unlinkUrb (seqnum unlinkSeqnum : UInt32) : Action :=
  .unlink ⟨2, seqnum, 0, 0, 0⟩ unlinkSeqnum

/-- The worker takes a request, has its barrier answered, and submits a read. -/
def startRead : List Action :=
  [.inCommand 0x81, .inFlush 0x81, .outMove 1 .command, .inBarrier 0x81]

/-- A host that opens every endpoint, and has a byte to read. -/
def readyHost : Host := fun n c =>
  match c with
  | .openEndpoint _ _ _ => .ok ()
  | .transferIn _ _ _ => .ok [0x2A]
  | c => Host.disconnected n c

end Connection
end Lusbip
