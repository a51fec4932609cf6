import Lusbip.Usb.Codec
import Lusbip.Usb.ReplyLength

/-!
# Responses on the wire

The 312-byte record of a device, with or without its interfaces, and `UsbIpResponse::to_bytes`.
The debug assertions of the encoders are part of them: the checked build panics where the
unchecked one cuts a path or a bus id off.

A `RET_SUBMIT` does not say how long its payload is. A client knows by the direction of the URB
whether there is one, and by the actual length how many bytes it has. `readRetSubmit` is that
client, and what it reads is what was encoded if the reply is `InStep`.
-/

namespace Lusbip

open Lib Lib.Reader

def opRepDevlist : UInt16 := 0x0005
def opRepImport : UInt16 := 0x0003

/-- `Vec::resize` with zeros. -/
def resize (n : Nat) (bytes : List UInt8) : List UInt8 :=
  bytes.take n ++ List.replicate (n - bytes.length) 0

/-- `str::as_bytes` -/
def asBytes (s : String) : List UInt8 := s.toUTF8.toList

namespace UsbDevice

def toBytes (prof : Profile) (d : UsbDevice) : Outcome (List UInt8) := do
  debugAssert prof (d.path.length ≤ 256)
  debugAssert prof ((asBytes d.busId).length ≤ 32)
  .ok (resize 256 d.path ++ resize 32 (asBytes d.busId) ++
    be32 d.busNum ++ be32 d.devNum ++ be32 d.speed ++ be16 d.vendorId ++ be16 d.productId ++
    [d.deviceBcd.major, d.deviceBcd.minor, d.deviceClass, d.deviceSubclass, d.deviceProtocol,
     d.configurationValue, d.numConfigurations, UInt8.ofNat d.interfaces.length])

/-- The class of an interface, and a byte of padding. -/
def interfaceBytes (intf : UsbInterface) : List UInt8 :=
  [intf.interfaceClass, intf.interfaceSubclass, intf.interfaceProtocol, 0]

def toBytesWithInterfaces (prof : Profile) (d : UsbDevice) : Outcome (List UInt8) := do
  let result ← d.toBytes prof
  .ok (result ++ d.interfaces.flatMap interfaceBytes)

end UsbDevice

/-- `UsbIpResponse::to_bytes` -/
def UsbIpResponse.toBytes (prof : Profile) : UsbIpResponse → Outcome (List UInt8)
  | .opRepDevlist status deviceCount devices => do
      let records ← devices.mapM (·.toBytesWithInterfaces prof)
      .ok (be16 usbipVersion ++ be16 Lusbip.opRepDevlist ++ be32 status ++ be32 deviceCount ++
        records.flatten)
  | .opRepImport status device => do
      let record ← match device with
        | some device => device.toBytes prof
        | none => .ok []
      .ok (be16 usbipVersion ++ be16 Lusbip.opRepImport ++ be32 status ++ record)
  | .usbIpRetSubmit header status actualLength startFrame numberOfPackets errorCount
      transferBuffer isoPacketDescriptor => do
      debugAssert prof (header.command = usbipRetSubmit.toUInt32)
      .ok (header.toBytes ++ be32 status ++ be32 actualLength ++ be32 startFrame ++
        be32 numberOfPackets ++ be32 errorCount ++ List.replicate 8 0 ++ transferBuffer ++
        isoPacketDescriptor)
  | .usbIpRetUnlink header status => do
      debugAssert prof (header.command = usbipRetUnlink.toUInt32)
      .ok (header.toBytes ++ be32 status ++ List.replicate 24 0)

/-! ## A client of `RET_SUBMIT`s -/

/-- A client that knows the direction of the URBs by their sequence numbers. -/
def readRetSubmit (direction : UInt32 → UInt32) : Reader (Except Empty UsbIpResponse) := do
  let command ← readU32
  let seqnum ← readU32
  let devid ← readU32
  let replyDirection ← readU32
  let ep ← readU32
  let status ← readU32
  let actualLength ← readU32
  let startFrame ← readU32
  let numberOfPackets ← readU32
  let errorCount ← readU32
  let _ ← readExact 8
  let payload ← readExact (if direction seqnum = 1 then actualLength.toNat else 0)
  pure (.ok (.usbIpRetSubmit ⟨command, seqnum, devid, replyDirection, ep⟩ status actualLength
    startFrame numberOfPackets errorCount payload []))

namespace UsbIpResponse

/-- The encoded reply is in step with a client that knows the direction of the URB: after the
    48 bytes of its header come exactly `actual_length` bytes if the URB was an IN URB, none if
    it was an OUT URB, and nothing behind them. -/
def InStep (prof : Profile) (direction : UInt32) (response : UsbIpResponse) : Prop :=
  ∃ head : List UInt8, head.length = 48 ∧
    response.toBytes prof = .ok (head ++ response.payload) ∧
    (direction = 1 → ∃ n ∈ response.actualLength?, response.payload.length = n.toNat) ∧
    (direction = 0 → response.payload = [])

variable {prof : Profile} {header : UsbIpHeaderBasic} {response : UsbIpResponse}

theorem toBytes_retSubmit (prof : Profile) (header : UsbIpHeaderBasic)
    (status actualLength : UInt32) (payload : List UInt8) :
    (UsbIpResponse.usbIpRetSubmit (replyHeader header usbipRetSubmit) status actualLength 0 0 0
      payload []).toBytes prof =
      .ok ((replyHeader header usbipRetSubmit).toBytes ++ be32 status ++ be32 actualLength ++
        be32 0 ++ be32 0 ++ be32 0 ++ List.replicate 8 0 ++ payload) := by
  rw [← List.append_nil (_ ++ payload)]
  show (debugAssert prof _ >>= _) = _
  rw [debugAssert, if_neg fun hn => hn.2 rfl]
  rfl

/-- Whether a reply is in step is a question of its payload. -/
theorem Replies.inStep_iff (h : response.Replies header) :
    response.InStep prof header.direction ↔
      (header.direction = 1 → response.payload.length ≤ 2 ^ 32 - 1) ∧
        (header.direction = 0 → response.payload.length ≤ 0) := by
  obtain ⟨status, actualLength, payload, rfl, hlen⟩ := h
  have hin : header.direction = 1 → (payload.length = actualLength.toNat ↔
      payload.length ≤ 2 ^ 32 - 1) := by
    intro hdir
    rw [hlen (by rw [hdir]; decide), UInt32.toNat_ofNat']
    constructor
    · intro heq
      have := Nat.mod_lt payload.length (Nat.two_pow_pos 32)
      omega
    · intro hle
      exact (Nat.mod_eq_of_lt (by omega)).symm
  have hhead : ((replyHeader header usbipRetSubmit).toBytes ++ be32 status ++ be32 actualLength ++
      be32 0 ++ be32 0 ++ be32 0 ++ List.replicate 8 0).length = 48 := rfl
  constructor
  · rintro ⟨-, -, -, hone, hzero⟩
    refine ⟨fun hdir => (hin hdir).mp ?_, fun hdir => (congrArg List.length (hzero hdir)).le⟩
    obtain ⟨n, hn, heq⟩ := hone hdir
    cases hn
    exact heq
  · rintro ⟨hone, hzero⟩
    refine ⟨_, hhead, toBytes_retSubmit prof header status actualLength payload,
      fun hdir => ⟨actualLength, rfl, (hin hdir).mpr (hone hdir)⟩, fun hdir => ?_⟩
    exact List.eq_nil_of_length_eq_zero (Nat.le_zero.mp (hzero hdir))

/-- **The client gets what was sent**, if the reply is in step with it. -/
theorem Replies.reads (h : response.Replies header) {direction : UInt32 → UInt32}
    (hknown : direction header.seqnum = header.direction)
    (hdir : header.direction = 0 ∨ header.direction = 1)
    (hstep : response.InStep prof header.direction) :
    ∃ bytes, response.toBytes prof = .ok bytes ∧
      Reads (readRetSubmit direction) bytes (.ok response) := by
  obtain ⟨-, -, -, hone, hzero⟩ := hstep
  obtain ⟨status, actualLength, payload, rfl, -⟩ := h
  have hpayload : payload.length =
      if direction header.seqnum = 1 then actualLength.toNat else 0 := by
    rw [hknown]
    rcases hdir with hdir | hdir
    · rw [hdir, if_neg (by decide)]
      exact congrArg List.length (hzero hdir)
    · obtain ⟨n, hn, heq⟩ := hone hdir
      cases hn
      rw [if_pos hdir]
      exact heq
  refine ⟨_, toBytes_retSubmit prof header status actualLength payload, ?_⟩
  rw [UsbIpHeaderBasic.toBytes]
  simp only [List.append_assoc]
  refine (readU32_reads _).bind ((readU32_reads _).bind ((readU32_reads _).bind
    ((readU32_reads _).bind ((readU32_reads _).bind ((readU32_reads _).bind
    ((readU32_reads _).bind ((readU32_reads _).bind ((readU32_reads _).bind
    ((readU32_reads _).bind ((readExact_reads List.length_replicate).bind ?_))))))))))
  exact (readExact_reads hpayload).wrap _

end UsbIpResponse

/-! ## A stream of replies -/

theorem readRetSubmit_consumes (direction : UInt32 → UInt32) :
    (readRetSubmit direction).Consumes :=
  Reader.consumes_exact (by decide) _

/-- Replies that the client reads one by one it reads from their concatenation. -/
theorem frames_replies {prof : Profile} {direction : UInt32 → UInt32}
    {responses : List UsbIpResponse}
    (h : ∀ response ∈ responses, ∃ bytes, response.toBytes prof = .ok bytes ∧
      Reads (readRetSubmit direction) bytes (.ok response)) :
    ∃ chunks, responses.mapM (·.toBytes prof) = .ok chunks ∧
      Reader.frames (readRetSubmit direction) chunks.flatten = (responses, none) := by
  induction responses with
  | nil => exact ⟨[], rfl, rfl⟩
  | cons response responses ih =>
    obtain ⟨bytes, hbytes, hreads⟩ := h response List.mem_cons_self
    obtain ⟨chunks, hchunks, hframes⟩ := ih fun r hr => h r (List.mem_cons_of_mem response hr)
    refine ⟨bytes :: chunks, ?_, ?_⟩
    · rw [List.mapM_cons, hbytes, hchunks]
      rfl
    · rw [List.flatten_cons, Reader.frames_of_ok (readRetSubmit_consumes direction)
        (hreads.read _), hframes]

end Lusbip
