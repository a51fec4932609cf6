import Lusbip.Lib.Reader
import Lusbip.Usb.HandleUrb

/-!
# The USB/IP protocol structs

Commands as they are read from a socket and written to one, responses as they are built,
and the two handlers that turn a command into a response without touching a worker. Multi
byte fields are big-endian on the wire. `readFromSocket` is a `Lib.Reader`: its reads are
the `read_u16`, `read_u32` and `read_exact` calls of the source, in their order, so that
where it can be stopped half way is where the source can be.
-/

namespace Lusbip

open Lib

/-! ## Constants -/

/-- The version that is written in front of a reply to an operation. -/
def usbipVersion : UInt16 := 0x0111

/-- The operation that asks for the list of the devices. -/
def opReqDevlist : UInt16 := 0x8005

/-- The operation that imports one of them. -/
def opReqImport : UInt16 := 0x8003

/-- The command that submits an URB. -/
def usbipCmdSubmit : UInt16 := 0x0001

/-- The command that takes one back. -/
def usbipCmdUnlink : UInt16 := 0x0002

/-- The reply to a submitted URB. -/
def usbipRetSubmit : UInt16 := 0x0003

/-- The reply to an unlink. -/
def usbipRetUnlink : UInt16 := 0x0004

/-! ## Big-endian integers -/

/-- The number a big-endian byte string stands for. -/
def beNat (bs : List UInt8) : Nat := bs.foldl (fun n b => n * 256 + b.toNat) 0

/-- `to_be_bytes` of a `u16`. -/
def be16 (n : UInt16) : List UInt8 := [(n >>> 8).toUInt8, n.toUInt8]

/-- `to_be_bytes` of a `u32`. -/
def be32 (n : UInt32) : List UInt8 :=
  [(n >>> 24).toUInt8, (n >>> 16).toUInt8, (n >>> 8).toUInt8, n.toUInt8]

/-- Two bytes, the high one first. -/
def readU16 : Reader UInt16 := .exact 2 fun bs => .done (UInt16.ofNat (beNat bs))

/-- Four bytes, the high one first. -/
def readU32 : Reader UInt32 := .exact 4 fun bs => .done (UInt32.ofNat (beNat bs))

/-- So many bytes as they are. -/
def readExact (n : Nat) : Reader (List UInt8) := .exact n .done

/-! ## Headers and commands -/

/-- What every command and every reply of a session begins with. -/
structure UsbIpHeaderBasic where
  command : UInt32
  seqnum : UInt32
  devid : UInt32
  direction : UInt32
  ep : UInt32
  deriving DecidableEq, Repr

/-- The header on the wire, every field with its high byte first. -/
def UsbIpHeaderBasic.toBytes (h : UsbIpHeaderBasic) : List UInt8 :=
  be32 h.command ++ be32 h.seqnum ++ be32 h.devid ++ be32 h.direction ++ be32 h.ep

/-- What a client sends. An operation has a status, which is not looked at. -/
inductive UsbIpCommand where
  | opReqDevlist (status : UInt32)
  | opReqImport (status : UInt32) (busid : List UInt8)
  | usbIpCmdSubmit (header : UsbIpHeaderBasic) (transferFlags transferBufferLength startFrame
      numberOfPackets interval : UInt32) (setup data isoPacketDescriptor : List UInt8)
  | usbIpCmdUnlink (header : UsbIpHeaderBasic) (unlinkSeqnum : UInt32)
  deriving DecidableEq, Repr

/-- A read function whose `debug_assert!` failed has panicked. -/
def assertThen {α : Type} (prof : Profile) (c : Prop) [Decidable c]
    (k : Reader (Outcome α)) : Reader (Outcome α) :=
  match debugAssert prof c with
  | .ok () => k
  | .error s => .done (.error s)

/-- `UsbIpHeaderBasic::read_from_socket_with_command` -/
def readHeaderWithCommand (prof : Profile) (command : UInt16)
    (k : UsbIpHeaderBasic → Reader (Outcome UsbIpCommand)) : Reader (Outcome UsbIpCommand) := do
  let seqnum ← readU32
  let devid ← readU32
  let direction ← readU32
  assertThen prof (direction &&& 1 = direction) do
    let ep ← readU32
    k { command := command.toUInt32, seqnum, devid, direction, ep }

/-- The `OP_REQ_DEVLIST` arm. -/
def readDevlist (prof : Profile) : Reader (Outcome UsbIpCommand) := do
  let status ← readU32
  assertThen prof (status = 0) (pure (.ok (.opReqDevlist status)))

/-- The `OP_REQ_IMPORT` arm. -/
def readImport (prof : Profile) : Reader (Outcome UsbIpCommand) := do
  let status ← readU32
  assertThen prof (status = 0) do
    let busid ← readExact 32
    pure (.ok (.opReqImport status busid))

/-- The `USBIP_CMD_SUBMIT` arm. An IN URB carries no data; the iso part is there unless the
    number of packets is `0` or `0xFFFFFFFF`. -/
def readSubmit (prof : Profile) : Reader (Outcome UsbIpCommand) :=
  readHeaderWithCommand prof usbipCmdSubmit fun header => do
    let transferFlags ← readU32
    let transferBufferLength ← readU32
    let startFrame ← readU32
    let numberOfPackets ← readU32
    let interval ← readU32
    let setup ← readExact 8
    let data ← if header.direction = 1 then pure [] else readExact transferBufferLength.toNat
    let isoPacketDescriptor ←
      if numberOfPackets ≠ 0 ∧ numberOfPackets ≠ 0xFFFFFFFF then
        readExact (16 * numberOfPackets.toNat)
      else pure []
    pure (.ok (.usbIpCmdSubmit header transferFlags transferBufferLength startFrame
      numberOfPackets interval setup data isoPacketDescriptor))

/-- The `USBIP_CMD_UNLINK` arm. -/
def readUnlink (prof : Profile) : Reader (Outcome UsbIpCommand) :=
  readHeaderWithCommand prof usbipCmdUnlink fun header => do
    let unlinkSeqnum ← readU32
    let _ ← readExact 24
    pure (.ok (.usbIpCmdUnlink header unlinkSeqnum))

/-- `{:#04X}`: upper-case hex digits, at least two, after `0x`. -/
def hex04X (n : UInt16) : String :=
  let digits := (Nat.toDigits 16 n.toNat).map Char.toUpper
  "0x" ++ String.ofList (if digits.length < 2 then '0' :: digits else digits)

/-- `UsbIpCommand::read_from_socket` -/
def readFromSocket (prof : Profile) : Reader (Outcome UsbIpCommand) := do
  let version ← readU16
  if version ≠ 0 ∧ version ≠ usbipVersion then
    pure (Outcome.err (.other ("Unknown version: " ++ hex04X version)))
  else do
    let command ← readU16
    if command = opReqDevlist then readDevlist prof
    else if command = opReqImport then readImport prof
    else if command = usbipCmdSubmit then readSubmit prof
    else if command = usbipCmdUnlink then readUnlink prof
    else pure (Outcome.err (.other ("Unknown command: " ++ hex04X command)))

/-- `UsbIpCommand::to_bytes` -/
def UsbIpCommand.toBytes : UsbIpCommand → List UInt8
  | .opReqDevlist status => be16 usbipVersion ++ be16 Lusbip.opReqDevlist ++ be32 status
  | .opReqImport status busid =>
      be16 usbipVersion ++ be16 Lusbip.opReqImport ++ be32 status ++ busid
  | .usbIpCmdSubmit header transferFlags transferBufferLength startFrame numberOfPackets interval
      setup data isoPacketDescriptor =>
      header.toBytes ++ be32 transferFlags ++ be32 transferBufferLength ++ be32 startFrame ++
        be32 numberOfPackets ++ be32 interval ++ setup ++ data ++ isoPacketDescriptor
  | .usbIpCmdUnlink header unlinkSeqnum =>
      header.toBytes ++ be32 unlinkSeqnum ++ List.replicate 24 0

/-! ## Responses -/

/-- What the server sends back, with all the fields that it writes. -/
inductive UsbIpResponse where
  | opRepDevlist (status deviceCount : UInt32) (devices : List UsbDevice)
  | opRepImport (status : UInt32) (device : Option UsbDevice)
  | usbIpRetSubmit (header : UsbIpHeaderBasic) (status actualLength startFrame numberOfPackets
      errorCount : UInt32) (transferBuffer isoPacketDescriptor : List UInt8)
  | usbIpRetUnlink (header : UsbIpHeaderBasic) (status : UInt32)
  deriving DecidableEq, Repr

namespace UsbIpResponse

/-- The list of the devices. The count is written in 32 bits. -/
def opRepDevlistOf (devices : List UsbDevice) : UsbIpResponse :=
  .opRepDevlist 0 (UInt32.ofNat devices.length) devices

/-- The import has succeeded, and the device is told once more. -/
def opRepImportSuccess (device : UsbDevice) : UsbIpResponse := .opRepImport 0 (some device)

/-- The import has failed; no device follows. -/
def opRepImportFail : UsbIpResponse := .opRepImport 1 none

/-- The reply to an URB that was performed. -/
def usbipRetSubmitSuccess (header : UsbIpHeaderBasic) (startFrame actualLength : UInt32)
    (transferBuffer isoPacketDescriptor : List UInt8) : UsbIpResponse :=
  .usbIpRetSubmit header 0 actualLength startFrame 0 0 transferBuffer isoPacketDescriptor

/-- The reply to an URB that was not: status 1, and no data. -/
def usbipRetSubmitFail (header : UsbIpHeaderBasic) (actualLength : UInt32) : UsbIpResponse :=
  .usbIpRetSubmit header 1 actualLength 0 0 0 [] []

/-- The reply to an unlink, with status 0. -/
def usbipRetUnlinkSuccess (header : UsbIpHeaderBasic) : UsbIpResponse := .usbIpRetUnlink header 0

/-- The reply to an unlink, with status 1. -/
def usbipRetUnlinkFail (header : UsbIpHeaderBasic) : UsbIpResponse := .usbIpRetUnlink header 1

/-- The sequence number a `RET_SUBMIT` answers. -/
def submitSeqnum? : UsbIpResponse → Option UInt32
  | .usbIpRetSubmit header _ _ _ _ _ _ _ => some header.seqnum
  | _ => none

/-- The status of a `RET_UNLINK`. -/
def unlinkStatus? : UsbIpResponse → Option UInt32
  | .usbIpRetUnlink _ status => some status
  | _ => none

/-- The status of a `RET_SUBMIT`. -/
def submitStatus? : UsbIpResponse → Option UInt32
  | .usbIpRetSubmit _ status _ _ _ _ _ _ => some status
  | _ => none

/-- The actual length that a `RET_SUBMIT` gives. -/
def actualLength? : UsbIpResponse → Option UInt32
  | .usbIpRetSubmit _ _ actualLength _ _ _ _ _ => some actualLength
  | _ => none

/-- The payload of a `RET_SUBMIT` with status 0. -/
def successPayload? : UsbIpResponse → Option (List UInt8)
  | .usbIpRetSubmit _ 0 _ _ _ _ transferBuffer _ => some transferBuffer
  | _ => none

end UsbIpResponse

/-! ## Requests answered without a worker -/

/-- The reply header: the code of the reply, and zero `devid`, `direction` and `ep`. -/
def replyHeader (header : UsbIpHeaderBasic) (command : UInt16) : UsbIpHeaderBasic :=
  { header with command := command.toUInt32, devid := 0, direction := 0, ep := 0 }

/-- The endpoint address of a URB, `real_ep as u8`. -/
def realEp (header : UsbIpHeaderBasic) : UInt8 :=
  if header.direction = 0 then header.ep.toUInt8 else (header.ep ||| 0x80).toUInt8

/-- `UsbIpServer::handle_usbip_cmd_submit`. An error of the transfer becomes a failed
    reply; a panic does not come back. -/
def handleUsbipCmdSubmit (prof : Profile) (header : UsbIpHeaderBasic)
    (transferBufferLength : UInt32) (setup data : List UInt8) (device : UsbDevice)
    (host : Host) : Outcome UsbIpResponse :=
  let reply := replyHeader header usbipRetSubmit
  match device.findEp (realEp header) with
  | none => .ok (.usbipRetSubmitFail reply 0)
  | some (ep, intf) =>
      match (device.handleUrb prof ep intf transferBufferLength (SetupPacket.parse setup)
          data).outcome host with
      | .ok resp =>
          let actualLength := match ep.direction with
            | .in => UInt32.ofNat resp.length
            | .out => transferBufferLength
          .ok (.usbipRetSubmitSuccess reply 0 actualLength resp [])
      | .error (.err _) =>
          let actualLength := match ep.direction with
            | .in => 0
            | .out => transferBufferLength
          .ok (.usbipRetSubmitFail reply actualLength)
      | .error (.panic p) => .error (.panic p)

/-- `UsbIpServer::handle_usbip_cmd_unlink` -/
def handleUsbipCmdUnlink (header : UsbIpHeaderBasic) (wasPending : Bool) : UsbIpResponse :=
  let reply := replyHeader header usbipRetUnlink
  if wasPending then .usbipRetUnlinkSuccess reply else .usbipRetUnlinkFail reply

/-- The address of a URB that is no OUT URB has the direction bit. -/
theorem realEp_in {header : UsbIpHeaderBasic} (h : header.direction ≠ 0) :
    realEp header &&& 0x80 = 0x80 := by
  have hor : (header.ep ||| 0x80).toUInt8 = header.ep.toUInt8 ||| 0x80 := by simp
  rw [realEp, if_neg h, hor]
  apply UInt8.toBitVec_inj.mp
  ext i hi
  simp only [UInt8.toBitVec_and, UInt8.toBitVec_or, BitVec.getElem_and, BitVec.getElem_or]
  cases (UInt8.toBitVec 0x80)[i] <;> simp

/-- A reply that comes back at all is a `RET_SUBMIT` with the URB's own sequence number. -/
theorem handleUsbipCmdSubmit_seqnum {prof : Profile} {header : UsbIpHeaderBasic}
    {len : UInt32} {setup data : List UInt8} {device : UsbDevice} {host : Host}
    {resp : UsbIpResponse}
    (h : handleUsbipCmdSubmit prof header len setup data device host = .ok resp) :
    resp.submitSeqnum? = some header.seqnum := by
  unfold handleUsbipCmdSubmit at h
  dsimp only at h
  split at h
  · cases h; rfl
  · split at h
    · cases h; rfl
    · cases h; rfl
    · cases h

/-- An error of the transfer comes back as a reply. -/
theorem handleUsbipCmdSubmit_ne_err (prof : Profile) (header : UsbIpHeaderBasic) (len : UInt32)
    (setup data : List UInt8) (device : UsbDevice) (host : Host) (e : IoError) :
    handleUsbipCmdSubmit prof header len setup data device host ≠ .error (.err e) := by
  unfold handleUsbipCmdSubmit
  dsimp only
  split
  · exact nofun
  · split
    · exact nofun
    · exact nofun
    · exact nofun

end Lusbip
