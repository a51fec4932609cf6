import Lusbip.Usb.Protocol

/-!
# Which control requests come back

A control request on endpoint 0 is dispatched by guarded arms whose last one is
`unimplemented!`, and the two host paths decode the request type with matches of their own.
This file says exactly which setup packets a device answers: `Answers` is a condition on the
device and the setup packet, and `controlRequest_returns_iff` says that the call comes back
with a `RET_SUBMIT` if and only if it holds, whatever the host does. The condition misses
most of the requests addressed to an endpoint, a plain `CLEAR_FEATURE(ENDPOINT_HALT)` or
`GET_STATUS` among them, although both host paths know that recipient.
-/

namespace Lusbip

/-- The direction `handle_usbip_cmd_submit` gives a URB on endpoint 0. -/
def urbDirection (header : UsbIpHeaderBasic) : Direction :=
  if header.direction = 0 then .out else .in

/-- `bLength` of the string descriptor is computed on `u8`; the checked build needs it to
    fit. -/
def StringFits (prof : Profile) (s : String) : Prop :=
  prof = .dev → 2 + (encodeUtf16 s).length % 256 * 2 < 256

namespace UsbDevice

/-- A descriptor request does not trip over the length of a string. -/
def DescriptorFits (prof : Profile) (d : UsbDevice) (setup : SetupPacket) : Prop :=
  DescriptorType.fromU16 (setup.value >>> 8) = some .string → setup.value.toUInt8 ≠ 0 →
    ∀ s, d.stringAt setup.value.toUInt8 = some s → StringFits prof s

/-- The request names a claimed interface, with a request type the host path knows. -/
def NamesInterface (d : UsbDevice) (setup : SetupPacket) : Prop :=
  setup.requestType &&& 0xF = 1 ∧ setup.index.toNat &&& 0xFF < d.interfaces.length ∧
    requestTypeIsKnown setup.requestType = true

/-- A vendor request to an interface of the one bridge that wants it on the device handle. -/
def ForwardsToDevice (d : UsbDevice) (setup : SetupPacket) : Prop :=
  d.shouldForwardControlToDevice setup = true ∧ d.deviceHandler.isSome = true

/-- The control-IN requests that are answered. -/
def AnswersIn (prof : Profile) (d : UsbDevice) (setup : SetupPacket) : Prop :=
  if setup.requestType = 0b10000000 ∧
      StandardRequest.fromU8 setup.request = some .getDescriptor then
    d.DescriptorFits prof setup
  else
    d.handlesMassStorageGetMaxLun setup = true ∨ d.ForwardsToDevice setup ∨
      d.NamesInterface setup ∨
      (setup.requestType &&& 0xF = 0 ∧ d.deviceHandler.isSome = true ∧
        requestTypeIsKnown setup.requestType = true)

/-- The control-OUT requests that are answered. -/
def AnswersOut (d : UsbDevice) (setup : SetupPacket) : Prop :=
  (setup.requestType = 0b00000000 ∧
      StandardRequest.fromU8 setup.request = some .setConfiguration) ∨
    d.handlesSuperspeedVirtualRequest setup = true ∨ d.ForwardsToDevice setup ∨
    d.NamesInterface setup ∨
    (setup.requestType &&& 0xF = 0 ∧
      (d.deviceHandler.isSome = true → requestTypeIsKnown setup.requestType = true))

/-- **The requests a device answers**, by direction. -/
def Answers (prof : Profile) (d : UsbDevice) : Direction → SetupPacket → Prop
  | .in, setup => d.AnswersIn prof setup
  | .out, setup => d.AnswersOut setup

end UsbDevice

/-! ## Descriptor requests -/

theorem returns_bind_ok_iff {α β : Type} {o : Outcome α} {f : α → β} :
    Outcome.Returns (o >>= fun a => Except.ok (f a)) ↔ o.Returns := by
  cases o with
  | ok a => exact Iff.rfl
  | error s => cases s <;> exact Iff.rfl

theorem stringDescriptor_returns_iff {prof : Profile} {s : String} :
    (UsbDevice.stringDescriptor prof s).Returns ↔ StringFits prof s := by
  unfold UsbDevice.stringDescriptor StringFits
  have hlen : (UInt8.ofNat (encodeUtf16 s).length).toNat = (encodeUtf16 s).length % 256 := by
    simp
  dsimp only
  rw [← hlen]
  generalize UInt8.ofNat (encodeUtf16 s).length = n
  by_cases hm : prof = .dev → n.toNat * 2 < 256
  · have hmul : prof = .dev → (n * 2).toNat = n.toNat * 2 := fun hp => by
      rw [UInt8.toNat_mul]
      exact Nat.mod_eq_of_lt (hm hp)
    rw [show mulU8 prof n 2 = .ok (n * 2) from mulU8_of_lt hm]
    show Outcome.Returns (addU8 prof 2 (n * 2) >>= fun bLength => Except.ok _) ↔ _
    rw [returns_bind_ok_iff, addU8_returns_iff]
    refine forall_congr' fun hp => ?_
    rw [hmul hp]
    rfl
  · obtain ⟨rfl, hge⟩ : prof = .dev ∧ 256 ≤ n.toNat * 2 := by
      rw [Classical.not_imp] at hm
      exact ⟨hm.1, by omega⟩
    rw [show mulU8 .dev n 2 = Outcome.panic .arithmeticOverflow from mulU8_of_le hge]
    exact iff_of_false id fun hlt => by have := hlt rfl; omega

theorem returns_map_iff {α β : Type} {f : α → β} {o : Outcome α} :
    Outcome.Returns (o.map f) ↔ o.Returns := by
  cases o with
  | ok a => simp [Except.map]
  | error s => cases s <;> simp [Except.map]

theorem getDescriptor_returns_iff {prof : Profile} {d : UsbDevice} {setup : SetupPacket} :
    (d.getDescriptor prof setup).Returns ↔ d.DescriptorFits prof setup := by
  unfold UsbDevice.getDescriptor UsbDevice.DescriptorFits
  cases hty : DescriptorType.fromU16 (setup.value >>> 8) with
  | none => simp
  | some ty =>
    cases ty with
    | string =>
      by_cases hi : setup.value.toUInt8 = 0
      · simp [hi]
      · cases hs : d.stringAt setup.value.toUInt8 with
        | none => simp [hi, hs]
        | some s => simp [hi, hs, returns_map_iff, stringDescriptor_returns_iff]
    | configuration =>
      cases d.rawConfigurationDescriptor setup.value.toUInt8 setup.length <;> simp
    | _ => simp

/-! ## Forwarded requests -/

set_option maxRecDepth 8000 in
theorem requestTypeIsKnown_of_forward {d : UsbDevice} {setup : SetupPacket}
    (h : d.shouldForwardControlToDevice setup = true) :
    requestTypeIsKnown setup.requestType = true := by
  simp only [UsbDevice.shouldForwardControlToDevice, Bool.and_eq_true, decide_eq_true_eq] at h
  obtain ⟨⟨_, hvendor⟩, hintf⟩ := h
  have key : ∀ n < 256, n &&& 0x60 = 0x40 → n &&& 0x1f = 1 →
      (n >>> 5) &&& 3 ≠ 3 ∧ n &&& 31 < 4 := by decide
  have hv := congrArg UInt8.toNat hvendor
  have hi := congrArg UInt8.toNat hintf
  simp only [UInt8.toNat_and, UInt8.reduceToNat] at hv hi
  obtain ⟨htype, hrec⟩ := key _ setup.requestType.toNat_lt hv hi
  simp only [requestTypeIsKnown, typeIsKnown, recipientIsKnown, Bool.and_eq_true, bne_iff_ne,
    decide_eq_true_eq, ne_eq, ← UInt8.toNat_inj, UInt8.lt_iff_toNat_lt, UInt8.toNat_and,
    UInt8.toNat_shiftRight, UInt8.reduceToNat]
  exact ⟨htype, hrec⟩

theorem forwardToDevice_returns_iff {host : Host} {d : UsbDevice} {handler : Device}
    {setup : SetupPacket} {outData : List UInt8} :
    ((d.forwardToDevice handler setup outData).outcome host).Returns ↔
      requestTypeIsKnown setup.requestType = true :=
  handleUrbForDevice_returns_iff

/-- The arm that forwards to a device handle it has just seen. -/
theorem unwrap_forwardToDevice_returns_iff {host : Host} {d : UsbDevice}
    {setup : SetupPacket} {outData : List UInt8} (h : d.deviceHandler.isSome = true) :
    (((HostM.ret (Outcome.unwrap d.deviceHandler)).bind fun handler =>
      d.forwardToDevice handler setup outData).outcome host).Returns ↔
      requestTypeIsKnown setup.requestType = true := by
  obtain ⟨handler, hh⟩ := Option.isSome_iff_exists.mp h
  rw [hh, Outcome.unwrap_some, HostM.bind_ret_ok]
  exact forwardToDevice_returns_iff

theorem forwardToInterface_returns_iff {prof : Profile} {host : Host} {d : UsbDevice}
    {ep : UsbEndpoint} (hep : ep.attributes = EndpointAttributes.control.toU8) {len : UInt32}
    {setup : SetupPacket} {outData : List UInt8} :
    ((d.forwardToInterface prof ep len setup outData).outcome host).Returns ↔
      setup.index.toNat &&& 0xFF < d.interfaces.length ∧
        requestTypeIsKnown setup.requestType = true := by
  unfold UsbDevice.forwardToInterface UsbDevice.interfaceAt
  dsimp only
  rw [HostM.bind_eq]
  by_cases hlt : setup.index.toNat &&& 0xFF < d.interfaces.length
  · rw [List.getElem?_eq_getElem hlt]
    simp only [HostM.bind_ret_ok, hlt, true_and]
    rw [handleUrbForInterface, if_pos hep]
    exact controlForInterface_returns_iff
  · rw [List.getElem?_eq_none (by omega)]
    simp [Outcome.panic, HostM.outcome, HostM.outcomeFrom, hlt]

/-! ## The two directions -/

theorem controlIn_returns_iff {prof : Profile} {host : Host} {d : UsbDevice}
    {ep : UsbEndpoint} (hep : ep.attributes = EndpointAttributes.control.toU8) {len : UInt32}
    {setup : SetupPacket} {outData : List UInt8} :
    ((d.controlIn prof ep len setup outData).outcome host).Returns ↔
      d.AnswersIn prof setup := by
  unfold UsbDevice.controlIn UsbDevice.AnswersIn UsbDevice.ForwardsToDevice
    UsbDevice.NamesInterface
  by_cases hdesc : setup.requestType = 0b10000000 ∧
      StandardRequest.fromU8 setup.request = some .getDescriptor
  · simp only [hdesc, and_self, if_true]
    exact getDescriptor_returns_iff
  simp only [if_neg hdesc]
  by_cases hlun : d.handlesMassStorageGetMaxLun setup = true
  · simp only [hlun, if_true, true_or, iff_true]
    trivial
  simp only [if_neg hlun]
  by_cases hfwd : d.shouldForwardControlToDevice setup = true ∧ d.deviceHandler.isSome = true
  · simp only [if_pos hfwd, HostM.bind_eq]
    rw [unwrap_forwardToDevice_returns_iff hfwd.2]
    simp [hfwd, requestTypeIsKnown_of_forward hfwd.1]
  simp only [if_neg hfwd]
  by_cases hintf : setup.requestType &&& 0xF = 1
  · simp only [if_pos hintf]
    rw [forwardToInterface_returns_iff hep]
    simp [hlun, hfwd, hintf]
  simp only [if_neg hintf]
  by_cases hdev : setup.requestType &&& 0xF = 0 ∧ d.deviceHandler.isSome = true
  · have hno : d.shouldForwardControlToDevice setup = false := by
      simpa [hdev.2] using hfwd
    simp only [if_pos hdev, HostM.bind_eq]
    rw [unwrap_forwardToDevice_returns_iff hdev.2]
    simp [hlun, hno, hdev]
  · simp only [if_neg hdev]
    have hno : ¬ (setup.requestType &&& 0xF = 0 ∧ d.deviceHandler.isSome = true ∧
        requestTypeIsKnown setup.requestType = true) := fun h => hdev ⟨h.1, h.2.1⟩
    simp [hlun, hfwd, hintf, hno, HostM.outcome, HostM.outcomeFrom]

theorem setConfiguration_returns {host : Host} {d : UsbDevice} {setup : SetupPacket} :
    ((d.setConfiguration setup).outcome host).Returns := by
  refine HostM.NoPanic.returns ?_ host
  unfold UsbDevice.setConfiguration
  cases d.deviceHandler with
  | none => trivial
  | some device =>
    dsimp only
    split
    · exact HostM.NoPanic.bind (HostM.noPanic_ask _) fun _ => trivial
    · trivial

theorem controlOut_returns_iff {prof : Profile} {host : Host} {d : UsbDevice}
    {ep : UsbEndpoint} (hep : ep.attributes = EndpointAttributes.control.toU8) {len : UInt32}
    {setup : SetupPacket} {outData : List UInt8} :
    ((d.controlOut prof ep len setup outData).outcome host).Returns ↔ d.AnswersOut setup := by
  unfold UsbDevice.controlOut UsbDevice.AnswersOut UsbDevice.ForwardsToDevice
    UsbDevice.NamesInterface
  by_cases hconf : setup.requestType = 0b00000000 ∧
      StandardRequest.fromU8 setup.request = some .setConfiguration
  · simp only [hconf, and_self, if_true, true_or, iff_true]
    exact setConfiguration_returns
  simp only [if_neg hconf]
  by_cases hss : d.handlesSuperspeedVirtualRequest setup = true
  · simp only [hss, if_true, true_or, or_true, iff_true]
    trivial
  simp only [if_neg hss]
  by_cases hfwd : d.shouldForwardControlToDevice setup = true ∧ d.deviceHandler.isSome = true
  · simp only [if_pos hfwd, HostM.bind_eq]
    rw [unwrap_forwardToDevice_returns_iff hfwd.2]
    simp [hfwd, requestTypeIsKnown_of_forward hfwd.1]
  simp only [if_neg hfwd]
  by_cases hintf : setup.requestType &&& 0xF = 1
  · simp only [if_pos hintf]
    rw [forwardToInterface_returns_iff hep]
    simp [hconf, hss, hfwd, hintf]
  simp only [if_neg hintf]
  by_cases hdev : setup.requestType &&& 0xF = 0
  · simp only [if_pos hdev]
    cases hh : d.deviceHandler with
    | none =>
      refine iff_of_true trivial ?_
      simp [hdev]
    | some handler =>
      have hno : d.shouldForwardControlToDevice setup = false := by simpa [hh] using hfwd
      dsimp only
      rw [forwardToDevice_returns_iff]
      simp [hconf, hss, hno, hdev]
  · simp only [if_neg hdev]
    simp [hconf, hss, hfwd, hintf, hdev, HostM.outcome, HostM.outcomeFrom]

/-! ## The call of the server -/

theorem handleUsbipCmdSubmit_returns_iff {prof : Profile} {header : UsbIpHeaderBasic}
    {len : UInt32} {setup data : List UInt8} {d : UsbDevice} {host : Host}
    {ep : UsbEndpoint} {intf : Option UsbInterface}
    (hep : d.findEp (realEp header) = some (ep, intf)) :
    (∃ resp, handleUsbipCmdSubmit prof header len setup data d host = .ok resp) ↔
      ((d.handleUrb prof ep intf len (SetupPacket.parse setup) data).outcome host).Returns := by
  unfold handleUsbipCmdSubmit
  simp only [hep]
  cases (d.handleUrb prof ep intf len (SetupPacket.parse setup) data).outcome host with
  | ok resp => simp
  | error s => cases s <;> simp

/-- **Exactly the answered requests come back.** For every device with its control
    endpoints, setup packet, direction, length, payload and host: a URB on endpoint 0 gets a
    `RET_SUBMIT` with its own sequence number if and only if the device answers the request;
    otherwise the call panics. -/
theorem controlRequest_returns_iff (prof : Profile) (d : UsbDevice) (hd : d.HasEp0)
    (header : UsbIpHeaderBasic) (hep : header.ep = 0) (len : UInt32)
    (setup data : List UInt8) (host : Host) :
    (∃ resp, handleUsbipCmdSubmit prof header len setup data d host = .ok resp ∧
        resp.submitSeqnum? = some header.seqnum) ↔
      d.Answers prof (urbDirection header) (SetupPacket.parse setup) := by
  have hseq : (∃ resp, handleUsbipCmdSubmit prof header len setup data d host = .ok resp ∧
      resp.submitSeqnum? = some header.seqnum) ↔
      ∃ resp, handleUsbipCmdSubmit prof header len setup data d host = .ok resp :=
    ⟨fun ⟨r, h, _⟩ => ⟨r, h⟩, fun ⟨r, h⟩ => ⟨r, h, handleUsbipCmdSubmit_seqnum h⟩⟩
  obtain ⟨hin, hout⟩ := UsbDevice.findEp_zero hd
  rw [hseq]
  unfold urbDirection
  by_cases hdir : header.direction = 0
  · have hreal : realEp header = 0x00 := by simp [realEp, hdir, hep]
    rw [handleUsbipCmdSubmit_returns_iff (hreal ▸ hout), if_pos hdir]
    exact controlOut_returns_iff rfl
  · have hreal : realEp header = 0x80 := by simp [realEp, hdir, hep]
    rw [handleUsbipCmdSubmit_returns_iff (hreal ▸ hin), if_neg hdir]
    exact controlIn_returns_iff rfl

/-- A device with a vendor interface and both kinds of handles. -/
def vendorDevice : UsbDevice where
  busId := "1-2"
  speed := UsbSpeed.high.toU32
  vendorId := 0x1209
  productId := 0x0001
  configurationValue := 1
  numConfigurations := 1
  interfaces :=
    [{ interfaceClass := 0xFF
       interfaceSubclass := 0
       interfaceProtocol := 0
       endpoints := [{ address := 0x81, attributes := 2, maxPacketSize := 512, interval := 0 }]
       stringInterface := 0
       classSpecificDescriptor := []
       handler := { device := ⟨0⟩, interfaceNumber := 0 } }]
  deviceHandler := some ⟨0⟩
  ep0In := ep0InEndpoint
  ep0Out := ep0OutEndpoint

/-- The header of a control-IN URB. -/
def controlInHeader (seqnum : UInt32) : UsbIpHeaderBasic where
  command := 1
  seqnum := seqnum
  devid := 0
  direction := 1
  ep := 0

/-- `GET_STATUS` of the device itself is answered, with the host's failure if it comes to
    that. -/
theorem getStatus_device_returned :
    vendorDevice.HasEp0 ∧ (controlInHeader 7).ep = 0 ∧
      ∃ resp, handleUsbipCmdSubmit .release (controlInHeader 7) 2
          [0x80, 0x00, 0x00, 0x00, 0x00, 0x00, 0x02, 0x00] [] vendorDevice Host.disconnected
          = .ok resp ∧ resp.submitSeqnum? = some 7 :=
  ⟨⟨rfl, rfl⟩, rfl,
    (controlRequest_returns_iff .release vendorDevice ⟨rfl, rfl⟩ (controlInHeader 7) rfl 2
      [0x80, 0x00, 0x00, 0x00, 0x00, 0x00, 0x02, 0x00] [] Host.disconnected).mpr
      (show vendorDevice.AnswersIn .release _ from
        (if_neg (by decide)).mpr (Or.inr (Or.inr (Or.inr (by decide)))))⟩

/-- **Not every control request comes back**: `GET_STATUS` of an endpoint, which every host
    sends to look for a halt, runs into `unimplemented!`. -/
theorem controlRequest_not_always_returned :
    ¬ ∀ (prof : Profile) (d : UsbDevice), d.HasEp0 →
      ∀ header : UsbIpHeaderBasic, header.ep = 0 → header.direction = 0 ∨ header.direction = 1 →
      ∀ (len : UInt32) (setup data : List UInt8), setup.length = 8 → ∀ host : Host,
        ∃ resp, handleUsbipCmdSubmit prof header len setup data d host = .ok resp ∧
          resp.submitSeqnum? = some header.seqnum := by
  intro h
  obtain ⟨resp, hresp, -⟩ := h .release vendorDevice ⟨rfl, rfl⟩ (controlInHeader 7) rfl
    (Or.inr rfl) 2 [0x82, 0x00, 0x00, 0x00, 0x81, 0x00, 0x02, 0x00] [] rfl Host.disconnected
  have hpanic : handleUsbipCmdSubmit .release (controlInHeader 7) 2
      [0x82, 0x00, 0x00, 0x00, 0x81, 0x00, 0x02, 0x00] [] vendorDevice Host.disconnected
      = .error (.panic (.unimplemented "control in")) := rfl
  rw [hpanic] at hresp
  cases hresp

end Lusbip
