import Lusbip.Server.HostDevices
import Lusbip.Usb.ControlRequest

/-!
# Interfaces by number and interfaces by position

A client names an interface by its number: it reads it in the descriptors of the device and puts
it into `wIndex`. The server keeps the interfaces it could claim in a list, and takes the low byte
of `wIndex` for a position in it. The two agree as long as every interface of the configuration is
claimed and they are numbered from zero. An interface that cannot be claimed leaves no gap in the
list, and all that come behind it answer to the number below their own.

`NumbersAgree` says for one request when the number and the position meet, and
`interfaceRequest_reaches_iff` that nothing else is needed, or enough.
-/

namespace Lusbip

/-! ## What a request should reach -/

/-- The handle a control transfer goes through. -/
def HostCall.controlHandle? : HostCall → Option ControlHandle
  | .controlIn handle _ => some handle
  | .controlOut handle _ => some handle
  | _ => none

def UsbInterface.isBulkOnly (intf : UsbInterface) : Bool :=
  isMassStorageBulkOnlyInterface intf.interfaceClass intf.interfaceSubclass
    intf.interfaceProtocol

namespace UsbDevice

/-- A claimed interface with an interface number. -/
def HasInterface (d : UsbDevice) (number : UInt8) (intf : UsbInterface) : Prop :=
  intf ∈ d.interfaces ∧ intf.handler.interfaceNumber = number

/-- A request for an interface, against a host: it does not panic, whatever is asked of the host
    is asked of the interface with that number, and if nothing is asked the request has failed or
    the interface is one whose `GET_MAX_LUN` the server answers. -/
structure ReachesNamed (d : UsbDevice) (number : UInt8) (host : Host)
    (m : HostM (List UInt8)) : Prop where
  returns : (m.outcome host).Returns
  named : ∀ call ∈ m.callsFrom host 0,
    ∃ intf, d.HasInterface number intf ∧ call.controlHandle? = some (.interface intf.handler)
  answered : m.callsFrom host 0 = [] → (∃ e, m.outcome host = Outcome.err e) ∨
    ∃ intf, d.HasInterface number intf ∧ intf.isBulkOnly = true

/-- The interface the request is dispatched by is the one its index names: the one at that
    position for `GET_MAX_LUN` and for the interface arm, the first one for the vendor requests
    that go to the device handle. -/
def NumbersAgree (d : UsbDevice) (direction : Direction) (setup : SetupPacket) : Prop :=
  if direction = .in ∧ d.handlesMassStorageGetMaxLun setup = true then
    ∃ intf, d.HasInterface setup.index.toUInt8 intf ∧ intf.isBulkOnly = true
  else if d.shouldForwardControlToDevice setup = true then
    ∃ intf, d.interfaces.head? = some intf ∧
      intf.handler.interfaceNumber = setup.index.toUInt8
  else
    requestTypeIsKnown setup.requestType = true ∧
      ∃ intf, d.interfaces[setup.index.toNat &&& 0xFF]? = some intf ∧
        intf.handler.interfaceNumber = setup.index.toUInt8

end UsbDevice

/-! ## What an opened device has -/

/-- **The list of an opened device** has the interfaces that could be claimed, in the order of the
    configuration, and there is one. -/
theorem withNusbDevice_interfaces {prof : Profile} {opens : DeviceInfo → Option OpenedDevice}
    {info : DeviceInfo} {d : UsbDevice} (h : withNusbDevice prof opens info = .ok (some d)) :
    d.interfaces ≠ [] ∧ ∃ opened cfg, opens info = some opened ∧
      opened.activeConfiguration = some cfg ∧
      d.interfaces = cfg.interfaces.filterMap (claimedInterface info.device) := by
  obtain ⟨opened, cfg, hopened, hcfg, hne, hset⟩ := withNusbDevice_ok h
  have hintfs : d.interfaces = cfg.interfaces.filterMap (claimedInterface info.device) :=
    @setStrings_frame _ _ _ _ _ (fun d => d.interfaces) hset fun _ _ _ _ _ => rfl
  exact ⟨hintfs ▸ hne, opened, cfg, hopened, hcfg, hintfs⟩

/-! ## One transfer through one handle -/

section Decoded

variable {host : Host} {handle : ControlHandle} {rt : UInt8}

/-- Both control paths make one transfer once they have decoded the request type. -/
theorem callsFrom_decoded {k : ControlType → Recipient → HostM (List UInt8)}
    (hk : ∀ t r, ∃ call, (k t r).callsFrom host 0 = [call] ∧
      call.controlHandle? = some handle) (h : requestTypeIsKnown rt = true) :
    ∃ call, (((HostM.ret (controlType rt)).bind fun t =>
      (HostM.ret (recipient rt)).bind fun r => k t r)).callsFrom host 0 = [call] ∧
        call.controlHandle? = some handle := by
  obtain ⟨ht, hr⟩ := Bool.and_eq_true _ _ |>.mp h
  obtain ⟨t, ht⟩ := controlType_of_known ht
  obtain ⟨r, hr⟩ := recipient_of_known hr
  rw [ht, HostM.bind_ret_ok, hr, HostM.bind_ret_ok]
  exact hk t r

theorem callsFrom_ask {c : HostCall} {k : c.Answer → HostM (List UInt8)}
    (hc : c.controlHandle? = some handle) (hk : ∀ r, (k r).callsFrom host 1 = []) :
    ∃ call, ((HostM.ask c).bind k).callsFrom host 0 = [call] ∧
      call.controlHandle? = some handle := by
  refine ⟨c, ?_, hc⟩
  show c :: (k (host 0 c)).callsFrom host 1 = [c]
  rw [hk]

theorem callsFrom_controlForInterface {interface : Interface} {ep : UsbEndpoint}
    {setup : SetupPacket} {req : List UInt8}
    (h : requestTypeIsKnown setup.requestType = true) :
    ∃ call, (controlForInterface interface ep setup req).callsFrom host 0 = [call] ∧
      call.controlHandle? = some (.interface interface) := by
  refine callsFrom_decoded (fun t r => ?_) h
  split
  · exact callsFrom_ask rfl fun r => by cases r <;> rfl
  · exact callsFrom_ask rfl fun r => by cases r <;> rfl

theorem callsFrom_handleUrbForDevice {device : Device} {interface : Interface}
    {setup : SetupPacket} {req : List UInt8}
    (h : requestTypeIsKnown setup.requestType = true) :
    ∃ call, (handleUrbForDevice device (some interface) setup req).callsFrom host 0 = [call] ∧
      call.controlHandle? = some (.interface interface) := by
  refine callsFrom_decoded (fun t r => ?_) h
  show ∃ call, HostM.callsFrom host 0 (ite _ _ _) = [call] ∧ _
  split
  · exact callsFrom_ask rfl fun r => by cases r <;> rfl
  · exact callsFrom_ask rfl fun r => by cases r <;> rfl

end Decoded

/-! ## The arms -/

namespace UsbDevice

variable {d : UsbDevice} {number : UInt8} {host : Host}

/-- A request that is dispatched to a claimed interface. -/
theorem reachesNamed_dispatched_iff {m : HostM (List UInt8)} {known : Prop} {intf : UsbInterface}
    (hmem : intf ∈ d.interfaces) (hreturns : (m.outcome host).Returns ↔ known)
    (hcalls : known → ∃ call, m.callsFrom host 0 = [call] ∧
      call.controlHandle? = some (.interface intf.handler)) :
    d.ReachesNamed number host m ↔ known ∧ intf.handler.interfaceNumber = number := by
  constructor
  · intro h
    have hknown := hreturns.mp h.returns
    obtain ⟨call, hcall, hhandle⟩ := hcalls hknown
    obtain ⟨intf', ⟨-, hnumber⟩, hhandle'⟩ := h.named call (hcall ▸ List.mem_singleton_self call)
    rw [hhandle] at hhandle'
    have hsame : intf.handler = intf'.handler := by injection hhandle' with h; injection h
    exact ⟨hknown, hsame ▸ hnumber⟩
  · rintro ⟨hknown, hnumber⟩
    obtain ⟨call, hcall, hhandle⟩ := hcalls hknown
    refine ⟨hreturns.mpr hknown, fun c hc => ?_, fun hnone => ?_⟩
    · rw [hcall] at hc
      rcases List.mem_singleton.mp hc with rfl
      exact ⟨intf, ⟨hmem, hnumber⟩, hhandle⟩
    · rw [hcall] at hnone
      cases hnone

theorem reachesNamed_forwardToInterface_iff {prof : Profile} {ep : UsbEndpoint}
    (hep : ep.attributes = EndpointAttributes.control.toU8) {len : UInt32}
    {setup : SetupPacket} {outData : List UInt8} :
    d.ReachesNamed number host (d.forwardToInterface prof ep len setup outData) ↔
      requestTypeIsKnown setup.requestType = true ∧
        ∃ intf, d.interfaces[setup.index.toNat &&& 0xFF]? = some intf ∧
          intf.handler.interfaceNumber = number := by
  unfold forwardToInterface interfaceAt
  dsimp only
  cases hi : d.interfaces[setup.index.toNat &&& 0xFF]? with
  | none =>
    constructor
    · intro h
      exact absurd h.returns id
    · rintro ⟨-, intf, hintf, -⟩
      cases hintf
  | some intf =>
    dsimp only
    rw [HostM.bind_eq, HostM.bind_ret_ok, handleUrbForInterface, if_pos hep,
      reachesNamed_dispatched_iff (List.mem_of_getElem? hi) controlForInterface_returns_iff
        callsFrom_controlForInterface]
    simp

theorem reachesNamed_forwardToDevice_iff {handler : Device} {setup : SetupPacket}
    {outData : List UInt8} (hfwd : d.shouldForwardControlToDevice setup = true)
    (hne : d.interfaces ≠ []) :
    d.ReachesNamed number host (d.forwardToDevice handler setup outData) ↔
      ∃ intf, d.interfaces.head? = some intf ∧ intf.handler.interfaceNumber = number := by
  obtain ⟨intf, rest, hcons⟩ := List.exists_cons_of_ne_nil hne
  unfold forwardToDevice
  have hknown := requestTypeIsKnown_of_forward hfwd
  have hmem : intf ∈ d.interfaces := hcons ▸ List.mem_cons_self
  rw [hcons, List.head?_cons, Option.map_some, reachesNamed_dispatched_iff hmem
    handleUrbForDevice_returns_iff callsFrom_handleUrbForDevice]
  simp [hknown]

/-- The shortcut asks nothing of the host. -/
theorem reachesNamed_pure_iff {bytes : List UInt8} :
    d.ReachesNamed number host (pure bytes) ↔
      ∃ intf, d.HasInterface number intf ∧ intf.isBulkOnly = true := by
  constructor
  · intro h
    rcases h.answered rfl with ⟨e, he⟩ | hintf
    · cases he
    · exact hintf
  · intro h
    refine ⟨trivial, fun call hcall => ?_, fun _ => Or.inr h⟩
    cases hcall

/-- No arm in front of these takes a request for an interface. -/
theorem recipient_interface {rt : UInt8} (h : rt &&& 0x1f = 1) :
    rt ≠ 0b10000000 ∧ rt ≠ 0b00000000 ∧ rt &&& 0xF = 1 := by
  refine ⟨?_, ?_, ?_⟩
  · rintro rfl
    exact absurd h (by decide)
  · rintro rfl
    exact absurd h (by decide)
  · have hsplit : rt &&& 0xF = (rt &&& 0x1f) &&& 0xF := by
      rw [UInt8.and_assoc]
      rfl
    rw [hsplit, h]
    rfl

/-- The two directions take a request for an interface through the same arms, but for the
    shortcut. -/
theorem reachesNamed_handleUrb_iff {prof : Profile} {ep : UsbEndpoint}
    {intf : Option UsbInterface} {len : UInt32} {setup : SetupPacket} {outData : List UInt8}
    (hep : EndpointAttributes.fromU8 ep.attributes = some .control)
    (hrecipient : setup.requestType &&& 0x1f = 1) (hne : d.interfaces ≠ [])
    (hhandler : d.deviceHandler.isSome = true) :
    d.ReachesNamed setup.index.toUInt8 host (d.handleUrb prof ep intf len setup outData) ↔
      d.NumbersAgree ep.direction setup := by
  obtain ⟨handler, hdevice⟩ := Option.isSome_iff_exists.mp hhandler
  obtain ⟨hnotget, hnotset, hlow⟩ := recipient_interface hrecipient
  have hattr := EndpointAttributes.toU8_of_fromU8 hep
  unfold handleUrb NumbersAgree
  rw [hep]
  cases ep.direction with
  | «in» =>
    dsimp only
    rw [controlIn, if_neg fun h => hnotget h.1]
    by_cases hlun : d.handlesMassStorageGetMaxLun setup = true
    · rw [if_pos hlun, if_pos ⟨rfl, hlun⟩]
      exact reachesNamed_pure_iff
    -- The three ways of a request: answered here, to the device, to the interface.
    · have hlun' : ¬ (Direction.in = .in ∧ d.handlesMassStorageGetMaxLun setup = true) :=
        fun h => hlun h.2
      rw [if_neg hlun, if_neg hlun']
      by_cases hfwd : d.shouldForwardControlToDevice setup = true
      · rw [if_pos ⟨hfwd, hhandler⟩, if_pos hfwd, hdevice]
        exact reachesNamed_forwardToDevice_iff hfwd hne
      · have hfwd' : ¬ (d.shouldForwardControlToDevice setup = true ∧
          d.deviceHandler.isSome = true) := fun h => hfwd h.1
        rw [if_neg hfwd', if_neg hfwd, if_pos hlow]
        exact reachesNamed_forwardToInterface_iff hattr
  | out =>
    dsimp only
    have hnotss : ¬ d.handlesSuperspeedVirtualRequest setup = true := by
      intro h
      simp only [handlesSuperspeedVirtualRequest, Bool.and_eq_true, decide_eq_true_eq] at h
      exact hnotset h.1.2
    have hlun' : ¬ (Direction.out = .in ∧ d.handlesMassStorageGetMaxLun setup = true) := by simp
    rw [controlOut, if_neg fun h => hnotset h.1, if_neg hnotss, if_neg hlun']
    by_cases hfwd : d.shouldForwardControlToDevice setup = true
    · rw [if_pos ⟨hfwd, hhandler⟩, if_pos hfwd, hdevice]
      exact reachesNamed_forwardToDevice_iff hfwd hne
    · have hfwd' : ¬ (d.shouldForwardControlToDevice setup = true ∧
        d.deviceHandler.isSome = true) := fun h => hfwd h.1
      rw [if_neg hfwd', if_neg hfwd, if_pos hlow]
      exact reachesNamed_forwardToInterface_iff hattr

end UsbDevice

/-! ## Requests to an opened device -/

/-- **An interface request reaches the interface it names exactly where number and position
    agree.** For every device the host lets the server open, with every choice of its interfaces
    that can be claimed, every control request for an interface and every host. -/
theorem interfaceRequest_reaches_iff {prof : Profile} {opens : DeviceInfo → Option OpenedDevice}
    {info : DeviceInfo} {d : UsbDevice} (h : withNusbDevice prof opens info = .ok (some d))
    {ep : UsbEndpoint} (hep : EndpointAttributes.fromU8 ep.attributes = some .control)
    {setup : SetupPacket} (hrecipient : setup.requestType &&& 0x1f = 1)
    (intf : Option UsbInterface) (len : UInt32) (outData : List UInt8) (host : Host) :
    d.ReachesNamed setup.index.toUInt8 host (d.handleUrb prof ep intf len setup outData) ↔
      d.NumbersAgree ep.direction setup := by
  have hhandler : d.deviceHandler.isSome = true := by
    rw [(withNusbDevice_openedFrom h).device]
    rfl
  exact UsbDevice.reachesNamed_handleUrb_iff hep hrecipient (withNusbDevice_interfaces h).1
    hhandler

/-- A device with two HID interfaces. -/
def compositeInfo : DeviceInfo where
  device := ⟨0⟩
  sysfsPath := []
  fileName := some "1-4"
  busnum := 1
  deviceAddress := 4
  vendorId := 0x046d
  productId := 0xc52b
  deviceVersion := 0x1200
  usbVersion := 0x0200
  deviceClass := 0
  subclass := 0
  protocol := 0
  speed := some .full
  manufacturerString := none
  productString := none
  serialNumber := none
  interfaceClasses := [3, 3]

/-- The host lets the server have the second interface, and the first one if `first` says so. -/
def compositeOpened (first : Bool) : OpenedDevice where
  activeConfiguration := some
    { value := 1
      attributes := 0xA0
      maxPower := 49
      interfaces :=
        [{ number := 0, descriptor := if first then some ⟨3, 1, 1, none, []⟩ else none },
         { number := 1, descriptor := some ⟨3, 1, 2, none, []⟩ }] }
  configurationCount := 1
  descriptors := none

def compositeDevice (first : Bool) : UsbDevice :=
  describeDevice compositeInfo (compositeOpened first)
    { value := 1, attributes := 0xA0, maxPower := 49, interfaces := [] }
    (([{ number := 0, descriptor := if first then some ⟨3, 1, 1, none, []⟩ else none },
       { number := 1, descriptor := some ⟨3, 1, 2, none, []⟩ }] : List HostInterface).filterMap
      (claimedInterface ⟨0⟩))

/-- `SET_IDLE` for an interface. -/
def setIdle (number : UInt8) : SetupPacket where
  requestType := 0x21
  request := 0x0A
  index := number.toUInt16

/-- With both interfaces claimed, number 1 is at position 1. -/
theorem interfaceRequest_reaches_both :
    (compositeDevice true).ReachesNamed 1 Host.disconnected
      ((compositeDevice true).handleUrb .release ep0OutEndpoint none 0 (setIdle 1) []) :=
  (@interfaceRequest_reaches_iff .release (fun _ => some (compositeOpened true)) compositeInfo
    (compositeDevice true) rfl ep0OutEndpoint rfl (setIdle 1) (by decide) none 0 []
    Host.disconnected).mpr
    ((if_neg (by decide)).mpr ((if_neg (by decide)).mpr ⟨by decide, _, rfl, rfl⟩))

/-- **Without interface 0, a request for it goes to interface 1.** -/
theorem interfaceRequest_not_always_reaches :
    ¬ ∀ (prof : Profile) (opens : DeviceInfo → Option OpenedDevice) (info : DeviceInfo)
      (d : UsbDevice), withNusbDevice prof opens info = .ok (some d) →
      ∀ (ep : UsbEndpoint), EndpointAttributes.fromU8 ep.attributes = some .control →
      ∀ (setup : SetupPacket), setup.requestType &&& 0x1f = 1 →
      ∀ (intf : Option UsbInterface) (len : UInt32) (outData : List UInt8) (host : Host),
        d.ReachesNamed setup.index.toUInt8 host
          (d.handleUrb prof ep intf len setup outData) := by
  intro h
  have hreach := h .release (fun _ => some (compositeOpened false)) compositeInfo
    (compositeDevice false) rfl ep0OutEndpoint rfl (setIdle 0) (by decide) none 0 []
    Host.disconnected
  obtain ⟨intf, ⟨hmem, hnumber⟩, -⟩ := hreach.named
    (.controlOut (.interface ⟨⟨0⟩, 1⟩) ⟨.classSpecific, .interface, 0x0A, 0, 0, []⟩)
    (List.mem_singleton_self _)
  rcases List.mem_singleton.mp hmem with rfl
  exact absurd hnumber (by decide)

end Lusbip
