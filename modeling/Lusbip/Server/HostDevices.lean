import Lusbip.Usb.Device

/-!
# Devices of the host

What the USB library says about a plugged-in device, and `with_nusb_devices`, which opens
it, claims its interfaces and turns it into a `UsbDevice`. Whether a device can be opened and
which of its interfaces can be claimed is up to the host: `OpenedDevice` is what it answered
for one device.

A `DeviceInfo` carries the handle of the physical device it describes, so that a device
that has been unplugged and one plugged in later at the same port are told apart. The server
itself tells devices apart by their bus id only.
-/

namespace Lusbip

/-- `nusb::Speed`, with the code of a variant the program does not name. -/
inductive Speed where
  | low
  | full
  | high
  | super
  | superPlus
  | other (code : UInt32)
  deriving DecidableEq, Repr

/-- The number the protocol has for a speed. -/
def Speed.toU32 : Speed → UInt32
  | .low => 1
  | .full => 2
  | .high => 3
  | .super => 5
  | .superPlus => 6
  | .other code => code + 1

/-- `nusb::DeviceInfo`. `fileName` is the last component of the sysfs path, if there is one
    and it is valid UTF-8. -/
structure DeviceInfo where
  device : Device
  sysfsPath : List UInt8
  fileName : Option String
  busnum : UInt8
  deviceAddress : UInt8
  vendorId : UInt16
  productId : UInt16
  deviceVersion : UInt16
  usbVersion : UInt16
  deviceClass : UInt8
  subclass : UInt8
  protocol : UInt8
  speed : Option Speed
  manufacturerString : Option String
  productString : Option String
  serialNumber : Option String
  /-- The class of each interface. -/
  interfaceClasses : List UInt8
  deriving DecidableEq, Repr

/-- The bus id a device is exported under, in `host_export_bus_id` and, by the same
    expression, in `with_nusb_devices`. -/
def hostExportBusId (info : DeviceInfo) : String :=
  info.fileName.getD s!"{info.busnum}-{info.deviceAddress}-0"

def isUsbHubInfo (info : DeviceInfo) : Bool :=
  info.deviceClass = 0x09 || info.interfaceClasses.any fun cls => cls = 0x09

/-! ## Configuration descriptors -/

/-- The byte at an index; the loop below reads in range only. -/
def byteAt (bytes : List UInt8) (i : Nat) : UInt8 := bytes.getD i 0

/-- The loop of `extract_configuration_descriptors`. Every round moves on by at least two
    bytes, so `fuel` rounds are enough for `fuel` bytes. -/
def extractFrom (descriptors : List UInt8) : Nat → Nat → List (List UInt8)
  | 0, _ => []
  | fuel + 1, offset =>
      if offset + 2 ≤ descriptors.length then
        let descriptorLength := (byteAt descriptors offset).toNat
        if descriptorLength < 2 ∨ descriptors.length < offset + descriptorLength then []
        else if byteAt descriptors (offset + 1) = DescriptorType.configuration.toU8 ∧
            9 ≤ descriptorLength then
          let totalLength := (byteAt descriptors (offset + 2)).toNat +
            256 * (byteAt descriptors (offset + 3)).toNat
          if descriptorLength ≤ totalLength ∧ offset + totalLength ≤ descriptors.length then
            (descriptors.drop offset).take totalLength ::
              extractFrom descriptors fuel (offset + totalLength)
          else extractFrom descriptors fuel (offset + descriptorLength)
        else extractFrom descriptors fuel (offset + descriptorLength)
      else []

def extractConfigurationDescriptors (descriptors : List UInt8) : List (List UInt8) :=
  extractFrom descriptors descriptors.length 0

/-! ## Opening a device -/

structure EndpointDescriptor where
  address : UInt8
  transferType : EndpointAttributes
  maxPacketSize : Nat
  interval : UInt8
  deriving DecidableEq, Repr

structure InterfaceDescriptor where
  interfaceClass : UInt8
  subclass : UInt8
  protocol : UInt8
  stringIndex : Option UInt8
  endpoints : List EndpointDescriptor
  deriving DecidableEq, Repr

/-- An interface of the active configuration. `descriptor` is there if the interface could
    be claimed and its descriptor read. -/
structure HostInterface where
  number : UInt8
  descriptor : Option InterfaceDescriptor
  deriving DecidableEq, Repr

structure HostConfiguration where
  value : UInt8
  attributes : UInt8
  maxPower : UInt8
  interfaces : List HostInterface
  deriving DecidableEq, Repr

/-- What the host answers about a device that it could open. -/
structure OpenedDevice where
  activeConfiguration : Option HostConfiguration
  configurationCount : Nat
  /-- The `descriptors` file in sysfs, if it could be read. -/
  descriptors : Option (List UInt8)
  deriving DecidableEq, Repr

/-- A claimed interface with its descriptor. -/
def claimedInterface (device : Device) (intf : HostInterface) : Option UsbInterface :=
  intf.descriptor.map fun desc =>
    { interfaceClass := desc.interfaceClass
      interfaceSubclass := desc.subclass
      interfaceProtocol := desc.protocol
      endpoints := desc.endpoints.map fun ep =>
        { address := ep.address
          attributes := ep.transferType.toU8
          maxPacketSize := UInt16.ofNat ep.maxPacketSize
          interval := ep.interval }
      stringInterface := desc.stringIndex.getD 0
      classSpecificDescriptor := []
      handler := { device, interfaceNumber := intf.number } }

/-- The device before its strings are set. -/
def describeDevice (info : DeviceInfo) (opened : OpenedDevice) (cfg : HostConfiguration)
    (interfaces : List UsbInterface) : UsbDevice where
  path := info.sysfsPath
  busId := hostExportBusId info
  busNum := info.busnum.toUInt32
  devNum := info.deviceAddress.toUInt32
  speed := (info.speed.map Speed.toU32).getD 0
  vendorId := info.vendorId
  productId := info.productId
  deviceClass := info.deviceClass
  deviceSubclass := info.subclass
  deviceProtocol := info.protocol
  deviceBcd := Version.ofU16 info.deviceVersion
  configurationValue := cfg.value
  numConfigurations := UInt8.ofNat opened.configurationCount
  ep0In := ep0InEndpoint
  ep0Out := ep0OutEndpoint
  interfaces := interfaces
  rawConfigurationDescriptors := (opened.descriptors.map extractConfigurationDescriptors).getD []
  deviceHandler := some info.device
  usbVersion := Version.ofU16 info.usbVersion
  attributes := cfg.attributes
  maxPower := cfg.maxPower

/-- Give a device one of its strings, if the host knows it. -/
def setString (prof : Profile) (set : UInt8 → UsbDevice → UsbDevice) (s : Option String)
    (d : UsbDevice) : Outcome UsbDevice :=
  match s with
  | none => .ok d
  | some s => do
      let (i, d) ← d.newString prof s
      .ok (set i d)

/-- The end of the loop body: the three strings, in the order that fixes their indexes. -/
def setStrings (prof : Profile) (info : DeviceInfo) (d : UsbDevice) : Outcome UsbDevice := do
  let d ← setString prof (fun i d => { d with stringManufacturer := i })
    info.manufacturerString d
  let d ← setString prof (fun i d => { d with stringProduct := i }) info.productString d
  setString prof (fun i d => { d with stringSerial := i }) info.serialNumber d

/-- The body of the loop of `with_nusb_devices`: `none` is a device that is ignored. -/
def withNusbDevice (prof : Profile) (opens : DeviceInfo → Option OpenedDevice)
    (info : DeviceInfo) : Outcome (Option UsbDevice) :=
  match opens info with
  | none => .ok none
  | some opened =>
      match opened.activeConfiguration with
      | none => .ok none
      | some cfg =>
          let interfaces := cfg.interfaces.filterMap (claimedInterface info.device)
          if interfaces = [] then .ok none
          else (setStrings prof info (describeDevice info opened cfg interfaces)).map some

def withNusbDevices (prof : Profile) (opens : DeviceInfo → Option OpenedDevice) :
    List DeviceInfo → Outcome (List UsbDevice)
  | [] => .ok []
  | info :: infos => do
      let d ← withNusbDevice prof opens info
      let ds ← withNusbDevices prof opens infos
      .ok (d.toList ++ ds)

/-! ## What an exported device keeps of the device it was opened from -/

/-- An entry of the inventory was opened from a device of the host. -/
structure OpenedFrom (d : UsbDevice) (info : DeviceInfo) : Prop where
  busId : d.busId = hostExportBusId info
  device : d.deviceHandler = some info.device

/-- A string changes nothing of a device but its index and the string pool. -/
theorem setString_frame {β : Type} {prof : Profile} {set : UInt8 → UsbDevice → UsbDevice}
    {s : Option String} {d d' : UsbDevice} {f : UsbDevice → β}
    (h : setString prof set s d = .ok d') (hset : ∀ i d, f (set i d) = f d)
    (hpool : ∀ d pool, f { d with stringPool := pool } = f d) : f d' = f d := by
  cases s with
  | none =>
    cases h
    rfl
  | some s =>
    obtain ⟨⟨i, d₁⟩, hn, hr⟩ := Outcome.bind_eq_ok.mp h
    cases hr
    rw [hset, UsbDevice.newString_ok hn, hpool]

theorem setStrings_frame {β : Type} {prof : Profile} {d d' : UsbDevice} {info : DeviceInfo}
    {f : UsbDevice → β} (h : setStrings prof info d = .ok d')
    (hset : ∀ d i j k pool, f { d with
      stringManufacturer := i, stringProduct := j, stringSerial := k, stringPool := pool } = f d) :
    f d' = f d := by
  obtain ⟨d₁, h₁, h⟩ := Outcome.bind_eq_ok.mp h
  obtain ⟨d₂, h₂, h₃⟩ := Outcome.bind_eq_ok.mp h
  have hpool : ∀ d pool, f { d with stringPool := pool } = f d := fun d pool => hset d _ _ _ pool
  calc f d' = f d₂ := setString_frame h₃ (fun i d => hset d _ _ i _) hpool
    _ = f d₁ := setString_frame h₂ (fun i d => hset d _ i _ _) hpool
    _ = f d := setString_frame h₁ (fun i d => hset d i _ _ _) hpool

/-- **A device that is opened** has been described from what the host says, and given its strings. -/
theorem withNusbDevice_ok {prof : Profile} {opens : DeviceInfo → Option OpenedDevice}
    {info : DeviceInfo} {d : UsbDevice} (h : withNusbDevice prof opens info = .ok (some d)) :
    ∃ opened cfg, opens info = some opened ∧ opened.activeConfiguration = some cfg ∧
      cfg.interfaces.filterMap (claimedInterface info.device) ≠ [] ∧
      setStrings prof info (describeDevice info opened cfg
        (cfg.interfaces.filterMap (claimedInterface info.device))) = .ok d := by
  unfold withNusbDevice at h
  split at h
  · cases h
  · rename_i opened hopened
    split at h
    · cases h
    · rename_i cfg hcfg
      dsimp only at h
      split at h
      · cases h
      · rename_i hne
        obtain ⟨d', hset, hd⟩ := Outcome.map_eq_ok.mp h
        cases hd
        exact ⟨opened, cfg, hopened, hcfg, hne, hset⟩

theorem withNusbDevice_openedFrom {prof : Profile} {opens : DeviceInfo → Option OpenedDevice}
    {info : DeviceInfo} {d : UsbDevice} (h : withNusbDevice prof opens info = .ok (some d)) :
    OpenedFrom d info := by
  obtain ⟨opened, cfg, -, -, -, hset⟩ := withNusbDevice_ok h
  have hkept := @setStrings_frame _ _ _ _ _ (fun d => (d.busId, d.deviceHandler)) hset
    fun _ _ _ _ _ => rfl
  exact ⟨congrArg Prod.fst hkept, congrArg Prod.snd hkept⟩

/-- A list of opened devices, and the devices of the host each was opened from. -/
theorem withNusbDevices_openedFrom {prof : Profile} {opens : DeviceInfo → Option OpenedDevice}
    {infos : List DeviceInfo} {ds : List UsbDevice}
    (h : withNusbDevices prof opens infos = .ok ds) :
    (∀ d ∈ ds, ∃ info ∈ infos, OpenedFrom d info) ∧
      (ds.map (·.busId)).Sublist (infos.map hostExportBusId) := by
  induction infos generalizing ds with
  | nil =>
    cases h
    exact ⟨fun d hd => (nomatch hd), List.Sublist.slnil⟩
  | cons info infos ih =>
    obtain ⟨d?, hd, h⟩ := Outcome.bind_eq_ok.mp h
    obtain ⟨rest, hrest, h⟩ := Outcome.bind_eq_ok.mp h
    cases h
    obtain ⟨hmem, hsub⟩ := ih hrest
    have hrestmem : ∀ d ∈ rest, ∃ i ∈ info :: infos, OpenedFrom d i := fun d hd =>
      have ⟨i, hi, ho⟩ := hmem d hd
      ⟨i, List.mem_cons_of_mem _ hi, ho⟩
    cases d? with
    | none => exact ⟨hrestmem, hsub.cons _⟩
    | some d =>
      have ho := withNusbDevice_openedFrom hd
      refine ⟨fun e he => ?_, ?_⟩
      · rcases List.mem_cons.mp he with rfl | he
        · exact ⟨info, List.mem_cons_self, ho⟩
        · exact hrestmem e he
      · show (d.busId :: rest.map (·.busId)).Sublist (hostExportBusId info :: _)
        rw [ho.busId]
        exact hsub.cons_cons _

end Lusbip
