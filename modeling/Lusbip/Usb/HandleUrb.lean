import Lusbip.Usb.HostTransfer

/-!
# `UsbDevice::handle_urb`

The dispatch of one URB. Endpoint 0 answers descriptor requests itself, from the fields of
the device, and forwards the rest by recipient: to the device handle, or to the claimed
interface the low byte of `wIndex` names. The arms are tried in the order of the source; the
last arm of each direction is `unimplemented!`. Every other endpoint goes to its interface.
-/

namespace Lusbip

/-! ## Descriptors -/

/-- The truncation every descriptor arm ends with:
    `if setup_packet.length < desc.len() as u16 { desc.resize(..) }`. -/
def truncateTo (length : UInt16) (desc : List UInt8) : List UInt8 :=
  if length < UInt16.ofNat desc.length then desc.take length.toNat else desc

/-- `char::encode_utf16` -/
def encodeUtf16Char (c : Char) : List UInt16 :=
  if c.toNat < 0x10000 then [UInt16.ofNat c.toNat]
  else
    let n := c.toNat - 0x10000
    [UInt16.ofNat (0xD800 + n / 0x400), UInt16.ofNat (0xDC00 + n % 0x400)]

/-- `str::encode_utf16` -/
def encodeUtf16 (s : String) : List UInt16 := s.toList.flatMap encodeUtf16Char

/-- A `u16`, low byte first. -/
def leBytes (n : UInt16) : List UInt8 := [n.toUInt8, (n >>> 8).toUInt8]

/-- The companion of an endpoint at SuperSpeed. Only an interrupt endpoint tells its bytes per
    interval. -/
def superspeedEndpointCompanionDescriptor (endpoint : UsbEndpoint) : List UInt8 :=
  let bytesPerInterval : UInt16 :=
    if endpoint.attributes = EndpointAttributes.interrupt.toU8 then endpoint.maxPacketSize else 0
  [0x06, DescriptorType.superspeedUsbEndpointCompanion.toU8, 0x00, 0x00] ++
    leBytes bytesPerInterval

/-- A mass storage interface with the SCSI command set and the bulk-only transport. -/
def isMassStorageBulkOnlyInterface (cls subclass protocol : UInt8) : Bool :=
  cls = 0x08 && subclass = 0x06 && protocol = 0x50

namespace UsbDevice

/-- The configuration descriptor of the host, as it was read there, up to the length that is asked
    for. -/
def rawConfigurationDescriptor (d : UsbDevice) (configurationIndex : UInt8)
    (requestedLength : UInt16) : Option (List UInt8) :=
  d.rawConfigurationDescriptors[configurationIndex.toNat]?.map fun descriptor =>
    descriptor.take requestedLength.toNat

/-- The binary object store: two capabilities at SuperSpeed, and none below. -/
def bosDescriptor (d : UsbDevice) : List UInt8 :=
  if d.isSuperspeed then
    [0x05, DescriptorType.bos.toU8, 0x16, 0x00, 0x02,
     0x07, DescriptorType.deviceCapability.toU8, 0x02, 0x02, 0x00, 0x00, 0x00,
     0x0A, DescriptorType.deviceCapability.toU8, 0x03, 0x00, 0x0E, 0x00, 0x01, 0x0A, 0xFF, 0x07]
  else [0x05, DescriptorType.bos.toU8, 0x05, 0x00, 0x00]

/-- The device descriptor, made from what is known of the device. -/
def deviceDescriptor (d : UsbDevice) : List UInt8 :=
  [0x12, DescriptorType.device.toU8, d.usbVersion.bcdBytes.1, d.usbVersion.bcdBytes.2,
   d.deviceClass, d.deviceSubclass, d.deviceProtocol, d.ep0DescriptorSize] ++
    leBytes d.vendorId ++ leBytes d.productId ++
    [d.deviceBcd.bcdBytes.1, d.deviceBcd.bcdBytes.2,
     d.stringManufacturer, d.stringProduct, d.stringSerial, d.numConfigurations]

/-- The device qualifier, made from the same fields. -/
def deviceQualifierDescriptor (d : UsbDevice) : List UInt8 :=
  [0x0A, DescriptorType.deviceQualifier.toU8, d.usbVersion.bcdBytes.1, d.usbVersion.bcdBytes.2,
   d.deviceClass, d.deviceSubclass, d.deviceProtocol, d.ep0DescriptorSize,
   d.numConfigurations, 0x00]

/-- The descriptor of an endpoint, with its companion at SuperSpeed. -/
def endpointDescriptor (d : UsbDevice) (endpoint : UsbEndpoint) : List UInt8 :=
  [0x07, DescriptorType.endpoint.toU8, endpoint.address, endpoint.attributes] ++
    leBytes endpoint.maxPacketSize ++ [endpoint.interval] ++
    if d.isSuperspeed then superspeedEndpointCompanionDescriptor endpoint else []

/-- The descriptor of an interface, followed by those of its class and its endpoints. -/
def interfaceDescriptor (d : UsbDevice) (i : Nat) (intf : UsbInterface) : List UInt8 :=
  [0x09, DescriptorType.interface.toU8, UInt8.ofNat i, 0x00,
   UInt8.ofNat intf.endpoints.length, intf.interfaceClass, intf.interfaceSubclass,
   intf.interfaceProtocol, intf.stringInterface] ++
    intf.classSpecificDescriptor ++ intf.endpoints.flatMap d.endpointDescriptor

/-- The interface descriptors, numbered from `i` on. -/
def interfaceDescriptorsFrom (d : UsbDevice) : Nat → List UsbInterface → List UInt8
  | _, [] => []
  | i, intf :: rest => d.interfaceDescriptor i intf ++ interfaceDescriptorsFrom d (i + 1) rest

/-- The synthesized configuration descriptor, with `wTotalLength` filled in. -/
def configurationDescriptor (d : UsbDevice) : List UInt8 :=
  let body := d.interfaceDescriptorsFrom 0 d.interfaces
  [0x09, DescriptorType.configuration.toU8] ++ leBytes (UInt16.ofNat (9 + body.length)) ++
    [UInt8.ofNat d.interfaces.length, d.configurationValue, d.stringConfiguration,
     d.attributes, d.maxPower] ++ body

/-- The string descriptor of `s`. `2 + bytes.len() as u8 * 2` is computed on `u8`. -/
def stringDescriptor (prof : Profile) (s : String) : Outcome (List UInt8) := do
  let bytes := encodeUtf16 s
  let double ← mulU8 prof (UInt8.ofNat bytes.length) 2
  let bLength ← addU8 prof 2 double
  .ok ([bLength, DescriptorType.string.toU8] ++ bytes.flatMap leBytes)

/-- `GET_DESCRIPTOR`, by the descriptor type in the high byte of `wValue`. -/
def getDescriptor (prof : Profile) (d : UsbDevice) (setup : SetupPacket) :
    Outcome (List UInt8) :=
  match DescriptorType.fromU16 (setup.value >>> 8) with
  | some .device => .ok (truncateTo setup.length d.deviceDescriptor)
  | some .bos => .ok (truncateTo setup.length d.bosDescriptor)
  | some .configuration =>
      match d.rawConfigurationDescriptor setup.value.toUInt8 setup.length with
      | some descriptor => .ok descriptor
      | none => .ok (truncateTo setup.length d.configurationDescriptor)
  | some .string =>
      let index := setup.value.toUInt8
      if index = 0 then
        .ok (truncateTo setup.length [4, DescriptorType.string.toU8, 0x09, 0x04])
      else
        match d.stringAt index with
        | some s => (stringDescriptor prof s).map (truncateTo setup.length)
        -- Hosts probe optional strings; a missing one is answered with nothing.
        | none => .ok []
  | some .deviceQualifier => .ok (truncateTo setup.length d.deviceQualifierDescriptor)
  | _ => .ok []

/-! ## Guards of the dispatch -/

/-- A configuration that is set already is not set once more. -/
def shouldForwardSetConfiguration (d : UsbDevice) (requestedConfiguration : UInt8) : Bool :=
  requestedConfiguration != d.configurationValue

/-- `GET_MAX_LUN` of a mass storage interface is answered without the device. -/
def handlesMassStorageGetMaxLun (d : UsbDevice) (setup : SetupPacket) : Bool :=
  setup.requestType = 0xA1 && setup.request = 0xFE && setup.value = 0 && setup.length = 1 &&
    (d.interfaces[(setup.index &&& 0xFF).toNat]?.any fun intf =>
      isMassStorageBulkOnlyInterface intf.interfaceClass intf.interfaceSubclass
        intf.interfaceProtocol)

/-- `SET_SEL` and `SET_ISOCH_DELAY` are answered here and not passed on. -/
def handlesSuperspeedVirtualRequest (d : UsbDevice) (setup : SetupPacket) : Bool :=
  d.isSuperspeed && setup.requestType = 0x00 && (setup.request = 0x30 || setup.request = 0x31)

/-- The vendor requests of a CP210x to its interface go to the device as a whole. -/
def shouldForwardControlToDevice (d : UsbDevice) (setup : SetupPacket) : Bool :=
  let isVendorRequest := setup.requestType &&& 0x60 = 0x40
  let isInterfaceRecipient := setup.requestType &&& 0x1f = 0x01
  let isCp210x := d.vendorId = 0x10c4 && d.productId = 0xea60
  isCp210x && isVendorRequest && isInterfaceRecipient

/-! ## The dispatch -/

/-- `&self.interfaces[setup_packet.index as usize & 0xFF]` -/
def interfaceAt (d : UsbDevice) (index : UInt16) : Outcome UsbInterface :=
  let i := index.toNat &&& 0xFF
  match d.interfaces[i]? with
  | some intf => .ok intf
  | none => Outcome.panic (.indexOutOfBounds i d.interfaces.length)

/-- Forward to a device handle, through the first claimed interface if there is one. -/
def forwardToDevice (d : UsbDevice) (handler : Device) (setup : SetupPacket)
    (outData : List UInt8) : HostM (List UInt8) :=
  handleUrbForDevice handler (d.interfaces.head?.map (·.handler)) setup outData

/-- Forward to the interface `wIndex` names. -/
def forwardToInterface (prof : Profile) (d : UsbDevice) (ep : UsbEndpoint)
    (transferBufferLength : UInt32) (setup : SetupPacket) (outData : List UInt8) :
    HostM (List UInt8) := do
  let intf ← HostM.ret (d.interfaceAt setup.index)
  handleUrbForInterface prof intf.handler ep transferBufferLength setup outData

/-- The `(Some(Control), In)` arm. -/
def controlIn (prof : Profile) (d : UsbDevice) (ep : UsbEndpoint)
    (transferBufferLength : UInt32) (setup : SetupPacket) (outData : List UInt8) :
    HostM (List UInt8) :=
  if setup.requestType = 0b10000000 ∧
      StandardRequest.fromU8 setup.request = some .getDescriptor then
    .ret (d.getDescriptor prof setup)
  else if d.handlesMassStorageGetMaxLun setup then
    pure [0]
  else if d.shouldForwardControlToDevice setup ∧ d.deviceHandler.isSome then do
    let handler ← HostM.ret (Outcome.unwrap d.deviceHandler)
    d.forwardToDevice handler setup outData
  else if setup.requestType &&& 0xF = 1 then
    d.forwardToInterface prof ep transferBufferLength setup outData
  else if setup.requestType &&& 0xF = 0 ∧ d.deviceHandler.isSome then do
    let handler ← HostM.ret (Outcome.unwrap d.deviceHandler)
    d.forwardToDevice handler setup outData
  else
    .ret (Outcome.panic (.unimplemented "control in"))

/-- The standard `SET_CONFIGURATION` arm: forwarded when the value is not the recorded
    one, and answered with the recorded value whatever the host says. -/
def setConfiguration (d : UsbDevice) (setup : SetupPacket) : HostM (List UInt8) := do
  match d.deviceHandler with
  | some device =>
      if d.shouldForwardSetConfiguration setup.value.toUInt8 then
        let _ ← HostM.ask (.setConfiguration device setup.value.toUInt8)
  | none => pure ()
  pure (truncateTo setup.length [d.configurationValue])

/-- The `(Some(Control), Out)` arm. -/
def controlOut (prof : Profile) (d : UsbDevice) (ep : UsbEndpoint)
    (transferBufferLength : UInt32) (setup : SetupPacket) (outData : List UInt8) :
    HostM (List UInt8) :=
  if setup.requestType = 0b00000000 ∧
      StandardRequest.fromU8 setup.request = some .setConfiguration then
    d.setConfiguration setup
  else if d.handlesSuperspeedVirtualRequest setup then
    pure []
  else if d.shouldForwardControlToDevice setup ∧ d.deviceHandler.isSome then do
    let handler ← HostM.ret (Outcome.unwrap d.deviceHandler)
    d.forwardToDevice handler setup outData
  else if setup.requestType &&& 0xF = 1 then
    d.forwardToInterface prof ep transferBufferLength setup outData
  else if setup.requestType &&& 0xF = 0 then
    match d.deviceHandler with
    | some handler => d.forwardToDevice handler setup outData
    | none => pure []
  else
    .ret (Outcome.panic (.unimplemented "control out"))

/-- An URB, by the kind of its endpoint and its direction. -/
def handleUrb (prof : Profile) (d : UsbDevice) (ep : UsbEndpoint) (intf : Option UsbInterface)
    (transferBufferLength : UInt32) (setup : SetupPacket) (outData : List UInt8) :
    HostM (List UInt8) :=
  match EndpointAttributes.fromU8 ep.attributes, ep.direction with
  | some .control, .in => d.controlIn prof ep transferBufferLength setup outData
  | some .control, .out => d.controlOut prof ep transferBufferLength setup outData
  | _, _ => do
      let intf ← HostM.ret (Outcome.unwrap intf)
      handleUrbForInterface prof intf.handler ep transferBufferLength setup outData

end UsbDevice

end Lusbip
