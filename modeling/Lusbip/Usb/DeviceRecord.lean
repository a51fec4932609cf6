import Lusbip.Lib.Text
import Lusbip.Usb.Responses

/-!
# The device record and the descriptors

A client learns about a device twice: from the 312-byte record of the device list and of the
reply to an import, whose fields are big-endian, and from the descriptors that the control
endpoint answers, whose fields are little-endian. Here are the clients of both, the readers of a
record and of the two descriptors, and what they have to agree on.

They agree on all shared fields but the release number. A `Version` keeps it as a byte and two
digits; `bcd_bytes` puts the digits together again, `to_bytes` has one byte left for them and
sends the first digit there.
-/

namespace Lusbip

open Lib Lib.Reader

/-! ## Fields -/

def readU8 : Reader UInt8 := .exact 1 fun bs => .done (bs.getD 0 0)

def readU16Le : Reader UInt16 := .exact 2 fun bs => .done (u16OfLe (bs.getD 0 0) (bs.getD 1 0))

theorem readU8_reads (n : UInt8) : Reads readU8 [n] n := reads_exact rfl rfl

theorem toNat_u16OfLe (lo hi : UInt8) : (u16OfLe lo hi).toNat = 256 * hi.toNat + lo.toNat := by
  have hlo := lo.toNat_lt
  have hhi := hi.toNat_lt
  -- The high byte is shifted out of the way of the low one, so `|||` adds.
  have hshift : hi.toNat <<< 8 % 2 ^ 16 = 2 ^ 8 * hi.toNat := by
    rw [Nat.shiftLeft_eq]
    omega
  rw [u16OfLe, UInt16.toNat_or, UInt16.toNat_shiftLeft, UInt8.toNat_toUInt16,
    UInt8.toNat_toUInt16]
  show hi.toNat <<< 8 % 2 ^ 16 ||| lo.toNat = _
  rw [hshift, ← Nat.two_pow_add_eq_or_of_lt hlo hi.toNat]

/-- The bytes of a `u16` are those it is put together from. -/
theorem u16OfLe_bytes (n : UInt16) : u16OfLe n.toUInt8 (n >>> 8).toUInt8 = n := by
  have hlt := n.toNat_lt
  refine UInt16.toNat_inj.mp ?_
  rw [toNat_u16OfLe]
  simp [Nat.shiftRight_eq_div_pow]
  omega

theorem readU16Le_reads (lo hi : UInt8) : Reads readU16Le [lo, hi] (u16OfLe lo hi) :=
  reads_exact rfl rfl

theorem readU16Le_leBytes (n : UInt16) : Reads readU16Le (leBytes n) n := by
  have h := readU16Le_reads n.toUInt8 (n >>> 8).toUInt8
  rwa [u16OfLe_bytes] at h

theorem readU16_pair (hi lo : UInt8) : Reads readU16 [hi, lo] (u16OfLe lo hi) := by
  have hlo := lo.toNat_lt
  have hhi := hi.toNat_lt
  have heq : UInt16.ofNat (beNat [hi, lo]) = u16OfLe lo hi := by
    refine UInt16.toNat_inj.mp ?_
    rw [toNat_u16OfLe, UInt16.toNat_ofNat']
    simp only [beNat, List.foldl_cons, List.foldl_nil]
    omega
  exact reads_exact rfl (congrArg Reader.done heq)

/-! ## Records -/

/-- The 312-byte record of a device. -/
structure DeviceRecord where
  path : List UInt8
  busId : List UInt8
  busNum : UInt32
  devNum : UInt32
  speed : UInt32
  vendorId : UInt16
  productId : UInt16
  bcdDevice : UInt16
  deviceClass : UInt8
  deviceSubclass : UInt8
  deviceProtocol : UInt8
  configurationValue : UInt8
  numConfigurations : UInt8
  numInterfaces : UInt8
  deriving DecidableEq, Repr

def readDeviceRecord : Reader DeviceRecord := do
  let path ← readExact 256
  let busId ← readExact 32
  let busNum ← readU32
  let devNum ← readU32
  let speed ← readU32
  let vendorId ← readU16
  let productId ← readU16
  let bcdDevice ← readU16
  let deviceClass ← readU8
  let deviceSubclass ← readU8
  let deviceProtocol ← readU8
  let configurationValue ← readU8
  let numConfigurations ← readU8
  let numInterfaces ← readU8
  pure { path, busId, busNum, devNum, speed, vendorId, productId, bcdDevice, deviceClass,
         deviceSubclass, deviceProtocol, configurationValue, numConfigurations, numInterfaces }

/-- What a reader makes of the record of a device. -/
def UsbDevice.record (d : UsbDevice) : DeviceRecord where
  path := resize 256 d.path
  busId := resize 32 (asBytes d.busId)
  busNum := d.busNum
  devNum := d.devNum
  speed := d.speed
  vendorId := d.vendorId
  productId := d.productId
  bcdDevice := u16OfLe d.deviceBcd.minor d.deviceBcd.major
  deviceClass := d.deviceClass
  deviceSubclass := d.deviceSubclass
  deviceProtocol := d.deviceProtocol
  configurationValue := d.configurationValue
  numConfigurations := d.numConfigurations
  numInterfaces := UInt8.ofNat d.interfaces.length

@[simp] theorem length_resize (n : Nat) (bytes : List UInt8) : (resize n bytes).length = n := by
  rw [resize, List.length_append, List.length_take, List.length_replicate]
  omega

theorem resize_of_length_le {n : Nat} {bytes : List UInt8} (h : bytes.length ≤ n) :
    resize n bytes = bytes ++ List.replicate (n - bytes.length) 0 := by
  rw [resize, List.take_of_length_le h]

namespace UsbDevice

variable {prof : Profile} {d : UsbDevice} {bytes : List UInt8}

/-- The bytes of a record. -/
def recordBytes (d : UsbDevice) : List UInt8 :=
  resize 256 d.path ++ resize 32 (asBytes d.busId) ++
    be32 d.busNum ++ be32 d.devNum ++ be32 d.speed ++ be16 d.vendorId ++ be16 d.productId ++
    [d.deviceBcd.major, d.deviceBcd.minor, d.deviceClass, d.deviceSubclass, d.deviceProtocol,
     d.configurationValue, d.numConfigurations, UInt8.ofNat d.interfaces.length]

/-- The assertions decide whether there is a record, and nothing else does. -/
theorem toBytes_eq_ok : d.toBytes prof = .ok bytes ↔
    (prof = .dev → d.path.length ≤ 256 ∧ (asBytes d.busId).length ≤ 32) ∧
      d.recordBytes = bytes := by
  show (debugAssert prof _ >>= fun _ => debugAssert prof _ >>= _) = _ ↔ _
  unfold debugAssert
  by_cases hpath : prof = .dev ∧ ¬ d.path.length ≤ 256
  · rw [if_pos hpath]
    exact iff_of_false (fun h => nomatch h) fun h => hpath.2 (h.1 hpath.1).1
  · rw [if_neg hpath]
    by_cases hbus : prof = .dev ∧ ¬ (asBytes d.busId).length ≤ 32
    · rw [if_pos hbus]
      exact iff_of_false (fun h => nomatch h) fun h => hbus.2 (h.1 hbus.1).2
    · rw [if_neg hbus]
      show Except.ok _ = Except.ok _ ↔ _
      rw [Except.ok.injEq]
      refine (and_iff_right fun hdev => ⟨?_, ?_⟩).symm
      · exact not_not.mp fun hn => hpath ⟨hdev, hn⟩
      · exact not_not.mp fun hn => hbus ⟨hdev, hn⟩

/-- **The record is read back**, all of it. -/
theorem toBytes_reads (h : d.toBytes prof = .ok bytes) :
    Reads readDeviceRecord bytes d.record := by
  obtain ⟨-, rfl⟩ := toBytes_eq_ok.mp h
  rw [recordBytes]
  simp only [List.append_assoc]
  refine (readExact_reads (length_resize 256 d.path)).bind
    ((readExact_reads (length_resize 32 (asBytes d.busId))).bind
    ((readU32_reads d.busNum).bind ((readU32_reads d.devNum).bind ((readU32_reads d.speed).bind
    ((readU16_reads d.vendorId).bind ((readU16_reads d.productId).bind ?_))))))
  refine (readU16_pair d.deviceBcd.major d.deviceBcd.minor).bind
    ((readU8_reads d.deviceClass).bind ((readU8_reads d.deviceSubclass).bind
    ((readU8_reads d.deviceProtocol).bind ((readU8_reads d.configurationValue).bind
    ((readU8_reads d.numConfigurations).bind ((readU8_reads _).wrap _))))))

end UsbDevice

/-! ## Descriptors -/

/-- A device descriptor, without its length and its type. -/
structure DeviceDescriptor where
  bcdUsb : UInt16
  deviceClass : UInt8
  deviceSubclass : UInt8
  deviceProtocol : UInt8
  maxPacketSize0 : UInt8
  idVendor : UInt16
  idProduct : UInt16
  bcdDevice : UInt16
  iManufacturer : UInt8
  iProduct : UInt8
  iSerialNumber : UInt8
  numConfigurations : UInt8
  deriving DecidableEq, Repr

def readDeviceDescriptor : Reader DeviceDescriptor := do
  let _ ← readExact 2
  let bcdUsb ← readU16Le
  let deviceClass ← readU8
  let deviceSubclass ← readU8
  let deviceProtocol ← readU8
  let maxPacketSize0 ← readU8
  let idVendor ← readU16Le
  let idProduct ← readU16Le
  let bcdDevice ← readU16Le
  let iManufacturer ← readU8
  let iProduct ← readU8
  let iSerialNumber ← readU8
  let numConfigurations ← readU8
  pure { bcdUsb, deviceClass, deviceSubclass, deviceProtocol, maxPacketSize0, idVendor,
         idProduct, bcdDevice, iManufacturer, iProduct, iSerialNumber, numConfigurations }

/-- The head of a configuration descriptor, without its length and its type. -/
structure ConfigurationDescriptor where
  totalLength : UInt16
  numInterfaces : UInt8
  configurationValue : UInt8
  deriving DecidableEq, Repr

def readConfigurationDescriptor : Reader ConfigurationDescriptor := do
  let _ ← readExact 2
  let totalLength ← readU16Le
  let numInterfaces ← readU8
  let configurationValue ← readU8
  pure { totalLength, numInterfaces, configurationValue }

namespace Version

/-- The release number that `bcd_bytes` gives, low byte first. -/
def descriptorBcd (v : Version) : UInt16 := u16OfLe v.bcdBytes.1 v.bcdBytes.2

/-- The release number that the record gives, high byte first. -/
def recordBcd (v : Version) : UInt16 := u16OfLe v.minor v.major

theorem and_fifteen (n : Nat) : n &&& 15 = n % 16 := Nat.and_two_pow_sub_one_eq_mod n 4

theorem toNat_major_ofU16 (value : UInt16) : (ofU16 value).major.toNat = value.toNat / 256 := by
  have hlt := value.toNat_lt
  simp [ofU16, Nat.shiftRight_eq_div_pow]
  omega

theorem toNat_minor_ofU16 (value : UInt16) :
    (ofU16 value).minor.toNat = value.toNat % 256 / 16 := by
  simp only [ofU16, UInt16.toNat_toUInt8, UInt16.toNat_and, UInt16.toNat_shiftRight,
    UInt16.reduceToNat, Nat.shiftRight_eq_div_pow, Nat.reduceMod, Nat.reducePow, and_fifteen]
  omega

theorem toNat_patch_ofU16 (value : UInt16) : (ofU16 value).patch.toNat = value.toNat % 16 := by
  simp only [ofU16, UInt16.toNat_toUInt8, UInt16.toNat_and, UInt16.reduceToNat, and_fifteen]
  omega

/-- Two digits put together. -/
theorem toNat_bcdBytes_fst {v : Version} (hminor : v.minor.toNat < 16)
    (hpatch : v.patch.toNat < 16) :
    v.bcdBytes.1.toNat = 16 * v.minor.toNat + v.patch.toNat := by
  have hshift : v.minor.toNat <<< 4 % 2 ^ 8 = 2 ^ 4 * v.minor.toNat := by
    rw [Nat.shiftLeft_eq]
    omega
  show (v.minor <<< 4 ||| v.patch).toNat = _
  rw [UInt8.toNat_or, UInt8.toNat_shiftLeft]
  show v.minor.toNat <<< 4 % 2 ^ 8 ||| v.patch.toNat = _
  rw [hshift, ← Nat.two_pow_add_eq_or_of_lt hpatch]

/-- `bcd_bytes` is the inverse of `Version::from`. -/
theorem descriptorBcd_ofU16 (value : UInt16) : (ofU16 value).descriptorBcd = value := by
  have hminor := toNat_minor_ofU16 value
  have hpatch := toNat_patch_ofU16 value
  have hlow : (ofU16 value).bcdBytes.1.toNat = value.toNat % 256 := by
    rw [toNat_bcdBytes_fst (by omega) (by omega)]
    omega
  refine UInt16.toNat_inj.mp ?_
  rw [descriptorBcd, toNat_u16OfLe, hlow]
  show 256 * (ofU16 value).major.toNat + _ = _
  rw [toNat_major_ofU16]
  omega

/-- The record keeps the high byte; for the low byte it has the first digit. -/
theorem toNat_recordBcd_ofU16 (value : UInt16) :
    (ofU16 value).recordBcd.toNat = 256 * (value.toNat / 256) + value.toNat % 256 / 16 := by
  rw [recordBcd, toNat_u16OfLe, toNat_major_ofU16, toNat_minor_ofU16]

theorem recordBcd_ofU16_iff (value : UInt16) :
    (ofU16 value).recordBcd = value ↔ value &&& 0xFF = 0 := by
  rw [← UInt16.toNat_inj, toNat_recordBcd_ofU16, ← UInt16.toNat_inj, UInt16.toNat_and]
  -- Two digits and the first of them are the same number only if both are zero.
  have hlow : value.toNat &&& 255 = value.toNat % 256 := Nat.and_two_pow_sub_one_eq_mod _ 8
  show _ ↔ value.toNat &&& 255 = 0
  rw [hlow]
  omega

end Version

/-! ## What the control endpoint answers -/

/-- A `GET_DESCRIPTOR` for a type of descriptor. -/
structure SetupPacket.Gets (setup : SetupPacket) (type : DescriptorType) : Prop where
  requestType : setup.requestType = 0b10000000
  request : StandardRequest.fromU8 setup.request = some .getDescriptor
  type : DescriptorType.fromU16 (setup.value >>> 8) = some type

theorem truncateTo_prefix (length : UInt16) (desc : List UInt8) :
    truncateTo length desc <+: desc := by
  unfold truncateTo
  split
  · exact List.take_prefix length.toNat desc
  · exact List.prefix_refl desc

/-- A descriptor whose length is a `u16` is cut where the request ends. -/
theorem truncateTo_eq_take {length : UInt16} {desc : List UInt8} (h : desc.length < 2 ^ 16) :
    truncateTo length desc = desc.take length.toNat := by
  have hmod : desc.length % 2 ^ 16 = desc.length := Nat.mod_eq_of_lt h
  unfold truncateTo
  simp only [UInt16.lt_iff_toNat_lt, UInt16.toNat_ofNat', hmod]
  split
  · rfl
  · exact (List.take_of_length_le (by omega)).symm

theorem min_le_length_truncateTo (length : UInt16) (desc : List UInt8) :
    min length.toNat desc.length ≤ (truncateTo length desc).length := by
  unfold truncateTo
  split
  · rw [List.length_take]
  · exact Nat.min_le_right length.toNat desc.length

namespace UsbDevice

variable {prof : Profile} {d : UsbDevice} {setup : SetupPacket}

/-- On every control-IN endpoint, with every host, the setup packet is answered with as much
    of `desc` as it asks for. -/
def AnswersWith (prof : Profile) (d : UsbDevice) (setup : SetupPacket) (desc : List UInt8) : Prop :=
  ∃ bytes, bytes <+: desc ∧ min setup.length.toNat desc.length ≤ bytes.length ∧
    ∀ (ep : UsbEndpoint) (intf : Option UsbInterface) (len : UInt32) (outData : List UInt8)
      (host : Host), EndpointAttributes.fromU8 ep.attributes = some .control →
        ep.direction = .in →
        (d.handleUrb prof ep intf len setup outData).outcome host = .ok bytes

/-- A descriptor request is answered without the host. -/
theorem handleUrb_gets {type : DescriptorType} (hgets : setup.Gets type) {ep : UsbEndpoint}
    (hep : EndpointAttributes.fromU8 ep.attributes = some .control) (hdir : ep.direction = .in)
    (intf : Option UsbInterface) (len : UInt32) (outData : List UInt8) :
    d.handleUrb prof ep intf len setup outData = .ret (d.getDescriptor prof setup) := by
  unfold handleUrb
  rw [hep, hdir]
  show d.controlIn prof ep len setup outData = _
  rw [controlIn, if_pos ⟨hgets.requestType, hgets.request⟩]

theorem answersWith_of_getDescriptor {type : DescriptorType} {desc : List UInt8}
    (hgets : setup.Gets type)
    (h : d.getDescriptor prof setup = .ok (truncateTo setup.length desc)) :
    d.AnswersWith prof setup desc := by
  refine ⟨truncateTo setup.length desc, truncateTo_prefix setup.length desc,
    min_le_length_truncateTo setup.length desc, ?_⟩
  intro ep intf len outData host hep hdir
  rw [handleUrb_gets hgets hep hdir, h]
  rfl

theorem answersWith_device (hgets : setup.Gets .device) :
    d.AnswersWith prof setup d.deviceDescriptor := by
  refine answersWith_of_getDescriptor hgets ?_
  rw [getDescriptor, hgets.type]

theorem answersWith_configuration (hgets : setup.Gets .configuration)
    (hraw : d.rawConfigurationDescriptor setup.value.toUInt8 setup.length = none) :
    d.AnswersWith prof setup d.configurationDescriptor := by
  refine answersWith_of_getDescriptor hgets ?_
  rw [getDescriptor, hgets.type]
  dsimp only
  rw [hraw]

/-- What a reader makes of the device descriptor. -/
def deviceFields (d : UsbDevice) : DeviceDescriptor where
  bcdUsb := d.usbVersion.descriptorBcd
  deviceClass := d.deviceClass
  deviceSubclass := d.deviceSubclass
  deviceProtocol := d.deviceProtocol
  maxPacketSize0 := d.ep0DescriptorSize
  idVendor := d.vendorId
  idProduct := d.productId
  bcdDevice := d.deviceBcd.descriptorBcd
  iManufacturer := d.stringManufacturer
  iProduct := d.stringProduct
  iSerialNumber := d.stringSerial
  numConfigurations := d.numConfigurations

/-- What a reader makes of the head of the synthesized configuration descriptor. -/
def configurationFields (d : UsbDevice) : ConfigurationDescriptor where
  totalLength := UInt16.ofNat (9 + (d.interfaceDescriptorsFrom 0 d.interfaces).length)
  numInterfaces := UInt8.ofNat d.interfaces.length
  configurationValue := d.configurationValue

theorem deviceDescriptor_reads (d : UsbDevice) :
    Reads readDeviceDescriptor d.deviceDescriptor d.deviceFields := by
  have hhead : Reads (readExact 2) [0x12, DescriptorType.device.toU8] _ := readExact_reads rfl
  have hlast : Reads readU8 [d.numConfigurations] d.numConfigurations := readU8_reads _
  refine hhead.bind ?_
  refine (readU16Le_reads d.usbVersion.bcdBytes.1 d.usbVersion.bcdBytes.2).bind
    ((readU8_reads d.deviceClass).bind ((readU8_reads d.deviceSubclass).bind
    ((readU8_reads d.deviceProtocol).bind ((readU8_reads d.ep0DescriptorSize).bind ?_))))
  refine (readU16Le_leBytes d.vendorId).bind ((readU16Le_leBytes d.productId).bind
    ((readU16Le_reads d.deviceBcd.bcdBytes.1 d.deviceBcd.bcdBytes.2).bind ?_))
  exact (readU8_reads d.stringManufacturer).bind ((readU8_reads d.stringProduct).bind
    ((readU8_reads d.stringSerial).bind (hlast.wrap _)))

theorem configurationDescriptor_reads (d : UsbDevice) :
    ∃ rest, readConfigurationDescriptor.read d.configurationDescriptor =
      some (d.configurationFields, rest) := by
  have hlen : ([0x09, DescriptorType.configuration.toU8] : List UInt8).length = 2 := rfl
  have hhead : Reads readConfigurationDescriptor
      ([0x09, DescriptorType.configuration.toU8] ++
        (leBytes (UInt16.ofNat (9 + (d.interfaceDescriptorsFrom 0 d.interfaces).length)) ++
          ([UInt8.ofNat d.interfaces.length] ++ [d.configurationValue])))
      d.configurationFields :=
    (readExact_reads hlen).bind ((readU16Le_leBytes _).bind ((readU8_reads _).bind
      ((readU8_reads d.configurationValue).wrap _)))
  exact ⟨_, hhead.read ([d.stringConfiguration, d.attributes, d.maxPower] ++
    d.interfaceDescriptorsFrom 0 d.interfaces)⟩

end UsbDevice

/-! ## Two encoders -/

/-- The fields that a record shares with a device descriptor are equal, and the release number
    of both is `release`. -/
structure DeviceRecord.MatchesDevice (record : DeviceRecord) (release : UInt16)
    (descriptor : DeviceDescriptor) : Prop where
  idVendor : record.vendorId = descriptor.idVendor
  idProduct : record.productId = descriptor.idProduct
  bcdDevice : record.bcdDevice = descriptor.bcdDevice
  deviceClass : record.deviceClass = descriptor.deviceClass
  deviceSubclass : record.deviceSubclass = descriptor.deviceSubclass
  deviceProtocol : record.deviceProtocol = descriptor.deviceProtocol
  numConfigurations : record.numConfigurations = descriptor.numConfigurations
  recordRelease : record.bcdDevice = release
  descriptorRelease : descriptor.bcdDevice = release

/-- The fields that a record shares with a configuration descriptor are equal. -/
structure DeviceRecord.MatchesConfiguration (record : DeviceRecord)
    (descriptor : ConfigurationDescriptor) : Prop where
  configurationValue : record.configurationValue = descriptor.configurationValue
  numInterfaces : record.numInterfaces = descriptor.numInterfaces

/-- A client that reads `bytes` for the record of the device, and asks the device for its
    descriptors, finds the shared fields equal. -/
def UsbDevice.EncodersAgree (prof : Profile) (d : UsbDevice) (release : UInt16)
    (bytes : List UInt8) : Prop :=
  ∃ record, readDeviceRecord.read bytes = some (record, []) ∧
    (∀ setup : SetupPacket, setup.Gets .device → ∃ desc descriptor,
      d.AnswersWith prof setup desc ∧ readDeviceDescriptor.read desc = some (descriptor, []) ∧
        record.MatchesDevice release descriptor) ∧
    ∀ setup : SetupPacket, setup.Gets .configuration →
      d.rawConfigurationDescriptor setup.value.toUInt8 setup.length = none →
      ∃ desc descriptor rest, d.AnswersWith prof setup desc ∧
        readConfigurationDescriptor.read desc = some (descriptor, rest) ∧
          record.MatchesConfiguration descriptor

/-- **When the two encoders agree**: on every field of every device but the release number, on
    that if and only if its low byte is zero. -/
theorem encodersAgree_iff {prof : Profile} {d : UsbDevice} {release : UInt16}
    {bytes : List UInt8} (hversion : d.deviceBcd = Version.ofU16 release)
    (hbytes : d.toBytes prof = .ok bytes) :
    d.EncodersAgree prof release bytes ↔ release &&& 0xFF = 0 := by
  have hrecord : readDeviceRecord.read bytes = some (d.record, []) := by
    have h := (UsbDevice.toBytes_reads hbytes).read []
    rwa [List.append_nil] at h
  have hdevice : readDeviceDescriptor.read d.deviceDescriptor = some (d.deviceFields, []) := by
    have h := d.deviceDescriptor_reads.read []
    rwa [List.append_nil] at h
  have hbcd : d.record.bcdDevice = release ↔ release &&& 0xFF = 0 := by
    show d.deviceBcd.recordBcd = release ↔ _
    rw [hversion]
    exact Version.recordBcd_ofU16_iff release
  constructor
  · rintro ⟨record, hread, hmatch, -⟩
    rw [hrecord, Option.some.injEq, Prod.mk.injEq] at hread
    obtain ⟨rfl, -⟩ := hread
    -- Any request for the device descriptor shows the release number.
    obtain ⟨desc, descriptor, -, -, hagree⟩ := hmatch ⟨0x80, 6, 0x0100, 0, 18⟩ ⟨rfl, rfl, rfl⟩
    exact hbcd.mp hagree.recordRelease
  · intro hlow
    have hsame : d.deviceFields.bcdDevice = release := by
      show d.deviceBcd.descriptorBcd = release
      rw [hversion]
      exact Version.descriptorBcd_ofU16 release
    have hrelease := hbcd.mpr hlow
    refine ⟨d.record, hrecord, fun setup hgets => ?_, fun setup hgets hraw => ?_⟩
    · refine ⟨d.deviceDescriptor, d.deviceFields, UsbDevice.answersWith_device hgets, hdevice, ?_⟩
      exact ⟨rfl, rfl, hrelease.trans hsame.symm, rfl, rfl, rfl, rfl, hrelease, hsame⟩
    · obtain ⟨rest, hread⟩ := d.configurationDescriptor_reads
      exact ⟨d.configurationDescriptor, d.configurationFields, rest,
        UsbDevice.answersWith_configuration hgets hraw, hread, rfl, rfl⟩

/-- A device without a path and a bus id, of release `release`. -/
def deviceOfRelease (release : UInt16) : UsbDevice where
  deviceBcd := Version.ofU16 release
  usbVersion := Version.ofU16 0x0200

theorem deviceOfRelease_toBytes (prof : Profile) (release : UInt16) :
    ∃ bytes, (deviceOfRelease release).toBytes prof = .ok bytes := by
  have hempty : asBytes "" = [] := toList_eq_data "".toUTF8
  refine ⟨_, UsbDevice.toBytes_eq_ok.mpr ⟨fun _ => ⟨Nat.zero_le _, ?_⟩, rfl⟩⟩
  show (asBytes "").length ≤ 32
  rw [hempty]
  exact Nat.zero_le _

/-- Release 1.00. -/
theorem releaseOne_encodersAgree :
    ∃ bytes, (deviceOfRelease 0x0100).toBytes .dev = .ok bytes ∧
      (deviceOfRelease 0x0100).EncodersAgree .dev 0x0100 bytes := by
  obtain ⟨bytes, hbytes⟩ := deviceOfRelease_toBytes .dev 0x0100
  exact ⟨bytes, hbytes, (encodersAgree_iff rfl hbytes).mpr (by decide)⟩

/-- Release 1.23: the record says 1.02. -/
theorem releaseOneTwentyThree_not_encodersAgree :
    ∃ bytes, (deviceOfRelease 0x0123).toBytes .dev = .ok bytes ∧
      ¬ (deviceOfRelease 0x0123).EncodersAgree .dev 0x0123 bytes := by
  obtain ⟨bytes, hbytes⟩ := deviceOfRelease_toBytes .dev 0x0123
  refine ⟨bytes, hbytes, ?_⟩
  rintro ⟨record, hread, hmatch, -⟩
  have hrecord := (UsbDevice.toBytes_reads hbytes).read []
  rw [List.append_nil, hread, Option.some.injEq, Prod.mk.injEq] at hrecord
  obtain ⟨desc, descriptor, -, -, hagree⟩ := hmatch ⟨0x80, 6, 0x0100, 0, 18⟩ ⟨rfl, rfl, rfl⟩
  have hrelease := hagree.recordRelease
  rw [hrecord.1] at hrelease
  exact absurd hrelease (by decide)

end Lusbip
