import Lusbip.Usb.DeviceRecord
import Lusbip.Server.Inventory
import Lusbip.Usb.Codec

/-!
# The device list and the import of what it lists

A client of `OP_REP_DEVLIST` takes the header, and as many devices as the header counts: the
record of each, and four bytes for each of the interfaces that the record counts. The encoder
casts both counts, to a `u32` and to a `u8`. A list of fewer than `2 ^ 32` devices that are
`Listable` is taken apart as it was put together, and the bus id field of a record, sent back
as it is, is the bus id of the device.
-/

namespace Lusbip

open Lib Lib.Reader

/-! ## A client of the device list -/

/-- What the list of the devices tells of an interface. -/
structure InterfaceClass where
  interfaceClass : UInt8
  interfaceSubclass : UInt8
  interfaceProtocol : UInt8
  deriving DecidableEq, Repr

/-- Three bytes of a class, and one that is left empty. -/
def readInterfaceClass : Reader InterfaceClass := do
  let interfaceClass ← readU8
  let interfaceSubclass ← readU8
  let interfaceProtocol ← readU8
  let _ ← readU8
  pure { interfaceClass, interfaceSubclass, interfaceProtocol }

/-- A device of the list with its interfaces. -/
structure ListedDevice where
  record : DeviceRecord
  interfaces : List InterfaceClass
  deriving DecidableEq, Repr

/-- As many interfaces as the record of the device says. -/
def readListedDevice : Reader ListedDevice := do
  let record ← readDeviceRecord
  let interfaces ← readInterfaceClass.times record.numInterfaces.toNat
  pure { record, interfaces }

/-- The whole reply. -/
structure DeviceList where
  version : UInt16
  command : UInt16
  status : UInt32
  devices : List ListedDevice
  deriving DecidableEq, Repr

/-- As many devices as the reply says. -/
def readDeviceList : Reader DeviceList := do
  let version ← readU16
  let command ← readU16
  let status ← readU32
  let deviceCount ← readU32
  let devices ← readListedDevice.times deviceCount.toNat
  pure { version, command, status, devices }

/-! ## Devices that fit the format -/

/-- The bus id fits its field, and ends where its first NUL would be. -/
structure FitsBusId (busId : String) : Prop where
  length : (asBytes busId).length ≤ 32
  noNul : 0 ∉ asBytes busId

/-- What the fields of the list have room for. -/
structure UsbDevice.Listable (d : UsbDevice) : Prop where
  interfaces : d.interfaces.length ≤ 255
  path : d.path.length ≤ 256
  busId : FitsBusId d.busId

namespace UsbDevice

variable {prof : Profile} {d : UsbDevice} {devices : List UsbDevice}

/-- What the list tells of an interface. -/
def interfaceClass (intf : UsbInterface) : InterfaceClass where
  interfaceClass := intf.interfaceClass
  interfaceSubclass := intf.interfaceSubclass
  interfaceProtocol := intf.interfaceProtocol

/-- What the client makes of a device. -/
def listed (d : UsbDevice) : ListedDevice where
  record := d.record
  interfaces := d.interfaces.map interfaceClass

/-- The record and the interfaces of a listable device. -/
def listedBytes (d : UsbDevice) : List UInt8 :=
  d.recordBytes ++ d.interfaces.flatMap interfaceBytes

theorem interfaceBytes_reads (intf : UsbInterface) :
    Reads readInterfaceClass (interfaceBytes intf) (interfaceClass intf) :=
  (readU8_reads intf.interfaceClass).bind ((readU8_reads intf.interfaceSubclass).bind
    ((readU8_reads intf.interfaceProtocol).bind ((readU8_reads 0).wrap _)))

theorem Listable.toBytes (h : d.Listable) (prof : Profile) :
    d.toBytes prof = .ok d.recordBytes :=
  toBytes_eq_ok.mpr ⟨fun _ => ⟨h.path, h.busId.length⟩, rfl⟩

theorem Listable.toBytesWithInterfaces (h : d.Listable) (prof : Profile) :
    d.toBytesWithInterfaces prof = .ok d.listedBytes := by
  rw [UsbDevice.toBytesWithInterfaces, h.toBytes prof]
  rfl

theorem Listable.reads (h : d.Listable) : Reads readListedDevice d.listedBytes d.listed := by
  -- The cast to `u8` keeps the number of interfaces.
  have hcount : d.record.numInterfaces.toNat = d.interfaces.length := by
    show (UInt8.ofNat d.interfaces.length).toNat = _
    rw [UInt8.toNat_ofNat']
    exact Nat.mod_eq_of_lt (Nat.lt_succ_of_le h.interfaces)
  have hinterfaces : Reads (readInterfaceClass.times d.record.numInterfaces.toNat)
      (d.interfaces.flatMap interfaceBytes) (d.interfaces.map interfaceClass) := by
    rw [hcount]
    exact Reads.times fun intf _ => interfaceBytes_reads intf
  exact (toBytes_reads (h.toBytes .dev)).bind (hinterfaces.wrap _)

theorem mapM_toBytesWithInterfaces (prof : Profile) (h : ∀ d ∈ devices, d.Listable) :
    devices.mapM (·.toBytesWithInterfaces prof) = .ok (devices.map listedBytes) := by
  induction devices with
  | nil => rfl
  | cons d devices ih =>
    rw [List.mapM_cons, (h d List.mem_cons_self).toBytesWithInterfaces,
      ih fun e he => h e (List.mem_cons_of_mem d he)]
    rfl

end UsbDevice

/-! ## The list -/

/-- The twelve bytes of the header. -/
def devlistHeader (deviceCount : UInt32) : List UInt8 :=
  be16 usbipVersion ++ (be16 opRepDevlist ++ (be32 0 ++ be32 deviceCount))

variable {prof : Profile} {devices : List UsbDevice}

theorem toBytes_opRepDevlistOf (prof : Profile) (h : ∀ d ∈ devices, d.Listable) :
    (UsbIpResponse.opRepDevlistOf devices).toBytes prof =
      .ok (devlistHeader (UInt32.ofNat devices.length) ++
        devices.flatMap UsbDevice.listedBytes) := by
  rw [UsbIpResponse.opRepDevlistOf, UsbIpResponse.toBytes,
    UsbDevice.mapM_toBytesWithInterfaces prof h, List.flatMap_def]
  simp only [devlistHeader, List.append_assoc]
  rfl

/-- A list that is read to its end: as many devices as the count says. -/
theorem readDeviceList_reads {deviceCount : UInt32} {bytes : List UInt8}
    {listed : List ListedDevice}
    (h : Reads (readListedDevice.times deviceCount.toNat) bytes listed) :
    Reads readDeviceList (devlistHeader deviceCount ++ bytes)
      ⟨usbipVersion, opRepDevlist, 0, listed⟩ := by
  rw [devlistHeader]
  simp only [List.append_assoc]
  exact (readU16_reads usbipVersion).bind ((readU16_reads opRepDevlist).bind
    ((readU32_reads 0).bind ((readU32_reads deviceCount).bind (h.wrap _))))

/-- What the client knows about a device. -/
structure ListedDevice.Shows (listed : ListedDevice) (d : UsbDevice) : Prop where
  path : listed.record.path = d.path ++ List.replicate (256 - d.path.length) 0
  pathText : 0 ∉ d.path → (listed.record.path.takeWhile fun b => b ≠ 0) = d.path
  busId : parseBusId listed.record.busId = some d.busId
  busNum : listed.record.busNum = d.busNum
  devNum : listed.record.devNum = d.devNum
  speed : listed.record.speed = d.speed
  vendorId : listed.record.vendorId = d.vendorId
  productId : listed.record.productId = d.productId
  interfaces : listed.interfaces = d.interfaces.map UsbDevice.interfaceClass

/-- The bus id of a device, out of its field. -/
theorem parseBusId_resize {busId : String} (h : FitsBusId busId) :
    parseBusId (resize 32 (asBytes busId)) = some busId := by
  rw [parseBusId, resize_of_length_le h.length, takeWhile_append_zeros h.noNul]
  exact fromUTF8?_toList busId

theorem UsbDevice.Listable.shows {d : UsbDevice} (h : d.Listable) : d.listed.Shows d where
  path := resize_of_length_le h.path
  pathText hnul := by
    show (resize 256 d.path).takeWhile _ = d.path
    rw [resize_of_length_le h.path, takeWhile_append_zeros hnul]
  busId := parseBusId_resize h.busId
  busNum := rfl
  devNum := rfl
  speed := rfl
  vendorId := rfl
  productId := rfl
  interfaces := rfl

/-! ## The import of a listed device -/

/-- With the bus id field of the record in an `OP_REQ_IMPORT`, the request arrives as it was
    sent, and it is answered with a device of that bus id whenever there is one among the
    available ones. The device that the connection gives back counts as available. -/
structure ListedDevice.Imports (prof : Profile) (listed : ListedDevice) (busId : String) :
    Prop where
  request : Reads (readFromSocket prof)
    (UsbIpCommand.opReqImport 0 listed.record.busId).toBytes
    (.ok (.opReqImport 0 listed.record.busId))
  occupies : ∀ (inv : Inventory) (imported : Option UsbDevice),
    busId ∈ busIds (inv.releaseImported imported).available →
      ∃ dev inv', inv.handleOpReqImport listed.record.busId imported =
          .ok (.opRepImportSuccess dev, some dev, inv') ∧
        dev.busId = busId ∧ dev ∈ (inv.releaseImported imported).available ∧
          busId ∈ busIds inv'.used

theorem Inventory.occupy_of_mem {inv : Inventory} {busId : String}
    (h : busId ∈ busIds inv.available) :
    ∃ dev inv', inv.occupy busId = .ok (dev, inv') ∧ dev.busId = busId ∧ dev ∈ inv.available ∧
      busId ∈ busIds inv'.used := by
  obtain ⟨e, he, heb⟩ := mem_busIds.mp h
  cases hf : inv.available.find? fun d => d.busId = busId with
  | none =>
    have hno : ∀ x ∈ inv.available, ¬ decide (x.busId = busId) = true := List.find?_eq_none.mp hf
    exact absurd (decide_eq_true heb) (hno e he)
  | some dev =>
    have hbus : dev.busId = busId := by simpa using List.find?_some hf
    rw [Inventory.occupy, hf]
    refine ⟨dev, _, rfl, hbus, List.mem_of_find?_eq_some hf, ?_⟩
    dsimp only
    split
    · rename_i hused
      obtain ⟨u, hu, hub⟩ := List.any_eq_true.mp hused
      exact mem_busIds.mpr ⟨u, hu, (of_decide_eq_true hub).trans hbus⟩
    · exact mem_busIds.mpr ⟨dev, List.mem_append_right _ (List.mem_singleton.mpr rfl), hbus⟩

theorem UsbDevice.Listable.imports {d : UsbDevice} (h : d.Listable) (prof : Profile) :
    d.listed.Imports prof d.busId where
  request := by
    have hwell : (UsbIpCommand.opReqImport 0 d.listed.record.busId).WellFormed :=
      ⟨rfl, length_resize 32 (asBytes d.busId)⟩
    exact Lusbip.toBytes_reads hwell
  occupies inv imported havail := by
    obtain ⟨dev, inv', hocc, hbus, hmem, hused⟩ := Inventory.occupy_of_mem havail
    refine ⟨dev, inv', ?_, hbus, hmem, hused⟩
    have hparse : parseBusId d.listed.record.busId = some d.busId := h.shows.busId
    rw [Inventory.handleOpReqImport, hparse]
    dsimp only
    rw [hocc]

/-! ## Round trip -/

/-- The device list reply decodes, to its last byte, to the devices it was made from, and each
    of them can be imported with what the client knows about it. -/
def DevlistRoundtrips (prof : Profile) (devices : List UsbDevice) : Prop :=
  ∃ bytes list, (UsbIpResponse.opRepDevlistOf devices).toBytes prof = .ok bytes ∧
    readDeviceList.read bytes = some (list, []) ∧
    list.version = usbipVersion ∧ list.command = opRepDevlist ∧ list.status = 0 ∧
    List.Forall₂ (fun listed d => listed.Shows d ∧ listed.Imports prof d.busId)
      list.devices devices

/-- **The device list is decodable and what it lists is importable**, for lists whose length
    fits the count. -/
theorem devlist_roundtrips (prof : Profile) (devices : List UsbDevice)
    (h : ∀ d ∈ devices, d.Listable) (hcount : devices.length < 2 ^ 32) :
    DevlistRoundtrips prof devices := by
  have hlength : (UInt32.ofNat devices.length).toNat = devices.length := by
    rw [UInt32.toNat_ofNat']
    exact Nat.mod_eq_of_lt hcount
  have hdevices : Reads (readListedDevice.times (UInt32.ofNat devices.length).toNat)
      (devices.flatMap UsbDevice.listedBytes) (devices.map UsbDevice.listed) := by
    rw [hlength]
    exact Reads.times fun d hd => (h d hd).reads
  have hread := (readDeviceList_reads hdevices).read []
  rw [List.append_nil] at hread
  refine ⟨_, _, toBytes_opRepDevlistOf prof h, hread, rfl, rfl, rfl, ?_⟩
  rw [List.forall₂_map_left_iff, List.forall₂_same]
  exact fun d hd => ⟨(h d hd).shows, (h d hd).imports prof⟩

/-- A keyboard with two interfaces at `1-2`. -/
def keyboard : UsbDevice where
  path := "/sys/bus/usb/devices/1-2".toUTF8.toList
  busId := "1-2"
  busNum := 1
  devNum := 4
  vendorId := 0x046d
  interfaces := [⟨3, 1, 1, [], 0, [], ⟨⟨0⟩, 0⟩⟩, ⟨3, 0, 0, [], 0, [], ⟨⟨0⟩, 1⟩⟩]

theorem keyboard_listable : keyboard.Listable := by
  have hpath : keyboard.path.length = 24 := by
    show "/sys/bus/usb/devices/1-2".toUTF8.toList.length = 24
    rw [toList_eq_data]
    rfl
  have hbusId : asBytes "1-2" = [0x31, 0x2d, 0x32] := toList_eq_data "1-2".toUTF8
  refine ⟨Nat.le_of_ble_eq_true rfl, hpath.trans_le (Nat.le_of_ble_eq_true rfl), ?_, ?_⟩
  · show (asBytes "1-2").length ≤ 32
    rw [hbusId]
    decide
  · show 0 ∉ asBytes "1-2"
    rw [hbusId]
    decide

theorem keyboards_roundtrip : DevlistRoundtrips .dev [keyboard, keyboard] := by
  refine devlist_roundtrips .dev _ ?_ (by decide)
  intro d hd
  simp only [List.mem_cons, List.not_mem_nil, or_false, or_self] at hd
  exact hd ▸ keyboard_listable

/-- A list of `2 ^ 32` devices counts none. -/
theorem wrappedCount_not_roundtrips :
    (∀ d ∈ List.replicate (2 ^ 32) keyboard, d.Listable) ∧
      ¬ DevlistRoundtrips .release (List.replicate (2 ^ 32) keyboard) := by
  have h : ∀ d ∈ List.replicate (2 ^ 32) keyboard, d.Listable := by
    intro d hd
    rw [List.eq_of_mem_replicate hd]
    exact keyboard_listable
  refine ⟨h, ?_⟩
  rintro ⟨bytes, list, hbytes, hread, -, -, -, hall⟩
  have hlength := hall.length_eq
  rw [toBytes_opRepDevlistOf .release h, Except.ok.injEq] at hbytes
  have hcount : UInt32.ofNat (List.replicate (2 ^ 32) keyboard).length = 0 := by
    rw [List.length_replicate]
    rfl
  -- A client reads the header and no device, and leaves all records unread.
  have hnone : Reads readDeviceList (devlistHeader 0 ++ [])
      ⟨usbipVersion, opRepDevlist, 0, []⟩ := readDeviceList_reads (reads_pure [])
  have hheader := hnone.read ((List.replicate (2 ^ 32) keyboard).flatMap UsbDevice.listedBytes)
  rw [List.append_nil, ← hcount, hbytes, hread, Option.some.injEq, Prod.mk.injEq] at hheader
  rw [hheader.1, List.length_replicate] at hlength
  exact absurd hlength (by decide)

end Lusbip
