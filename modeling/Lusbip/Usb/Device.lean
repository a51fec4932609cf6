import Lusbip.Usb.Host

/-!
# The USB data model

Constants, endpoints, interfaces, setup packets and `UsbDevice`, as the server keeps them
for a device of a Linux host. A record's fields follow the source, so that the functions
over them can be read next to it. The path of a device is its bytes; the string pool, a hash
map in the source, is an association list with at most one entry for a key.
-/

namespace Lusbip

/-! ## Constants -/

/-- The speeds of a device, numbered on the wire as the kernel numbers them. -/
inductive UsbSpeed where
  | unknown
  | low
  | full
  | high
  | wireless
  | super
  | superPlus
  deriving DecidableEq, Repr

/-- `speed as u32` -/
def UsbSpeed.toU32 : UsbSpeed → UInt32
  | .unknown => 0
  | .low => 1
  | .full => 2
  | .high => 3
  | .wireless => 4
  | .super => 5
  | .superPlus => 6

/-- The kinds of transfer, in the order of their codes. -/
inductive EndpointAttributes where
  | control
  | isochronous
  | bulk
  | interrupt
  deriving DecidableEq, Repr

/-- `attributes as u8` -/
def EndpointAttributes.toU8 : EndpointAttributes → UInt8
  | .control => 0
  | .isochronous => 1
  | .bulk => 2
  | .interrupt => 3

/-- `FromPrimitive::from_u8` -/
def EndpointAttributes.fromU8 (n : UInt8) : Option EndpointAttributes :=
  if n = 0 then some .control
  else if n = 1 then some .isochronous
  else if n = 2 then some .bulk
  else if n = 3 then some .interrupt
  else none

theorem EndpointAttributes.fromU8_toU8 (attributes : EndpointAttributes) :
    EndpointAttributes.fromU8 attributes.toU8 = some attributes := by
  cases attributes <;> rfl

theorem EndpointAttributes.toU8_of_fromU8 {n : UInt8} {attributes : EndpointAttributes}
    (h : EndpointAttributes.fromU8 n = some attributes) : n = attributes.toU8 := by
  unfold EndpointAttributes.fromU8 at h
  split at h
  · cases h; assumption
  · split at h
    · cases h; assumption
    · split at h
      · cases h; assumption
      · split at h
        · cases h; assumption
        · cases h

/-- Emulated max packet size of EP0. -/
def ep0MaxPacketSize : UInt16 := 64

/-- The requests that a device has to know by the standard. -/
inductive StandardRequest where
  | getStatus
  | clearFeature
  | setFeature
  | setAddress
  | getDescriptor
  | setDescriptor
  | getConfiguration
  | setConfiguration
  | getInterface
  | setInterface
  | synchFrame
  deriving DecidableEq, Repr

/-- The request of a code; the codes 2 and 4 are reserved. -/
def StandardRequest.fromU8 (n : UInt8) : Option StandardRequest :=
  if n = 0 then some .getStatus
  else if n = 1 then some .clearFeature
  else if n = 3 then some .setFeature
  else if n = 5 then some .setAddress
  else if n = 6 then some .getDescriptor
  else if n = 7 then some .setDescriptor
  else if n = 8 then some .getConfiguration
  else if n = 9 then some .setConfiguration
  else if n = 10 then some .getInterface
  else if n = 11 then some .setInterface
  else if n = 12 then some .synchFrame
  else none

/-- The kinds of descriptors. -/
inductive DescriptorType where
  | device
  | configuration
  | string
  | interface
  | endpoint
  | deviceQualifier
  | otherSpeedConfiguration
  | interfacePower
  | otg
  | debug
  | interfaceAssociation
  | bos
  | deviceCapability
  | superspeedUsbEndpointCompanion
  deriving DecidableEq, Repr

/-- `desc_type as u8` -/
def DescriptorType.toU8 : DescriptorType → UInt8
  | .device => 1
  | .configuration => 2
  | .string => 3
  | .interface => 4
  | .endpoint => 5
  | .deviceQualifier => 6
  | .otherSpeedConfiguration => 7
  | .interfacePower => 8
  | .otg => 9
  | .debug => 0x0A
  | .interfaceAssociation => 0x0B
  | .bos => 0x0F
  | .deviceCapability => 0x10
  | .superspeedUsbEndpointCompanion => 0x30

/-- The kind of a code, which is the high byte of `wValue`. -/
def DescriptorType.fromU16 (n : UInt16) : Option DescriptorType :=
  if n = 1 then some .device
  else if n = 2 then some .configuration
  else if n = 3 then some .string
  else if n = 4 then some .interface
  else if n = 5 then some .endpoint
  else if n = 6 then some .deviceQualifier
  else if n = 7 then some .otherSpeedConfiguration
  else if n = 8 then some .interfacePower
  else if n = 9 then some .otg
  else if n = 0x0A then some .debug
  else if n = 0x0B then some .interfaceAssociation
  else if n = 0x0F then some .bos
  else if n = 0x10 then some .deviceCapability
  else if n = 0x30 then some .superspeedUsbEndpointCompanion
  else none

/-! ## Endpoints and interfaces -/

/-- `nusb::transfer::Direction` -/
inductive Direction where
  | out
  | in
  deriving DecidableEq, Repr

/-- An endpoint, as its descriptor tells it. -/
structure UsbEndpoint where
  address : UInt8 := 0
  attributes : UInt8 := 0
  maxPacketSize : UInt16 := 0
  interval : UInt8 := 0
  deriving DecidableEq, Repr

/-- Get direction from MSB of address. -/
def UsbEndpoint.direction (ep : UsbEndpoint) : Direction :=
  if ep.address &&& 0x80 = 0x80 then .in else .out

/-- An interface with its endpoints. Its number is its place in the list of the device. -/
structure UsbInterface where
  interfaceClass : UInt8
  interfaceSubclass : UInt8
  interfaceProtocol : UInt8
  endpoints : List UsbEndpoint
  stringInterface : UInt8
  classSpecificDescriptor : List UInt8
  handler : Interface
  deriving DecidableEq, Repr

/-! ## Setup packets -/

/-- The eight bytes of a control request. -/
structure SetupPacket where
  requestType : UInt8 := 0
  request : UInt8 := 0
  value : UInt16 := 0
  index : UInt16 := 0
  length : UInt16 := 0
  deriving DecidableEq, Repr

/-- Two bytes, low byte first. -/
def u16OfLe (lo hi : UInt8) : UInt16 := (hi.toUInt16 <<< 8) ||| lo.toUInt16

/-- `SetupPacket::parse`, of the eight bytes of a setup packet. -/
def SetupPacket.parse (setup : List UInt8) : SetupPacket where
  requestType := setup.getD 0 0
  request := setup.getD 1 0
  value := u16OfLe (setup.getD 2 0) (setup.getD 3 0)
  index := u16OfLe (setup.getD 4 0) (setup.getD 5 0)
  length := u16OfLe (setup.getD 6 0) (setup.getD 7 0)

/-! ## Devices -/

/-- A version number, as the descriptors have them in decimal digits. -/
structure Version where
  major : UInt8 := 0
  minor : UInt8 := 0
  patch : UInt8 := 0
  deriving DecidableEq, Repr

/-- `Version::from`, of a BCD release number. -/
def Version.ofU16 (value : UInt16) : Version where
  major := (value >>> 8).toUInt8
  minor := ((value >>> 4) &&& 0xF).toUInt8
  patch := (value &&& 0xF).toUInt8

/-- The low and the high byte of the BCD encoding. -/
def Version.bcdBytes (v : Version) : UInt8 × UInt8 :=
  ((v.minor <<< 4) ||| v.patch, v.major)

/-- A device as it is exported: what the list of the devices and the descriptors tell of it, and the
    handlers that serve it. -/
structure UsbDevice where
  path : List UInt8 := []
  busId : String := ""
  busNum : UInt32 := 0
  devNum : UInt32 := 0
  speed : UInt32 := 0
  vendorId : UInt16 := 0
  productId : UInt16 := 0
  deviceBcd : Version := {}
  deviceClass : UInt8 := 0
  deviceSubclass : UInt8 := 0
  deviceProtocol : UInt8 := 0
  configurationValue : UInt8 := 0
  numConfigurations : UInt8 := 0
  interfaces : List UsbInterface := []
  rawConfigurationDescriptors : List (List UInt8) := []
  deviceHandler : Option Device := none
  usbVersion : Version := {}
  attributes : UInt8 := 0
  maxPower : UInt8 := 0
  ep0In : UsbEndpoint := {}
  ep0Out : UsbEndpoint := {}
  stringPool : List (UInt8 × String) := []
  stringConfiguration : UInt8 := 0
  stringManufacturer : UInt8 := 0
  stringProduct : UInt8 := 0
  stringSerial : UInt8 := 0
  deriving DecidableEq, Repr

/-- The control endpoints every exported device is built with. -/
def ep0InEndpoint : UsbEndpoint where
  address := 0x80
  attributes := EndpointAttributes.control.toU8
  maxPacketSize := ep0MaxPacketSize

/-- Endpoint zero, from the host to the device. -/
def ep0OutEndpoint : UsbEndpoint where
  address := 0x00
  attributes := EndpointAttributes.control.toU8
  maxPacketSize := ep0MaxPacketSize

namespace UsbDevice

/-- The device has the control endpoints of `UsbDevice::new` and `with_nusb_devices`, the
    only places that build one for export. -/
structure HasEp0 (d : UsbDevice) : Prop where
  ep0In : d.ep0In = ep0InEndpoint
  ep0Out : d.ep0Out = ep0OutEndpoint

/-- The device runs at SuperSpeed or faster. -/
def isSuperspeed (d : UsbDevice) : Bool := UsbSpeed.super.toU32 ≤ d.speed

/-- The packet size of endpoint zero, which SuperSpeed wants as an exponent of two. -/
def ep0DescriptorSize (d : UsbDevice) : UInt8 :=
  if d.isSuperspeed then 9 else d.ep0In.maxPacketSize.toUInt8

/-- The pool entry under an index. -/
def stringAt (d : UsbDevice) (i : UInt8) : Option String := d.stringPool.lookup i

/-- The search of `new_string`, with `fuel` indexes left to try from `i` on. The iterator
    `1..` computes its successor before it yields, so the checked build panics where `255`
    would be next, and the unchecked one goes on with `0`. -/
def newStringFrom (prof : Profile) (d : UsbDevice) (s : String) :
    Nat → UInt8 → Outcome (UInt8 × UsbDevice)
  | 0, _ => Outcome.panic (.explicit "string poll exhausted")
  | fuel + 1, i =>
      if prof = .dev ∧ i = 255 then Outcome.panic .arithmeticOverflow
      else
        match d.stringAt i with
        | none => .ok (i, { d with stringPool := (i, s) :: d.stringPool })
        | some _ => newStringFrom prof d s fuel (i + 1)

/-- A string is put into the pool, under the first index from 1 on that is free. -/
def newString (prof : Profile) (d : UsbDevice) (s : String) : Outcome (UInt8 × UsbDevice) :=
  newStringFrom prof d s 256 1

/-- The first endpoint of an interface with an address. -/
def findIn (ep : UInt8) (intf : UsbInterface) : Option (UsbEndpoint × Option UsbInterface) :=
  (intf.endpoints.find? fun e => e.address = ep).map fun e => (e, some intf)

/-- The endpoint of an address with its interface; endpoint zero has none. -/
def findEp (d : UsbDevice) (ep : UInt8) : Option (UsbEndpoint × Option UsbInterface) :=
  if ep = d.ep0In.address then some (d.ep0In, none)
  else if ep = d.ep0Out.address then some (d.ep0Out, none)
  else d.interfaces.findSome? (findIn ep)

/-- `UsbDevice::new`, with its four strings. -/
def new (prof : Profile) (index : UInt32) : Outcome UsbDevice := do
  let res : UsbDevice :=
    { path := "/sys/bus/0/0/0".toUTF8.toList
      busId := "0-0-0"
      devNum := index
      speed := UsbSpeed.high.toU32
      ep0In := ep0InEndpoint
      ep0Out := ep0OutEndpoint
      configurationValue := 1
      numConfigurations := 1 }
  let (i, res) ← res.newString prof "Default Configuration"
  let res := { res with stringConfiguration := i }
  let (i, res) ← res.newString prof "Manufacturer"
  let res := { res with stringManufacturer := i }
  let (i, res) ← res.newString prof "Product"
  let res := { res with stringProduct := i }
  let (i, res) ← res.newString prof "Serial"
  .ok { res with stringSerial := i }

/-! ## Strings change nothing but the pool -/

theorem newStringFrom_ok {prof : Profile} {d d' : UsbDevice} {s : String} {i : UInt8} :
    ∀ {fuel : Nat} {j : UInt8}, newStringFrom prof d s fuel j = .ok (i, d') →
      d' = { d with stringPool := (i, s) :: d.stringPool } := by
  intro fuel
  induction fuel with
  | zero => intro j h; exact absurd h (by simp [newStringFrom, Outcome.panic])
  | succ fuel ih =>
    intro j h
    rw [newStringFrom] at h
    split at h
    · exact absurd h (by simp [Outcome.panic])
    · split at h
      · simp only [Except.ok.injEq, Prod.mk.injEq] at h
        obtain ⟨rfl, rfl⟩ := h
        rfl
      · exact ih h

theorem newString_ok {prof : Profile} {d d' : UsbDevice} {s : String} {i : UInt8}
    (h : d.newString prof s = .ok (i, d')) :
    d' = { d with stringPool := (i, s) :: d.stringPool } :=
  newStringFrom_ok h

/-- The pool entries from an index on: what stands between the search and a free index. -/
def entriesFrom (d : UsbDevice) (i : Nat) : Nat :=
  d.stringPool.countP fun e => i ≤ e.1.toNat

theorem entriesFrom_succ_lt {d : UsbDevice} {i : UInt8} {s : String}
    (h : d.stringAt i = some s) : d.entriesFrom (i.toNat + 1) < d.entriesFrom i.toNat := by
  obtain ⟨before, after, hpool, -⟩ := List.lookup_eq_some_iff.mp h
  have hmono : ∀ l : List (UInt8 × String),
      (l.countP fun e => i.toNat + 1 ≤ e.1.toNat) ≤ l.countP fun e => i.toNat ≤ e.1.toNat :=
    fun l => List.countP_mono_left fun e _ he => by
      have := of_decide_eq_true he
      exact decide_eq_true (by omega)
  have hbefore := hmono before
  have hafter := hmono after
  unfold entriesFrom
  rw [hpool, List.countP_append, List.countP_append, List.countP_cons, List.countP_cons]
  simp only [Nat.le_refl, decide_true, if_true, Nat.not_succ_le_self, decide_false,
    Bool.false_eq_true, if_false]
  omega

/-- The end of the indexes that the search yields: the checked build does not come to `255`. -/
def stringEnd : Profile → Nat
  | .dev => 255
  | .release => 256

/-- The search finds a free index while there are fewer entries ahead than indexes to try. -/
theorem newStringFrom_finds {prof : Profile} {d : UsbDevice} {s : String} {fuel : Nat}
    {i : UInt8} (hfuel : d.entriesFrom i.toNat < fuel)
    (hlast : i.toNat + d.entriesFrom i.toNat < stringEnd prof) :
    ∃ j : UInt8, i.toNat ≤ j.toNat ∧ j.toNat < stringEnd prof ∧ d.stringAt j = none ∧
      newStringFrom prof d s fuel i = .ok (j, { d with stringPool := (j, s) :: d.stringPool }) := by
  induction fuel generalizing i with
  | zero => exact absurd hfuel (Nat.not_lt_zero _)
  | succ fuel ih =>
    have hle : stringEnd prof ≤ 256 := by cases prof <;> decide
    have hne : ¬ (prof = .dev ∧ i = 255) := by
      rintro ⟨rfl, rfl⟩
      have hmax : (255 : UInt8).toNat = stringEnd .dev := rfl
      rw [hmax] at hlast
      omega
    rw [newStringFrom, if_neg hne]
    cases hs : d.stringAt i with
    | none => exact ⟨i, Nat.le_refl _, by omega, hs, rfl⟩
    | some t =>
      have hlt := entriesFrom_succ_lt hs
      have hsucc : (i + 1).toNat = i.toNat + 1 := by
        rw [UInt8.toNat_add]
        exact Nat.mod_eq_of_lt (by simp; omega)
      obtain ⟨j, hj, hend, hfree, hfound⟩ := ih (by rw [hsucc]; omega) (by rw [hsucc]; omega)
      exact ⟨j, by omega, hend, hfree, hfound⟩

/-- A pool with room takes a string under an index of its own. -/
theorem newString_finds {prof : Profile} {d : UsbDevice} {s : String}
    (h : d.stringPool.length + 1 < stringEnd prof) :
    ∃ j : UInt8, 1 ≤ j.toNat ∧ j.toNat < stringEnd prof ∧ d.stringAt j = none ∧
      d.newString prof s = .ok (j, { d with stringPool := (j, s) :: d.stringPool }) := by
  have hle : d.entriesFrom 1 ≤ d.stringPool.length := List.countP_le_length
  have hend : stringEnd prof ≤ 256 := by cases prof <;> decide
  have hone : (1 : UInt8).toNat = 1 := rfl
  have hfuel : d.entriesFrom (1 : UInt8).toNat < 256 := by rw [hone]; omega
  have hlast : (1 : UInt8).toNat + d.entriesFrom (1 : UInt8).toNat < stringEnd prof := by
    rw [hone]
    omega
  exact newStringFrom_finds hfuel hlast

theorem findEp_address {d : UsbDevice} {ep : UInt8} {endpoint : UsbEndpoint}
    {intf : Option UsbInterface} (h : d.findEp ep = some (endpoint, intf)) :
    endpoint.address = ep := by
  unfold findEp at h
  split at h
  · cases h
    exact Eq.symm ‹_›
  · split at h
    · cases h
      exact Eq.symm ‹_›
    · obtain ⟨i, -, hi⟩ := List.exists_of_findSome?_eq_some h
      obtain ⟨e, he, hpair⟩ := Option.map_eq_some_iff.mp hi
      cases hpair
      have := List.find?_some he
      exact of_decide_eq_true this

/-- An endpoint found on a device with its control endpoints in place is one of the two, or
    comes with the interface that has it. -/
theorem findEp_zero {d : UsbDevice} (h : d.HasEp0) :
    d.findEp 0x80 = some (ep0InEndpoint, none) ∧ d.findEp 0x00 = some (ep0OutEndpoint, none) := by
  constructor
  · simp [findEp, h.ep0In, ep0InEndpoint]
  · simp [findEp, h.ep0In, h.ep0Out, ep0InEndpoint, ep0OutEndpoint]

end UsbDevice

end Lusbip
