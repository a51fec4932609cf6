import Lusbip.Server.ConfigurationDescriptors

/-!
# The synthesized configuration descriptor

A device without configuration descriptors of its own is described from its fields. The descriptor
is put together by hand: lengths and counts are constants and casts, and `wTotalLength` is patched
in at the end. This file says what a reader finds in it. `configurationParts` are the descriptors
that are appended, `walk` finds exactly these, and they are laid out as `IsLayout` says, which
speaks about bytes only and knows nothing of the device but whether it is a SuperSpeed one.

`verify_descriptor`, the walk of the repository, is content with every chain of records.
-/

namespace Lusbip

open Lib

/-! ## The walk of the repository -/

/-- The loop of `verify_descriptor`; `none` is a loop that has not ended after `fuel` rounds. A
    length of zero would keep it going for ever. -/
def verifyDescriptorFrom (desc : List UInt8) : Nat → Nat → Option (Outcome Unit)
  | 0, _ => none
  | fuel + 1, offset =>
      if offset < desc.length then
        match indexChecked desc offset with
        | .ok length => verifyDescriptorFrom desc fuel (offset + length.toNat)
        | .error stop => some (.error stop)
      else if offset = desc.length then some (.ok ())
      else some (Outcome.panic .assertion)

theorem verifyDescriptorFrom_chain (before : List UInt8) {records : List (List UInt8)} {fuel : Nat}
    (h : ∀ record ∈ records, IsRecord UInt8.toNat record)
    (hfuel : records.flatten.length ≤ fuel) :
    verifyDescriptorFrom (before ++ records.flatten) (fuel + 1) before.length =
      some (.ok ()) := by
  induction records generalizing before fuel with
  | nil => simp [verifyDescriptorFrom]
  | cons record records ih =>
    obtain ⟨first, rest, rfl, hsize⟩ := h record List.mem_cons_self
    have hlen : (before ++ ((first :: rest) :: records).flatten).length =
        before.length + (rest.length + 1) + records.flatten.length := by
      rw [List.flatten_cons, List.length_append, List.length_append, List.length_cons]
      omega
    rw [List.flatten_cons, List.length_append, List.length_cons] at hfuel
    obtain ⟨fuel, rfl⟩ : ∃ n, fuel = n + 1 := ⟨fuel - 1, by omega⟩
    have hbyte : byteAt (before ++ ((first :: rest) :: records).flatten) before.length = first := by
      rw [List.flatten_cons, ← List.append_assoc]
      exact byteAt_append before _ (first :: rest) (i := 0) (Nat.succ_pos _)
    rw [verifyDescriptorFrom, if_pos (by omega), indexChecked_of_lt (by omega), hbyte]
    show verifyDescriptorFrom _ (fuel + 1) (before.length + first.toNat) = _
    rw [hsize]
    have hrest := @ih (before ++ first :: rest) fuel
      (fun r hr => h r (List.mem_cons_of_mem _ hr)) (by omega)
    rwa [List.append_assoc, List.length_append] at hrest

/-- **`verify_descriptor` accepts every chain of records**, and ends. -/
theorem verifyDescriptor_of_walk {desc : List UInt8} {records : List (List UInt8)}
    (h : walk UInt8.toNat desc = some records) :
    verifyDescriptorFrom desc (desc.length + 1) 0 = some (.ok ()) := by
  obtain ⟨hflat, hrec⟩ := walk_iff.mp h
  have := verifyDescriptorFrom_chain [] hrec le_rfl
  rwa [hflat] at this

/-! ## The layout of a configuration -/

/-- An endpoint descriptor, with a companion behind it at SuperSpeed and none below. -/
inductive IsEndpointGroup (superspeed : Bool) : List (List UInt8) → Prop
  | alone {endpoint : List UInt8} : superspeed = false →
      byteAt endpoint 1 = DescriptorType.endpoint.toU8 →
      IsEndpointGroup superspeed [endpoint]
  | withCompanion {endpoint companion : List UInt8} : superspeed = true →
      byteAt endpoint 1 = DescriptorType.endpoint.toU8 →
      byteAt companion 1 = DescriptorType.superspeedUsbEndpointCompanion.toU8 →
      IsEndpointGroup superspeed [endpoint, companion]

/-- The interface descriptor with a number, and `bNumEndpoints` endpoints behind it. -/
inductive IsInterfaceGroup (superspeed : Bool) (number : Nat) : List (List UInt8) → Prop
  | mk {interface : List UInt8} {endpoints : List (List (List UInt8))} :
      byteAt interface 1 = DescriptorType.interface.toU8 →
      (byteAt interface 2).toNat = number →
      (byteAt interface 4).toNat = endpoints.length →
      (∀ group ∈ endpoints, IsEndpointGroup superspeed group) →
      IsInterfaceGroup superspeed number (interface :: endpoints.flatten)

/-- The configuration header, and `bNumInterfaces` interfaces behind it, numbered from zero. -/
inductive IsLayout (superspeed : Bool) : List (List UInt8) → Prop
  | mk {header : List UInt8} {interfaces : List (List (List UInt8))} :
      byteAt header 1 = DescriptorType.configuration.toU8 →
      (byteAt header 4).toNat = interfaces.length →
      (∀ i group, interfaces[i]? = some group → IsInterfaceGroup superspeed i group) →
      IsLayout superspeed (header :: interfaces.flatten)

/-! ## The descriptors that are appended -/

namespace UsbDevice

def endpointParts (d : UsbDevice) (endpoint : UsbEndpoint) : List (List UInt8) :=
  ([0x07, DescriptorType.endpoint.toU8, endpoint.address, endpoint.attributes] ++
    leBytes endpoint.maxPacketSize ++ [endpoint.interval]) ::
    if d.isSuperspeed then [superspeedEndpointCompanionDescriptor endpoint] else []

def interfaceParts (d : UsbDevice) (i : Nat) (intf : UsbInterface) : List (List UInt8) :=
  [0x09, DescriptorType.interface.toU8, UInt8.ofNat i, 0x00,
   UInt8.ofNat intf.endpoints.length, intf.interfaceClass, intf.interfaceSubclass,
   intf.interfaceProtocol, intf.stringInterface] :: (intf.endpoints.map d.endpointParts).flatten

def interfacePartsFrom (d : UsbDevice) : Nat → List UsbInterface → List (List (List UInt8))
  | _, [] => []
  | i, intf :: rest => d.interfaceParts i intf :: interfacePartsFrom d (i + 1) rest

def configurationHeader (d : UsbDevice) : List UInt8 :=
  [0x09, DescriptorType.configuration.toU8] ++
    leBytes (UInt16.ofNat (9 + (d.interfaceDescriptorsFrom 0 d.interfaces).length)) ++
    [UInt8.ofNat d.interfaces.length, d.configurationValue, d.stringConfiguration,
     d.attributes, d.maxPower]

def configurationParts (d : UsbDevice) : List (List UInt8) :=
  d.configurationHeader :: (d.interfacePartsFrom 0 d.interfaces).flatten

/-- What the constructors make of the interfaces: counts that fit into a byte, and no
    class-specific part. -/
structure Describable (d : UsbDevice) : Prop where
  interfaces : d.interfaces.length ≤ 255
  endpoints : ∀ intf ∈ d.interfaces, intf.endpoints.length ≤ 255
  classSpecific : ∀ intf ∈ d.interfaces, intf.classSpecificDescriptor = []
  total : d.configurationDescriptor.length ≤ 65535

variable {d : UsbDevice}

/-! ## They are the descriptor, cut at every length -/

theorem flatten_endpointParts (endpoint : UsbEndpoint) :
    (d.endpointParts endpoint).flatten = d.endpointDescriptor endpoint := by
  unfold endpointParts endpointDescriptor
  split <;> simp

theorem flatten_interfaceParts {i : Nat} {intf : UsbInterface}
    (h : intf.classSpecificDescriptor = []) :
    (d.interfaceParts i intf).flatten = d.interfaceDescriptor i intf := by
  have hendpoints : (intf.endpoints.map d.endpointParts).flatten.flatten =
      intf.endpoints.flatMap d.endpointDescriptor := by
    rw [← List.flatMap_def]
    induction intf.endpoints with
    | nil => rfl
    | cons endpoint endpoints ih =>
      rw [List.flatMap_cons, List.flatten_append, ih, flatten_endpointParts, List.flatMap_cons]
  rw [interfaceParts, List.flatten_cons, hendpoints, interfaceDescriptor, h, List.append_nil]

theorem flatten_interfacePartsFrom {i : Nat} {intfs : List UsbInterface}
    (h : ∀ intf ∈ intfs, intf.classSpecificDescriptor = []) :
    (d.interfacePartsFrom i intfs).flatten.flatten = d.interfaceDescriptorsFrom i intfs := by
  induction intfs generalizing i with
  | nil => rfl
  | cons intf rest ih =>
    rw [interfacePartsFrom, List.flatten_cons, List.flatten_append,
      flatten_interfaceParts (h intf List.mem_cons_self),
      ih fun intf hintf => h intf (List.mem_cons_of_mem _ hintf), interfaceDescriptorsFrom]

theorem flatten_configurationParts
    (h : ∀ intf ∈ d.interfaces, intf.classSpecificDescriptor = []) :
    d.configurationParts.flatten = d.configurationDescriptor := by
  rw [configurationParts, List.flatten_cons, flatten_interfacePartsFrom h]
  rfl

theorem isRecord_of_mem_endpointParts {endpoint : UsbEndpoint} {p : List UInt8}
    (h : p ∈ d.endpointParts endpoint) : IsRecord UInt8.toNat p := by
  rcases List.mem_cons.mp h with rfl | h
  · exact ⟨_, _, rfl, rfl⟩
  · split at h
    · rcases List.mem_singleton.mp h with rfl
      exact ⟨_, _, rfl, rfl⟩
    · cases h

theorem isRecord_of_mem_interfaceParts {i : Nat} {intf : UsbInterface} {p : List UInt8}
    (h : p ∈ d.interfaceParts i intf) : IsRecord UInt8.toNat p := by
  rcases List.mem_cons.mp h with rfl | h
  · exact ⟨_, _, rfl, rfl⟩
  · obtain ⟨group, hgroup, hp⟩ := List.mem_flatten.mp h
    obtain ⟨endpoint, -, rfl⟩ := List.mem_map.mp hgroup
    exact isRecord_of_mem_endpointParts hp

theorem getElem?_interfacePartsFrom (i j : Nat) (intfs : List UsbInterface) :
    (d.interfacePartsFrom i intfs)[j]? = intfs[j]?.map (d.interfaceParts (i + j)) := by
  induction intfs generalizing i j with
  | nil => rfl
  | cons intf rest ih =>
    cases j with
    | zero => rfl
    | succ j =>
      rw [interfacePartsFrom, List.getElem?_cons_succ, List.getElem?_cons_succ, ih,
        Nat.add_assoc, Nat.add_comm 1 j]

theorem isRecord_of_mem_configurationParts {p : List UInt8} (h : p ∈ d.configurationParts) :
    IsRecord UInt8.toNat p := by
  rcases List.mem_cons.mp h with rfl | h
  · exact ⟨_, _, rfl, rfl⟩
  · obtain ⟨group, hgroup, hp⟩ := List.mem_flatten.mp h
    obtain ⟨i, hi⟩ := List.getElem?_of_mem hgroup
    rw [getElem?_interfacePartsFrom] at hi
    obtain ⟨intf, -, rfl⟩ := Option.map_eq_some_iff.mp hi
    exact isRecord_of_mem_interfaceParts hp

/-- The walk finds the descriptors that were appended. -/
theorem Describable.walk_configurationDescriptor (h : d.Describable) :
    walk UInt8.toNat d.configurationDescriptor = some d.configurationParts :=
  walk_iff.mpr ⟨flatten_configurationParts h.classSpecific, fun _ => isRecord_of_mem_configurationParts⟩

/-! ## They are laid out as they should be -/

theorem length_interfacePartsFrom (i : Nat) (intfs : List UsbInterface) :
    (d.interfacePartsFrom i intfs).length = intfs.length := by
  induction intfs generalizing i with
  | nil => rfl
  | cons intf rest ih => rw [interfacePartsFrom, List.length_cons, ih, List.length_cons]

theorem isEndpointGroup_endpointParts (endpoint : UsbEndpoint) :
    IsEndpointGroup d.isSuperspeed (d.endpointParts endpoint) := by
  unfold endpointParts
  cases hs : d.isSuperspeed with
  | false => exact .alone rfl rfl
  | true => exact .withCompanion rfl rfl rfl

theorem isInterfaceGroup_interfaceParts {i : Nat} {intf : UsbInterface} (hi : i ≤ 255)
    (h : intf.endpoints.length ≤ 255) :
    IsInterfaceGroup d.isSuperspeed i (d.interfaceParts i intf) := by
  refine .mk rfl ?_ ?_ ?_
  · show (UInt8.ofNat i).toNat = i
    rw [UInt8.toNat_ofNat']
    omega
  · show (UInt8.ofNat intf.endpoints.length).toNat = _
    rw [UInt8.toNat_ofNat', List.length_map]
    omega
  · intro group hgroup
    obtain ⟨endpoint, -, rfl⟩ := List.mem_map.mp hgroup
    exact isEndpointGroup_endpointParts endpoint

theorem Describable.isLayout (h : d.Describable) :
    IsLayout d.isSuperspeed d.configurationParts := by
  have hinterfaces := h.interfaces
  refine .mk rfl ?_ fun i group hgroup => ?_
  · show (UInt8.ofNat d.interfaces.length).toNat = _
    rw [UInt8.toNat_ofNat', length_interfacePartsFrom]
    omega
  · rw [getElem?_interfacePartsFrom, Nat.zero_add] at hgroup
    obtain ⟨intf, hintf, rfl⟩ := Option.map_eq_some_iff.mp hgroup
    have hi := (List.getElem?_eq_some_iff.mp hintf).1
    exact isInterfaceGroup_interfaceParts (by omega)
      (h.endpoints intf (List.mem_of_getElem? hintf))

/-! ## The header is true -/

theorem Describable.wTotalLength_configurationDescriptor (h : d.Describable) :
    wTotalLength d.configurationDescriptor = d.configurationDescriptor.length := by
  have hlen : d.configurationDescriptor.length =
      9 + (d.interfaceDescriptorsFrom 0 d.interfaces).length := by
    simp only [configurationDescriptor, List.length_append, List.length_cons, List.length_nil,
      leBytes]
  have htotal := h.total
  rw [hlen] at htotal ⊢
  show (UInt16.ofNat _).toUInt8.toNat + 256 * ((UInt16.ofNat _) >>> 8).toUInt8.toNat = _
  rw [Nat.add_comm, ← toNat_u16OfLe, u16OfLe_bytes, UInt16.toNat_ofNat']
  omega

theorem Describable.isConfiguration (h : d.Describable) :
    IsConfiguration d.configurationDescriptor where
  bLength := (by decide : 9 ≤ (0x09 : UInt8).toNat)
  type := rfl
  length := h.wTotalLength_configurationDescriptor.symm
  fits := by
    show (0x09 : UInt8).toNat ≤ _
    simp only [configurationDescriptor, List.length_append, List.length_cons, List.length_nil,
      leBytes]
    exact Nat.le_add_right 9 _

/-- **The project's own reader finds one configuration in it**: the whole. -/
theorem Describable.extractConfigurationDescriptors (h : d.Describable) :
    Lusbip.extractConfigurationDescriptors d.configurationDescriptor =
      [d.configurationDescriptor] := by
  let item : ConfigurationItem :=
    { before := [], configuration := d.configurationDescriptor, isOther := by simp
      isConfiguration := h.isConfiguration }
  have hitem := @extractConfigurationDescriptors_items [item] [] (by simp)
  simpa [item, ConfigurationItem.bytes] using hitem

theorem Describable.handleUrb_configuration (h : d.Describable) {prof : Profile}
    {setup : SetupPacket} (hraw : d.rawConfigurationDescriptors = [])
    (hgets : setup.Gets .configuration) {ep : UsbEndpoint}
    (hep : EndpointAttributes.fromU8 ep.attributes = some .control) (hdir : ep.direction = .in)
    (intf : Option UsbInterface) (len : UInt32) (outData : List UInt8) (host : Host) :
    (d.handleUrb prof ep intf len setup outData).outcome host =
      .ok (d.configurationDescriptor.take setup.length.toNat) := by
  have hnone : d.rawConfigurationDescriptor setup.value.toUInt8 setup.length = none := by
    rw [rawConfigurationDescriptor, hraw]
    rfl
  have htake : truncateTo setup.length d.configurationDescriptor =
      d.configurationDescriptor.take setup.length.toNat :=
    truncateTo_eq_take (Nat.lt_succ_of_le h.total)
  rw [handleUrb_gets hgets hep hdir, getDescriptor, hgets.type]
  dsimp only
  rw [hnone, htake]
  rfl

end UsbDevice

/-- **The synthesized configuration descriptor is well formed.** For every device without
    descriptors of its own, whose counts and total length fit, there is one descriptor of which
    every request gets as much as it asks for. Its `wTotalLength` is its length, the walk by
    `bLength` ends at its end and finds the layout of a configuration, and the project's own reader
    takes it for one configuration. -/
theorem synthesizedConfiguration_wellFormed (d : UsbDevice)
    (hraw : d.rawConfigurationDescriptors = []) (h : d.Describable) :
    ∃ desc : List UInt8,
      (∀ (prof : Profile) (setup : SetupPacket), setup.Gets .configuration →
        ∀ (ep : UsbEndpoint) (intf : Option UsbInterface) (len : UInt32) (outData : List UInt8)
          (host : Host), EndpointAttributes.fromU8 ep.attributes = some .control →
          ep.direction = .in →
          (d.handleUrb prof ep intf len setup outData).outcome host =
            .ok (desc.take setup.length.toNat)) ∧
      wTotalLength desc = desc.length ∧
      (∃ parts, walk UInt8.toNat desc = some parts ∧ IsLayout d.isSuperspeed parts) ∧
      verifyDescriptorFrom desc (desc.length + 1) 0 = some (.ok ()) ∧
      extractConfigurationDescriptors desc = [desc] := by
  have hwalk := h.walk_configurationDescriptor
  refine ⟨d.configurationDescriptor, fun prof setup hgets ep intf len outData host hep hdir => ?_,
    h.wTotalLength_configurationDescriptor, ⟨d.configurationParts, hwalk, h.isLayout⟩,
    verifyDescriptor_of_walk hwalk, h.extractConfigurationDescriptors⟩
  exact h.handleUrb_configuration hraw hgets hep hdir intf len outData host

/-- A SuperSpeed keyboard. -/
def superspeedKeyboard : UsbDevice where
  busId := "2-1"
  speed := UsbSpeed.super.toU32
  configurationValue := 1
  numConfigurations := 1
  interfaces :=
    [{ interfaceClass := 0x03
       interfaceSubclass := 1
       interfaceProtocol := 1
       endpoints := [{ address := 0x81, attributes := 3, maxPacketSize := 8, interval := 10 }]
       stringInterface := 0
       classSpecificDescriptor := []
       handler := { device := ⟨0⟩, interfaceNumber := 0 } }]
  deviceHandler := some ⟨0⟩
  ep0In := ep0InEndpoint
  ep0Out := ep0OutEndpoint

theorem superspeedKeyboard_describable : superspeedKeyboard.Describable where
  interfaces := by decide
  endpoints := by
    intro intf hintf
    rcases List.mem_singleton.mp hintf with rfl
    decide
  classSpecific := by
    intro intf hintf
    rcases List.mem_singleton.mp hintf with rfl
    rfl
  total := by decide

theorem synthesizedConfiguration_wellFormed_keyboard :
    ∃ desc : List UInt8, wTotalLength desc = desc.length ∧
      (∃ parts, walk UInt8.toNat desc = some parts ∧ IsLayout true parts) ∧
      extractConfigurationDescriptors desc = [desc] := by
  obtain ⟨desc, -, htotal, hlayout, -, hextract⟩ :=
    synthesizedConfiguration_wellFormed superspeedKeyboard rfl superspeedKeyboard_describable
  exact ⟨desc, htotal, hlayout, hextract⟩

end Lusbip
