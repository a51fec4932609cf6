import Lusbip.Usb.ControlRequest

/-!
# How long an answer can get

The length that is honoured differs from path to path: `wLength` where a control request is
forwarded, the buffer of the URB where an interrupt endpoint is read, that buffer rounded up
to whole packets where a bulk endpoint is, and the length of the answer itself where the
device answers. `PayloadAtMost` puts them together: it bounds the payload of a URB by the
device, the setup packet and the buffer length alone, and `handleUrb_ensures_iff` says that
the bound is exact, against hosts that never return more than they are asked for.
-/

namespace Lusbip

/-! ## Hosts that keep to the requested length -/

/-- An answer of at most the length that is asked for, and the packet sizes of the host's
    endpoints. -/
def HostCall.Obliging (packetSize : Interface → UInt8 → Nat) :
    (c : HostCall) → c.Answer → Prop
  | .controlIn _ control, (answer : Except TransferError (List UInt8)) =>
      ∀ bytes, answer = .ok bytes → bytes.length ≤ control.length.toNat
  | .readExact _ _ length, (answer : Except IoError (List UInt8)) =>
      ∀ bytes, answer = .ok bytes → bytes.length = length
  | .transferIn _ _ length, (answer : Except TransferError (List UInt8)) =>
      ∀ bytes, answer = .ok bytes → bytes.length ≤ length
  | .maxPacketSize interface address, (answer : Nat) => answer = packetSize interface address
  | _, _ => True

def Host.Obliging (packetSize : Interface → UInt8 → Nat) (host : Host) : Prop :=
  ∀ n c, HostCall.Obliging packetSize c (host n c)

variable {packetSize : Interface → UInt8 → Nat}

theorem HostCall.obliging_exists (c : HostCall) : ∃ r, c.Obliging packetSize r := by
  cases c with
  | controlIn h control => exact ⟨.error .disconnected, fun _ h => nomatch h⟩
  | readExact i address length => exact ⟨.error (.transfer .disconnected), fun _ h => nomatch h⟩
  | transferIn i address length => exact ⟨.error .disconnected, fun _ h => nomatch h⟩
  | maxPacketSize i address => exact ⟨packetSize i address, rfl⟩
  | controlOut h control => exact ⟨.ok (), trivial⟩
  | setConfiguration d value => exact ⟨.ok (), trivial⟩
  | openEndpoint i attributes address => exact ⟨.ok (), trivial⟩
  | writeAll i address bytes => exact ⟨.ok (), trivial⟩
  | flush i address => exact ⟨.ok (), trivial⟩
  | transferOut i address bytes => exact ⟨.ok (), trivial⟩
  | clearHalt i address => exact ⟨.ok (), trivial⟩

theorem Host.disconnected_obliging : Host.disconnected.Obliging fun _ _ => 64 := by
  intro n c
  cases c with
  | controlIn h control => exact fun _ h => nomatch h
  | readExact i address length => exact fun _ h => nomatch h
  | transferIn i address length => exact fun _ h => nomatch h
  | maxPacketSize i address => rfl
  | controlOut h control => trivial
  | setConfiguration d value => trivial
  | openEndpoint i attributes address => trivial
  | writeAll i address bytes => trivial
  | flush i address => trivial
  | transferOut i address bytes => trivial
  | clearHalt i address => trivial

/-! ## Descriptors -/

namespace UsbDevice

/-- The length of a descriptor after `truncateTo`. The full length is compared as a `u16`. -/
def truncatedLength (length : UInt16) (full : Nat) : Nat :=
  if length.toNat < full % 2 ^ 16 then length.toNat else full

/-- The full length of the synthesized configuration descriptor. -/
def configurationLength (d : UsbDevice) : Nat :=
  9 + (d.interfaces.map fun intf => 9 + intf.classSpecificDescriptor.length +
    intf.endpoints.length * if d.isSuperspeed then 13 else 7).sum

/-- The length of the answer to `GET_DESCRIPTOR`. -/
def descriptorLength (d : UsbDevice) (setup : SetupPacket) : Nat :=
  match DescriptorType.fromU16 (setup.value >>> 8) with
  | some .device => truncatedLength setup.length 18
  | some .bos => truncatedLength setup.length (if d.isSuperspeed then 22 else 5)
  | some .configuration =>
      match d.rawConfigurationDescriptors[setup.value.toUInt8.toNat]? with
      | some descriptor => min setup.length.toNat descriptor.length
      | none => truncatedLength setup.length d.configurationLength
  | some .string =>
      if setup.value.toUInt8 = 0 then truncatedLength setup.length 4
      else
        match d.stringAt setup.value.toUInt8 with
        | some s => truncatedLength setup.length (2 + 2 * (encodeUtf16 s).length)
        | none => 0
  | some .deviceQualifier => truncatedLength setup.length 10
  | _ => 0

theorem length_truncateTo (length : UInt16) (desc : List UInt8) :
    (truncateTo length desc).length = truncatedLength length desc.length := by
  have hlt : length < UInt16.ofNat desc.length ↔ length.toNat < desc.length % 2 ^ 16 := by
    rw [UInt16.lt_iff_toNat_lt, UInt16.toNat_ofNat']
  unfold truncateTo truncatedLength
  simp only [hlt]
  split
  · have := Nat.mod_le desc.length (2 ^ 16)
    rw [List.length_take]
    omega
  · rfl

theorem length_bosDescriptor (d : UsbDevice) :
    d.bosDescriptor.length = if d.isSuperspeed then 22 else 5 := by
  unfold bosDescriptor
  split <;> rfl

theorem length_endpointDescriptor (d : UsbDevice) (endpoint : UsbEndpoint) :
    (d.endpointDescriptor endpoint).length = if d.isSuperspeed then 13 else 7 := by
  unfold endpointDescriptor
  split <;> rfl

theorem length_flatMap_const {α β : Type} {f : α → List β} {n : Nat} (h : ∀ a, (f a).length = n)
    (l : List α) : (l.flatMap f).length = l.length * n := by
  induction l with
  | nil => simp
  | cons a l ih =>
    rw [List.flatMap_cons, List.length_append, h, ih, List.length_cons, Nat.succ_mul]
    exact Nat.add_comm _ _

theorem length_interfaceDescriptorsFrom (d : UsbDevice) (i : Nat) (intfs : List UsbInterface) :
    (d.interfaceDescriptorsFrom i intfs).length =
      (intfs.map fun intf => 9 + intf.classSpecificDescriptor.length +
        intf.endpoints.length * if d.isSuperspeed then 13 else 7).sum := by
  induction intfs generalizing i with
  | nil => rfl
  | cons intf rest ih =>
    rw [interfaceDescriptorsFrom, List.length_append, ih, List.map_cons, List.sum_cons]
    congr 1
    unfold interfaceDescriptor
    rw [List.length_append, List.length_append, length_flatMap_const d.length_endpointDescriptor]
    rfl

theorem length_configurationDescriptor (d : UsbDevice) :
    d.configurationDescriptor.length = d.configurationLength := by
  unfold configurationDescriptor configurationLength
  rw [← length_interfaceDescriptorsFrom d 0]
  simp only [List.length_append, List.length_cons, List.length_nil, leBytes]

end UsbDevice

/-- A text behind the header that is computed for so many units. -/
def spelled (units : Nat) (text : String) : List UInt8 :=
  [UInt8.ofNat (2 + 2 * (units % 256)), DescriptorType.string.toU8] ++
    (encodeUtf16 text).flatMap leBytes

theorem length_spelled (units : Nat) (text : String) :
    (spelled units text).length = 2 + 2 * (encodeUtf16 text).length := by
  rw [spelled, List.length_append, UsbDevice.length_flatMap_const (n := 2) fun _ => rfl]
  exact congrArg (2 + ·) (Nat.mul_comm _ _)

namespace UsbDevice

/-- The descriptor that is computed, where the checked build does not overflow. The other one goes
    round in the same way. -/
theorem stringDescriptor_eq_spelled {prof : Profile} {s : String} (h : StringFits prof s) :
    stringDescriptor prof s = .ok (spelled (encodeUtf16 s).length s) := by
  have hlen : (UInt8.ofNat (encodeUtf16 s).length).toNat = (encodeUtf16 s).length % 256 := by
    simp
  have hmul : prof = .dev → (UInt8.ofNat (encodeUtf16 s).length).toNat * 2 < 256 := fun hp => by
    have := h hp
    omega
  have hadd : prof = .dev →
      (2 : UInt8).toNat + (UInt8.ofNat (encodeUtf16 s).length * 2).toNat < 256 := fun hp => by
    rw [UInt8.toNat_mul, hlen]
    exact (Nat.add_le_add_left (Nat.mod_le _ _) 2).trans_lt (h hp)
  have hbyte : 2 + UInt8.ofNat (encodeUtf16 s).length * 2 =
      UInt8.ofNat (2 + 2 * ((encodeUtf16 s).length % 256)) := by
    refine UInt8.toNat_inj.mp ?_
    rw [UInt8.toNat_add, UInt8.toNat_mul, hlen, UInt8.toNat_ofNat']
    show (2 + (encodeUtf16 s).length % 256 * 2 % 256) % 256 = _
    omega
  rw [spelled, ← hbyte]
  exact Outcome.bind_eq_ok.mpr ⟨_, mulU8_of_lt hmul,
    Outcome.bind_eq_ok.mpr ⟨_, addU8_of_lt hadd, rfl⟩⟩

theorem stringDescriptor_eq {prof : Profile} {s : String} (h : StringFits prof s) :
    ∃ bytes, stringDescriptor prof s = .ok bytes ∧
      bytes.length = 2 + 2 * (encodeUtf16 s).length :=
  ⟨_, stringDescriptor_eq_spelled h, length_spelled _ _⟩

theorem getDescriptor_eq {prof : Profile} {d : UsbDevice} {setup : SetupPacket}
    (h : d.DescriptorFits prof setup) :
    ∃ bytes, d.getDescriptor prof setup = .ok bytes ∧
      bytes.length = d.descriptorLength setup := by
  unfold getDescriptor descriptorLength
  cases hty : DescriptorType.fromU16 (setup.value >>> 8) with
  | none => exact ⟨[], rfl, rfl⟩
  | some ty =>
    cases ty with
    | device => exact ⟨_, rfl, length_truncateTo _ _⟩
    | bos =>
      refine ⟨_, rfl, ?_⟩
      rw [length_truncateTo, length_bosDescriptor]
    | configuration =>
      dsimp only
      unfold rawConfigurationDescriptor
      cases d.rawConfigurationDescriptors[setup.value.toUInt8.toNat]? with
      | some descriptor => exact ⟨_, rfl, List.length_take⟩
      | none =>
        refine ⟨_, rfl, ?_⟩
        rw [length_truncateTo, length_configurationDescriptor]
    -- The list of languages at 0, and a string of the pool elsewhere.
    | string =>
      dsimp only
      by_cases hi : setup.value.toUInt8 = 0
      · rw [if_pos hi, if_pos hi]
        exact ⟨_, rfl, length_truncateTo _ _⟩
      · rw [if_neg hi, if_neg hi]
        cases hs : d.stringAt setup.value.toUInt8 with
        | none => exact ⟨[], rfl, rfl⟩
        | some s =>
          obtain ⟨bytes, hbytes, hlen⟩ := stringDescriptor_eq (h hty hi s hs)
          refine ⟨truncateTo setup.length bytes, ?_, ?_⟩
          · dsimp only
            rw [hbytes]
            rfl
          · rw [length_truncateTo, hlen]
    | deviceQualifier => exact ⟨_, rfl, length_truncateTo _ _⟩
    -- Every other type is answered with no bytes.
    | interface | endpoint | otherSpeedConfiguration | interfacePower | otg | debug
    | interfaceAssociation | deviceCapability | superspeedUsbEndpointCompanion =>
      exact ⟨[], rfl, rfl⟩

end UsbDevice

/-! ## The host paths -/

variable {limit : Nat}

/-- What is returned has at most `limit` bytes. -/
def AtMost (packetSize : Interface → UInt8 → Nat) (limit : Nat) (m : HostM (List UInt8)) : Prop :=
  m.Ensures (HostCall.Obliging packetSize) fun bytes => bytes.length ≤ limit

theorem atMost_bind {α : Type} {m : HostM α} {f : α → HostM (List UInt8)} :
    AtMost packetSize limit (m.bind f) ↔
      m.Ensures (HostCall.Obliging packetSize) fun a => AtMost packetSize limit (f a) :=
  HostM.ensures_bind

theorem atMost_ask_bind {c : HostCall} {k : c.Answer → HostM (List UInt8)} :
    AtMost packetSize limit ((HostM.ask c).bind k) ↔
      ∀ r, c.Obliging packetSize r → AtMost packetSize limit (k r) :=
  HostM.ensures_ask_bind

theorem atMost_pure (bytes : List UInt8) :
    AtMost packetSize limit (pure bytes) ↔ bytes.length ≤ limit :=
  HostM.ensures_pure bytes

/-- What only ever returns an empty buffer returns none that is too long. -/
theorem atMost_of_nil {m : HostM Unit} : AtMost packetSize limit (m.bind fun _ => pure []) :=
  atMost_bind.mpr (HostM.ensures_of_forall (fun _ => (atMost_pure []).mpr (Nat.zero_le _)) m)

/-- A read that is answered with what it brings may be answered with as many bytes as it asks
    for. -/
theorem atMost_read_iff {ε : Type} {n : Nat} {k : Except ε (List UInt8) → HostM (List UInt8)}
    (hok : ∀ bytes, k (.ok bytes) = pure bytes)
    (herr : n ≤ limit → ∀ err, AtMost packetSize limit (k (.error err))) :
    (∀ r, (∀ bytes, r = .ok bytes → bytes.length ≤ n) → AtMost packetSize limit (k r)) ↔
      n ≤ limit := by
  constructor
  · intro h
    have := h (.ok (List.replicate n 0)) fun bytes hb => ?_
    · rwa [hok, atMost_pure, List.length_replicate] at this
    · cases hb
      rw [List.length_replicate]
  · intro h r hr
    cases r with
    | ok bytes =>
      rw [hok, atMost_pure]
      exact (hr bytes rfl).trans h
    | error err => exact herr h err

/-- The request type is decoded before any call is made. -/
theorem atMost_decoded_iff {rt : UInt8} {k : ControlType → Recipient → HostM (List UInt8)}
    {P : Prop} (hk : ∀ t r, AtMost packetSize limit (k t r) ↔ P) :
    AtMost packetSize limit ((HostM.ret (controlType rt)).bind fun t =>
      (HostM.ret (recipient rt)).bind fun r => k t r) ↔ (requestTypeIsKnown rt = true → P) := by
  unfold requestTypeIsKnown
  by_cases ht : typeIsKnown rt = true
  · obtain ⟨t, htt⟩ := controlType_of_known ht
    rw [htt, HostM.bind_ret_ok]
    by_cases hr : recipientIsKnown rt = true
    · obtain ⟨r, hrr⟩ := recipient_of_known hr
      rw [hrr, HostM.bind_ret_ok, hk]
      simp [ht, hr]
    · rw [recipient_of_not_known hr, HostM.bind_ret_error]
      exact iff_of_true (HostM.ensures_ret_error _) (by simp [hr])
  · rw [controlType_of_not_known ht, HostM.bind_ret_error]
    exact iff_of_true (HostM.ensures_ret_error _) (by simp [ht])

theorem controlForInterface_atMost_iff {interface : Interface} {ep : UsbEndpoint}
    {setup : SetupPacket} {req : List UInt8} :
    AtMost packetSize limit (controlForInterface interface ep setup req) ↔
      (requestTypeIsKnown setup.requestType = true → ep.direction = .in →
        setup.length.toNat ≤ limit) := by
  refine atMost_decoded_iff fun t r => ?_
  split
  · rename_i hdir
    simp only [hdir, forall_const]
    exact atMost_ask_bind.trans
      (atMost_read_iff (fun _ => rfl) fun _ _ => (atMost_pure []).mpr (Nat.zero_le _))
  · rename_i hdir
    refine iff_of_true ?_ fun h => absurd h hdir
    exact atMost_ask_bind.mpr fun r _ => atMost_of_nil

theorem handleUrbForDevice_atMost_iff {device : Device} {interface : Option Interface}
    {setup : SetupPacket} {req : List UInt8} :
    AtMost packetSize limit (handleUrbForDevice device interface setup req) ↔
      (requestTypeIsKnown setup.requestType = true → setup.requestType &&& 0x80 ≠ 0 →
        setup.length.toNat ≤ limit) := by
  refine atMost_decoded_iff fun t r => ?_
  obtain ⟨handle, hhandle⟩ : ∃ handle, controlHandle device interface = .ok handle := by
    cases interface with
    | none => exact ⟨_, rfl⟩
    | some i => exact ⟨_, rfl⟩
  rw [hhandle]
  show AtMost packetSize limit (if _ then _ else _) ↔ _
  split
  · rename_i hdir
    refine iff_of_true ?_ fun h => absurd hdir h
    exact atMost_ask_bind.mpr fun r _ => atMost_of_nil
  · rename_i hdir
    simp only [ne_eq, hdir, not_false_eq_true, forall_const]
    exact atMost_ask_bind.trans
      (atMost_read_iff (fun _ => rfl) fun _ _ => (atMost_pure []).mpr (Nat.zero_le _))

/-- A call that has no data to answer with stands in the way only if it fails. -/
theorem atMost_then_iff {c : HostCall} {k : Unit → HostM (List UInt8)}
    (hc : c.Answer = Except UsbError Unit) (hany : ∀ r, c.Obliging packetSize r) :
    AtMost packetSize limit ((HostM.ask c).bind fun r => (HostM.ofUsb (cast hc r)).bind k) ↔
      AtMost packetSize limit (k ()) := by
  refine atMost_ask_bind.trans ⟨fun h => ?_, fun h r _ => ?_⟩
  · have := h (cast hc.symm (.ok ())) (hany _)
    rwa [cast_cast, cast_eq] at this
  · cases cast hc r with
    | ok u => exact h
    | error err => exact HostM.ensures_ret_error _

theorem interruptForInterface_atMost_iff {interface : Interface} {ep : UsbEndpoint}
    {len : UInt32} {req : List UInt8} :
    AtMost packetSize limit (interruptForInterface interface ep len req) ↔
      (ep.direction = .in → len.toNat ≤ limit) := by
  refine (atMost_then_iff (c := .openEndpoint interface ep.attributes ep.address) rfl
    fun _ => trivial).trans ?_
  split
  · rename_i hdir
    simp only [hdir, forall_const]
    refine atMost_ask_bind.trans ⟨fun h => ?_, fun h (r : Except IoError (List UInt8)) hr => ?_⟩
    · have := h (.ok (List.replicate len.toNat 0)) fun bytes hb => ?_
      · rwa [show AtMost packetSize limit (pure _) ↔ _ from atMost_pure _,
          List.length_replicate] at this
      · cases hb
        rw [List.length_replicate]
    · cases r with
      | ok buffer => exact (atMost_pure buffer).mpr ((hr buffer rfl).trans_le h)
      | error err => exact (atMost_pure []).mpr (Nat.zero_le _)
  · rename_i hdir
    refine iff_of_true ?_ fun h => absurd h hdir
    refine atMost_ask_bind.mpr fun r _ => atMost_bind.mpr (HostM.ensures_of_forall (fun _ => ?_) _)
    exact atMost_ask_bind.mpr fun r _ => atMost_of_nil

theorem bulkForInterface_atMost_iff {prof : Profile} {interface : Interface} {ep : UsbEndpoint}
    {len : UInt32} {req : List UInt8} :
    AtMost packetSize limit (bulkForInterface prof interface ep len req) ↔
      (ep.direction = .in → len ≠ 0 ∧ Readable len (packetSize interface ep.address) →
        wholePackets len.toNat (packetSize interface ep.address) ≤ limit) := by
  refine (atMost_then_iff (c := .openEndpoint interface ep.attributes ep.address) rfl
    fun _ => trivial).trans ?_
  split
  · rename_i hdir
    simp only [hdir, forall_const]
    refine atMost_ask_bind.trans (forall_eq.trans ?_)
    cases hlen : requestedBuffer prof len (packetSize interface ep.address) with
    | ok n =>
      obtain ⟨hreadable, hn⟩ := requestedBuffer_eq_ok.mp hlen
      rw [← hn]
      refine Iff.trans ?_ (forall_prop_of_true hreadable).symm
      refine Iff.trans (atMost_ask_bind (c := .transferIn interface ep.address n)) ?_
      refine atMost_read_iff (ε := TransferError) (fun _ => rfl) fun h err => ?_
      cases err with
      | cancelled => exact (atMost_pure []).mpr (Nat.zero_le _)
      | stall =>
        -- A stalled endpoint is read once more, for the same length.
        refine (atMost_then_iff (c := .clearHalt interface ep.address) rfl fun _ => trivial).mpr ?_
        refine atMost_ask_bind.mpr fun (r : Except TransferError (List UInt8)) hr => ?_
        cases r with
        | ok buf => exact (atMost_pure buf).mpr ((hr buf rfl).trans h)
        | error err => exact HostM.ensures_ret_error _
      | disconnected | fault | invalidArgument | unknown code => exact HostM.ensures_ret_error _
    | error stop =>
      -- The handler panics, and there is no reply.
      refine iff_of_true (HostM.ensures_ret_error stop) fun hreadable => ?_
      exact nomatch hlen.symm.trans (requestedBuffer_eq_ok.mpr ⟨hreadable, rfl⟩)
  · rename_i hdir
    refine iff_of_true ?_ fun h => absurd h hdir
    refine atMost_ask_bind.mpr fun (r : Except TransferError Unit) _ => ?_
    cases r with
    | ok u => exact (atMost_pure []).mpr (Nat.zero_le _)
    | error err =>
      refine (atMost_then_iff (c := .clearHalt interface ep.address) rfl fun _ => trivial).mpr ?_
      exact atMost_ask_bind.mpr fun r _ => atMost_of_nil

/-! ## The dispatch -/

namespace UsbDevice

/-- The length a device handle answers with: the direction bit of the request decides, not
    the direction of the URB. -/
def DeviceAtMost (setup : SetupPacket) (limit : Nat) : Prop :=
  requestTypeIsKnown setup.requestType = true → setup.requestType &&& 0x80 ≠ 0 →
    setup.length.toNat ≤ limit

/-- The bound on a control-IN URB, arm by arm. -/
def ControlInAtMost (prof : Profile) (d : UsbDevice) (setup : SetupPacket) (limit : Nat) : Prop :=
  if setup.requestType = 0b10000000 ∧
      StandardRequest.fromU8 setup.request = some .getDescriptor then
    d.DescriptorFits prof setup → d.descriptorLength setup ≤ limit
  else if d.handlesMassStorageGetMaxLun setup then 1 ≤ limit
  else if d.shouldForwardControlToDevice setup ∧ d.deviceHandler.isSome then
    DeviceAtMost setup limit
  else if setup.requestType &&& 0xF = 1 then
    d.NamesInterface setup → setup.length.toNat ≤ limit
  else if setup.requestType &&& 0xF = 0 ∧ d.deviceHandler.isSome then DeviceAtMost setup limit
  else True

/-- The bound on a control-OUT URB, arm by arm. -/
def ControlOutAtMost (d : UsbDevice) (setup : SetupPacket) (limit : Nat) : Prop :=
  if setup.requestType = 0b00000000 ∧
      StandardRequest.fromU8 setup.request = some .setConfiguration then
    min setup.length.toNat 1 ≤ limit
  else if d.handlesSuperspeedVirtualRequest setup then True
  else if d.shouldForwardControlToDevice setup ∧ d.deviceHandler.isSome then
    DeviceAtMost setup limit
  else if setup.requestType &&& 0xF = 1 then True
  else if setup.requestType &&& 0xF = 0 then
    d.deviceHandler.isSome = true → DeviceAtMost setup limit
  else True

/-- The bound on the payload that a URB is answered with. -/
def PayloadAtMost (prof : Profile) (packetSize : Interface → UInt8 → Nat) (d : UsbDevice)
    (ep : UsbEndpoint) (intf : Option UsbInterface) (len : UInt32) (setup : SetupPacket)
    (limit : Nat) : Prop :=
  match EndpointAttributes.fromU8 ep.attributes, ep.direction with
  | some .control, .in => d.ControlInAtMost prof setup limit
  | some .control, .out => d.ControlOutAtMost setup limit
  | some .interrupt, .in => intf.isSome = true → len.toNat ≤ limit
  | some .bulk, .in => ∀ i ∈ intf, len ≠ 0 ∧ Readable len (packetSize i.handler ep.address) →
      wholePackets len.toNat (packetSize i.handler ep.address) ≤ limit
  | _, _ => True

variable {prof : Profile} {d : UsbDevice} {ep : UsbEndpoint} {intf : Option UsbInterface}
  {len : UInt32} {setup : SetupPacket} {outData : List UInt8}

theorem getDescriptor_atMost_iff :
    AtMost packetSize limit (.ret (d.getDescriptor prof setup)) ↔
      (d.DescriptorFits prof setup → d.descriptorLength setup ≤ limit) := by
  constructor
  · intro h hfits
    obtain ⟨bytes, hbytes, hlen⟩ := getDescriptor_eq hfits
    exact hlen ▸ h bytes hbytes
  · intro h bytes hbytes
    have hfits : d.DescriptorFits prof setup := by
      refine getDescriptor_returns_iff.mp ?_
      rw [hbytes]
      trivial
    obtain ⟨bytes', hbytes', hlen⟩ := getDescriptor_eq hfits
    rw [hbytes, Except.ok.injEq] at hbytes'
    rw [hbytes', hlen]
    exact h hfits

theorem forwardToInterface_atMost_iff (hep : ep.attributes = EndpointAttributes.control.toU8)
    (hrec : setup.requestType &&& 0xF = 1) :
    AtMost packetSize limit (d.forwardToInterface prof ep len setup outData) ↔
      (d.NamesInterface setup → ep.direction = .in → setup.length.toNat ≤ limit) := by
  unfold forwardToInterface interfaceAt NamesInterface
  dsimp only
  by_cases hlt : setup.index.toNat &&& 0xFF < d.interfaces.length
  · rw [List.getElem?_eq_getElem hlt]
    show AtMost packetSize limit (handleUrbForInterface _ _ _ _ _ _) ↔ _
    rw [handleUrbForInterface, if_pos hep, controlForInterface_atMost_iff]
    simp only [hrec, hlt, true_and]
  · rw [List.getElem?_eq_none (by omega)]
    exact iff_of_true (HostM.ensures_ret_error _) fun h => absurd h.2.1 hlt

/-- The arm that forwards to a device handle it has just seen. -/
theorem unwrap_forwardToDevice_atMost_iff (h : d.deviceHandler.isSome = true) :
    AtMost packetSize limit ((HostM.ret (Outcome.unwrap d.deviceHandler)).bind fun handler =>
      d.forwardToDevice handler setup outData) ↔ DeviceAtMost setup limit := by
  obtain ⟨handler, hh⟩ := Option.isSome_iff_exists.mp h
  rw [hh, Outcome.unwrap_some, HostM.bind_ret_ok]
  exact handleUrbForDevice_atMost_iff

theorem controlIn_atMost_iff (hep : ep.attributes = EndpointAttributes.control.toU8)
    (hdir : ep.direction = .in) :
    AtMost packetSize limit (d.controlIn prof ep len setup outData) ↔
      d.ControlInAtMost prof setup limit := by
  unfold controlIn ControlInAtMost
  split
  · exact getDescriptor_atMost_iff
  · split
    · exact atMost_pure [0]
    · split
      · rename_i hfwd
        exact unwrap_forwardToDevice_atMost_iff hfwd.2
      · split
        · rename_i hrec
          rw [forwardToInterface_atMost_iff hep hrec]
          simp only [hdir, forall_const]
        · split
          · rename_i hfwd
            exact unwrap_forwardToDevice_atMost_iff hfwd.2
          · exact iff_of_true (HostM.ensures_ret_error _) trivial

theorem setConfiguration_atMost_iff :
    AtMost packetSize limit (d.setConfiguration setup) ↔ min setup.length.toNat 1 ≤ limit := by
  have hlen : (truncateTo setup.length [d.configurationValue]).length =
      min setup.length.toNat 1 := by
    rw [length_truncateTo]
    unfold truncatedLength
    simp only [List.length_singleton]
    split <;> omega
  have hpure : AtMost packetSize limit (pure (truncateTo setup.length [d.configurationValue])) ↔
      min setup.length.toNat 1 ≤ limit := by
    rw [atMost_pure, hlen]
  unfold setConfiguration
  cases d.deviceHandler with
  | none => exact hpure
  | some device =>
    by_cases hf : d.shouldForwardSetConfiguration setup.value.toUInt8 = true
    · simp only [hf, if_true]
      refine atMost_ask_bind.trans ⟨fun h => hpure.mp (h (.ok ()) trivial), fun h r _ => ?_⟩
      exact hpure.mpr h
    · simp only [if_neg hf]
      exact hpure

theorem controlOut_atMost_iff (hep : ep.attributes = EndpointAttributes.control.toU8)
    (hdir : ep.direction = .out) :
    AtMost packetSize limit (d.controlOut prof ep len setup outData) ↔
      d.ControlOutAtMost setup limit := by
  unfold controlOut ControlOutAtMost
  split
  · exact setConfiguration_atMost_iff
  · split
    · exact iff_of_true ((atMost_pure []).mpr (Nat.zero_le _)) trivial
    · split
      · rename_i hfwd
        exact unwrap_forwardToDevice_atMost_iff hfwd.2
      · split
        · rename_i hrec
          rw [forwardToInterface_atMost_iff hep hrec]
          simp only [hdir, reduceCtorEq, false_imp_iff, imp_true_iff]
        · split
          · cases hh : d.deviceHandler with
            | none => exact iff_of_true ((atMost_pure []).mpr (Nat.zero_le _)) fun h => nomatch h
            | some handler =>
              simp only [Option.isSome_some, forall_const]
              exact handleUrbForDevice_atMost_iff
          · exact iff_of_true (HostM.ensures_ret_error _) trivial

/-- **The bound is exact**: a URB is answered with at most `limit` bytes by every host that
    keeps to the requested lengths, if and only if `PayloadAtMost` says so. -/
theorem handleUrb_atMost_iff (outData : List UInt8) :
    AtMost packetSize limit (d.handleUrb prof ep intf len setup outData) ↔
      d.PayloadAtMost prof packetSize ep intf len setup limit := by
  have hintf : AtMost packetSize limit (do
      let intf ← HostM.ret (Outcome.unwrap intf)
      handleUrbForInterface prof intf.handler ep len setup outData) ↔
      ∀ i ∈ intf, AtMost packetSize limit
        (handleUrbForInterface prof i.handler ep len setup outData) := by
    cases intf with
    | none => exact iff_of_true (HostM.ensures_ret_error _) fun _ h => nomatch h
    | some i => exact ⟨fun h j hj => Option.mem_some_iff.mp hj ▸ h, fun h => h i rfl⟩
  unfold handleUrb PayloadAtMost
  cases hattr : EndpointAttributes.fromU8 ep.attributes with
  | none =>
    -- Attributes that name no transfer type are served with no bytes.
    have hne : ∀ attr : EndpointAttributes, ep.attributes ≠ attr.toU8 := by
      intro attr h
      rw [h, attr.fromU8_toU8] at hattr
      cases hattr
    refine iff_of_true (hintf.mpr fun i _ => ?_) trivial
    rw [handleUrbForInterface, if_neg (hne _), if_neg (hne _), if_neg (hne _)]
    exact (atMost_pure []).mpr (Nat.zero_le _)
  | some attr =>
    have hep : ep.attributes = attr.toU8 := EndpointAttributes.toU8_of_fromU8 hattr
    cases attr with
    | control =>
      cases hdir : ep.direction
      · exact controlOut_atMost_iff hep hdir
      · exact controlIn_atMost_iff hep hdir
    -- Isochronous transfers are not supported, and served with no bytes too.
    | isochronous =>
      refine iff_of_true (hintf.mpr fun i _ => ?_) trivial
      rw [handleUrbForInterface, hep, if_neg (by decide), if_neg (by decide), if_neg (by decide)]
      exact (atMost_pure []).mpr (Nat.zero_le _)
    | bulk =>
      have hbulk : ∀ interface : Interface,
          handleUrbForInterface prof interface ep len setup outData =
            bulkForInterface prof interface ep len outData := fun interface => by
        rw [handleUrbForInterface, hep, if_neg (by decide), if_neg (by decide), if_pos rfl]
      refine hintf.trans ?_
      simp only [hbulk, bulkForInterface_atMost_iff]
      cases hdir : ep.direction <;> simp
    | interrupt =>
      have hinterrupt : ∀ interface : Interface,
          handleUrbForInterface prof interface ep len setup outData =
            interruptForInterface interface ep len outData := fun interface => by
        rw [handleUrbForInterface, hep, if_neg (by decide), if_pos rfl]
      refine hintf.trans ?_
      simp only [hinterrupt, interruptForInterface_atMost_iff]
      cases hdir : ep.direction
      · simp
      · cases intf <;> simp

end UsbDevice

/-! ## Replies -/

namespace UsbIpResponse

/-- The payload of a `RET_SUBMIT`. -/
def payload : UsbIpResponse → List UInt8
  | .usbIpRetSubmit _ _ _ _ _ _ transferBuffer _ => transferBuffer
  | _ => []

/-- What every `RET_SUBMIT` to a URB looks like: there is no iso part, and the actual length
    of an IN URB is the length of the payload, as a `u32`. -/
def Replies (header : UsbIpHeaderBasic) (response : UsbIpResponse) : Prop :=
  ∃ status actualLength payload,
    response = .usbIpRetSubmit (replyHeader header usbipRetSubmit) status actualLength 0 0 0
      payload [] ∧ (header.direction ≠ 0 → actualLength = UInt32.ofNat payload.length)

theorem replies_fail (header : UsbIpHeaderBasic) :
    Replies header (.usbipRetSubmitFail (replyHeader header usbipRetSubmit) 0) :=
  ⟨1, 0, [], rfl, fun _ => rfl⟩

theorem replies_success (header : UsbIpHeaderBasic) (payload : List UInt8) :
    Replies header (.usbipRetSubmitSuccess (replyHeader header usbipRetSubmit) 0
      (UInt32.ofNat payload.length) payload []) :=
  ⟨0, _, payload, rfl, fun _ => rfl⟩

end UsbIpResponse

namespace UsbDevice

variable {prof : Profile} {d : UsbDevice} {header : UsbIpHeaderBasic} {len : UInt32}
  {setup data : List UInt8}

/-- The bound on the payload of the reply to a `CMD_SUBMIT`. -/
def RepliesAtMost (prof : Profile) (packetSize : Interface → UInt8 → Nat) (d : UsbDevice)
    (header : UsbIpHeaderBasic) (len : UInt32) (setup : List UInt8) (limit : Nat) : Prop :=
  ∀ p, d.findEp (realEp header) = some p →
    d.PayloadAtMost prof packetSize p.1 p.2 len (SetupPacket.parse setup) limit

/-- An endpoint found for an IN URB is an IN endpoint. -/
theorem direction_of_findEp {p : UsbEndpoint × Option UsbInterface}
    (h : d.findEp (realEp header) = some p) (hdir : header.direction ≠ 0) :
    p.1.direction = .in := by
  have haddr : p.1.address = realEp header := findEp_address h
  rw [UsbEndpoint.direction, haddr]
  exact if_pos (realEp_in hdir)

theorem handleUsbipCmdSubmit_replies {host : Host} {response : UsbIpResponse}
    (h : handleUsbipCmdSubmit prof header len setup data d host = .ok response) :
    response.Replies header := by
  unfold handleUsbipCmdSubmit at h
  dsimp only at h
  split at h
  · cases h
    exact UsbIpResponse.replies_fail header
  · rename_i ep intf hep
    split at h
    · cases h
      refine ⟨0, _, _, rfl, fun hdir => ?_⟩
      rw [direction_of_findEp hep hdir]
    · cases h
      refine ⟨1, _, [], rfl, fun hdir => ?_⟩
      rw [direction_of_findEp hep hdir]
      rfl
    · cases h

/-- **How long replies get**: no host that keeps to the requested lengths makes the payload of
    the reply longer than `limit`, if and only if the bound holds. -/
theorem handleUsbipCmdSubmit_atMost_iff (data : List UInt8) {limit : Nat} :
    (∀ host : Host, host.Obliging packetSize → ∀ response,
      handleUsbipCmdSubmit prof header len setup data d host = .ok response →
        response.payload.length ≤ limit) ↔
      d.RepliesAtMost prof packetSize header len setup limit := by
  unfold RepliesAtMost handleUsbipCmdSubmit
  dsimp only
  cases hep : d.findEp (realEp header) with
  | none =>
    refine iff_of_true (fun host _ response h => ?_) fun p hp => nomatch hp
    cases h
    exact Nat.zero_le _
  | some p =>
    obtain ⟨ep, intf⟩ := p
    simp only [Option.some.injEq, forall_eq']
    rw [← handleUrb_atMost_iff data, AtMost,
      HostM.ensures_iff HostCall.obliging_exists]
    refine forall_congr' fun host => imp_congr_right fun _ => ?_
    cases (d.handleUrb prof ep intf len (SetupPacket.parse setup) data).outcome host with
    | ok resp =>
      constructor
      · intro h bytes hb
        cases hb
        exact h _ rfl
      · intro h response hr
        cases hr
        exact h resp rfl
    | error stop =>
      refine iff_of_true (fun response hr => ?_) fun _ hb => nomatch hb
      cases stop with
      | err e =>
        cases hr
        exact Nat.zero_le _
      | panic q => cases hr

end UsbDevice
end Lusbip
