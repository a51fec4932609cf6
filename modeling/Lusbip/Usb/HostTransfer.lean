import Lusbip.Usb.Device

/-!
# Transfers executed on the host

`handle_urb_for_interface` and `handle_urb_for_device`: one URB, executed synchronously on a
claimed interface or on the device handle, on a Linux host. Both decode the request type of
a control transfer by two matches that know three of the four types and four of the
thirty-two recipients, and stop with `unimplemented!` at the others, before any call is
made. An error of a control-IN transfer is answered with an empty buffer, every other error
goes to the caller.
-/

namespace Lusbip

/-- `match (setup.request_type >> 5) & 0b11` -/
def controlType (requestType : UInt8) : Outcome ControlType :=
  let t := (requestType >>> 5) &&& 0b11
  if t = 0 then .ok .standard
  else if t = 1 then .ok .classSpecific
  else if t = 2 then .ok .vendor
  else Outcome.panic (.unimplemented "")

/-- `match setup.request_type & 0b11111` -/
def recipient (requestType : UInt8) : Outcome Recipient :=
  let r := requestType &&& 0b11111
  if r = 0 then .ok .device
  else if r = 1 then .ok .interface
  else if r = 2 then .ok .endpoint
  else if r = 3 then .ok .other
  else Outcome.panic (.unimplemented "")

/-- The request types `controlType` knows. -/
def typeIsKnown (requestType : UInt8) : Bool := (requestType >>> 5) &&& 0b11 != 3

/-- The request types `recipient` knows. -/
def recipientIsKnown (requestType : UInt8) : Bool := requestType &&& 0b11111 < 4

inductive ControlTransport where
  | claimedInterface
  | deviceHandle
  deriving DecidableEq, Repr

def selectControlTransport (hasClaimedInterface : Bool) : ControlTransport :=
  if hasClaimedInterface then .claimedInterface else .deviceHandle

/-- The transfer of a control URB on a claimed interface. -/
def controlForInterface (interface : Interface) (ep : UsbEndpoint) (setup : SetupPacket)
    (req : List UInt8) : HostM (List UInt8) := do
  let controlType ← HostM.ret (controlType setup.requestType)
  let recipient ← HostM.ret (recipient setup.requestType)
  if ep.direction = .in then
    let control : ControlIn :=
      { controlType, recipient, request := setup.request, value := setup.value
        index := setup.index, length := setup.length }
    match ← HostM.ask (.controlIn (.interface interface) control) with
    | .ok buf => pure buf
    | .error _ => pure []
  else
    let control : ControlOut :=
      { controlType, recipient, request := setup.request, value := setup.value
        index := setup.index, data := req }
    HostM.ofTransfer (← HostM.ask (.controlOut (.interface interface) control))
    pure []

/-- The interrupt branch. The reader gives back a buffer only when it filled it. -/
def interruptForInterface (interface : Interface) (ep : UsbEndpoint)
    (transferBufferLength : UInt32) (req : List UInt8) : HostM (List UInt8) := do
  HostM.ofUsb (← HostM.ask (.openEndpoint interface ep.attributes ep.address))
  if ep.direction = .in then
    match ← HostM.ask (.readExact interface ep.address transferBufferLength.toNat) with
    | .ok buffer => pure buffer
    | .error _ => pure []
  else
    HostM.ofIo (← HostM.ask (.writeAll interface ep.address req))
    HostM.ofIo (← HostM.ask (.flush interface ep.address))
    pure []

/-- The length the synchronous bulk-IN path asks for:
    `((transfer_buffer_length - 1) as usize / max_packet_size + 1) * max_packet_size`. -/
def requestedLen (prof : Profile) (transferBufferLength : UInt32) (maxPacketSize : Nat) :
    Outcome Nat := do
  let last ← subU32 prof transferBufferLength 1
  let packets ← divUsize last.toNat maxPacketSize
  .ok ((packets + 1) * maxPacketSize)

/-- The buffer of the synchronous bulk-IN path, `Buffer::new(requested_len)`. -/
def requestedBuffer (prof : Profile) (transferBufferLength : UInt32) (maxPacketSize : Nat) :
    Outcome Nat := do
  let requestedLen ← requestedLen prof transferBufferLength maxPacketSize
  Buffer.new requestedLen

/-- The bulk branch. A stalled or failed endpoint is cleared and tried once more, an IN
    endpoint with a buffer of the same length as before. -/
def bulkForInterface (prof : Profile) (interface : Interface) (ep : UsbEndpoint)
    (transferBufferLength : UInt32) (req : List UInt8) : HostM (List UInt8) := do
  HostM.ofUsb (← HostM.ask (.openEndpoint interface ep.attributes ep.address))
  if ep.direction = .in then
    let maxPacketSize ← HostM.ask (.maxPacketSize interface ep.address)
    let requestedLen ← HostM.ret (requestedBuffer prof transferBufferLength maxPacketSize)
    match ← HostM.ask (.transferIn interface ep.address requestedLen) with
    | .ok buf => pure buf
    | .error .cancelled => pure []
    | .error .stall =>
      HostM.ofUsb (← HostM.ask (.clearHalt interface ep.address))
      HostM.ofTransfer (← HostM.ask (.transferIn interface ep.address requestedLen))
    | .error err => HostM.ofTransfer (.error err)
  else
    match ← HostM.ask (.transferOut interface ep.address req) with
    | .ok () => pure []
    | .error _ =>
      HostM.ofUsb (← HostM.ask (.clearHalt interface ep.address))
      HostM.ofTransfer (← HostM.ask (.transferOut interface ep.address req))
      pure []

def handleUrbForInterface (prof : Profile) (interface : Interface) (ep : UsbEndpoint)
    (transferBufferLength : UInt32) (setup : SetupPacket) (req : List UInt8) :
    HostM (List UInt8) :=
  if ep.attributes = EndpointAttributes.control.toU8 then
    controlForInterface interface ep setup req
  else if ep.attributes = EndpointAttributes.interrupt.toU8 then
    interruptForInterface interface ep transferBufferLength req
  else if ep.attributes = EndpointAttributes.bulk.toU8 then
    bulkForInterface prof interface ep transferBufferLength req
  else
    pure []

/-- The handle `handle_urb_for_device` transfers through; `interface.unwrap()` in the source
    stands under a transport that was selected because there is one. -/
def controlHandle (device : Device) (interface : Option Interface) : Outcome ControlHandle :=
  match selectControlTransport interface.isSome with
  | .claimedInterface => (Outcome.unwrap interface).map .interface
  | .deviceHandle => .ok (.device device)

def handleUrbForDevice (device : Device) (interface : Option Interface)
    (setup : SetupPacket) (req : List UInt8) : HostM (List UInt8) := do
  let controlType ← HostM.ret (controlType setup.requestType)
  let recipient ← HostM.ret (recipient setup.requestType)
  let handle ← HostM.ret (controlHandle device interface)
  if setup.requestType &&& 0x80 = 0 then
    let control : ControlOut :=
      { controlType, recipient, request := setup.request, value := setup.value
        index := setup.index, data := req }
    HostM.ofTransfer (← HostM.ask (.controlOut handle control))
    pure []
  else
    let control : ControlIn :=
      { controlType, recipient, request := setup.request, value := setup.value
        index := setup.index, length := setup.length }
    match ← HostM.ask (.controlIn handle control) with
    | .ok buf => pure buf
    | .error _ => pure []

/-! ## When the two control paths panic -/

theorem controlType_of_known {rt : UInt8} (h : typeIsKnown rt = true) :
    ∃ t, controlType rt = .ok t := by
  unfold typeIsKnown at h
  unfold controlType
  have hlt : ((rt >>> 5) &&& 0b11).toNat < 4 := by
    rw [UInt8.toNat_and]
    exact Nat.lt_of_le_of_lt Nat.and_le_right (by decide)
  generalize (rt >>> 5) &&& 0b11 = t at h hlt
  have ht : t = 0 ∨ t = 1 ∨ t = 2 ∨ t = 3 := by
    simp only [← UInt8.toNat_inj]
    have : t.toNat = 0 ∨ t.toNat = 1 ∨ t.toNat = 2 ∨ t.toNat = 3 := by omega
    simpa using this
  rcases ht with rfl | rfl | rfl | rfl
  · exact ⟨_, rfl⟩
  · exact ⟨_, rfl⟩
  · exact ⟨_, rfl⟩
  · exact absurd h (by decide)

theorem controlType_of_not_known {rt : UInt8} (h : ¬ typeIsKnown rt = true) :
    controlType rt = .error (.panic (.unimplemented "")) := by
  unfold typeIsKnown at h
  unfold controlType
  have ht : (rt >>> 5) &&& 0b11 = 3 := by simpa using h
  rw [ht]
  rfl

theorem recipient_of_known {rt : UInt8} (h : recipientIsKnown rt = true) :
    ∃ r, recipient rt = .ok r := by
  unfold recipientIsKnown at h
  unfold recipient
  generalize rt &&& 0b11111 = r at h
  have hlt : r.toNat < 4 := by
    have h4 : (4 : UInt8).toNat = 4 := rfl
    simpa [UInt8.lt_iff_toNat_lt, h4] using h
  have hr : r = 0 ∨ r = 1 ∨ r = 2 ∨ r = 3 := by
    simp only [← UInt8.toNat_inj]
    have : r.toNat = 0 ∨ r.toNat = 1 ∨ r.toNat = 2 ∨ r.toNat = 3 := by omega
    simpa using this
  rcases hr with rfl | rfl | rfl | rfl <;> exact ⟨_, rfl⟩

theorem recipient_of_not_known {rt : UInt8} (h : ¬ recipientIsKnown rt = true) :
    recipient rt = .error (.panic (.unimplemented "")) := by
  unfold recipientIsKnown at h
  unfold recipient
  generalize rt &&& 0b11111 = r at h
  have hne : r ≠ 0 ∧ r ≠ 1 ∧ r ≠ 2 ∧ r ≠ 3 := by
    refine ⟨?_, ?_, ?_, ?_⟩ <;> rintro rfl <;> exact h (by decide)
  simp only [hne, if_false]
  rfl

/-- The request types both matches know: the transfer is made, whatever becomes of it. -/
def requestTypeIsKnown (requestType : UInt8) : Bool :=
  typeIsKnown requestType && recipientIsKnown requestType

/-- **What both control paths share.** A computation that decodes the request type first
    panics exactly when one of the two matches does not know it. -/
theorem decoded_returns_iff {host : Host} {rt : UInt8}
    {k : ControlType → Recipient → HostM (List UInt8)} (hk : ∀ t r, (k t r).NoPanic) :
    (((HostM.ret (controlType rt)).bind fun t => (HostM.ret (recipient rt)).bind fun r =>
      k t r).outcome host).Returns ↔ requestTypeIsKnown rt = true := by
  unfold requestTypeIsKnown
  by_cases ht : typeIsKnown rt = true
  · obtain ⟨t, htt⟩ := controlType_of_known ht
    rw [htt, HostM.bind_ret_ok]
    by_cases hr : recipientIsKnown rt = true
    · obtain ⟨r, hrr⟩ := recipient_of_known hr
      rw [hrr, HostM.bind_ret_ok]
      simp only [ht, hr, Bool.and_self, iff_true]
      exact (hk t r).returns host
    · rw [recipient_of_not_known hr, HostM.bind_ret_error]
      simp [HostM.outcome, HostM.outcomeFrom, hr]
  · rw [controlType_of_not_known ht, HostM.bind_ret_error]
    simp [HostM.outcome, HostM.outcomeFrom, ht]

theorem controlHandle_returns (device : Device) (interface : Option Interface) :
    (controlHandle device interface).Returns := by
  cases interface <;> simp [controlHandle, selectControlTransport, Except.map]

theorem controlForInterface_returns_iff {host : Host} {interface : Interface}
    {ep : UsbEndpoint} {setup : SetupPacket} {req : List UInt8} :
    ((controlForInterface interface ep setup req).outcome host).Returns ↔
      requestTypeIsKnown setup.requestType = true := by
  refine decoded_returns_iff fun t r => ?_
  split
  · exact HostM.NoPanic.bind (HostM.noPanic_ask _) fun a => by cases a <;> trivial
  · exact HostM.NoPanic.bind (HostM.noPanic_ask _) fun a =>
      HostM.NoPanic.bind (HostM.noPanic_ofTransfer a) fun _ => trivial

theorem handleUrbForDevice_returns_iff {host : Host} {device : Device}
    {interface : Option Interface} {setup : SetupPacket} {req : List UInt8} :
    ((handleUrbForDevice device interface setup req).outcome host).Returns ↔
      requestTypeIsKnown setup.requestType = true := by
  refine decoded_returns_iff fun t r => ?_
  refine HostM.NoPanic.bind (controlHandle_returns device interface) fun handle => ?_
  split
  · exact HostM.NoPanic.bind (HostM.noPanic_ask _) fun a =>
      HostM.NoPanic.bind (HostM.noPanic_ofTransfer a) fun _ => trivial
  · exact HostM.NoPanic.bind (HostM.noPanic_ask _) fun a => by cases a <;> trivial

/-! ## The length of a bulk-IN read

Both bulk-IN paths read whole packets, as many as hold the length that is asked for. -/

/-- The least length of whole packets that holds `n` bytes. -/
def wholePackets (n maxPacketSize : Nat) : Nat :=
  (n + maxPacketSize - 1) / maxPacketSize * maxPacketSize

/-- There is a buffer for a read of the length: the endpoint has a packet size, and the whole
    packets that hold the length, or one byte, are less than 2^32 bytes. -/
def Readable (transferBufferLength : UInt32) (maxPacketSize : Nat) : Prop :=
  maxPacketSize ≠ 0 ∧ wholePackets (max transferBufferLength.toNat 1) maxPacketSize < 2 ^ 32

instance (len : UInt32) (m : Nat) : Decidable (Readable len m) :=
  inferInstanceAs (Decidable (_ ∧ _))

theorem le_wholePackets {m : Nat} (hm : m ≠ 0) (n : Nat) : n ≤ wholePackets n m := by
  have hdiv := Nat.div_add_mod (n + m - 1) m
  have hmod := Nat.mod_lt (n + m - 1) (Nat.pos_of_ne_zero hm)
  rw [wholePackets, Nat.mul_comm]
  omega

/-- The length that the synchronous bulk-IN path rounds up. `transfer_buffer_length - 1` is
    computed on `u32`: in the unchecked build an empty buffer makes it the largest one. -/
def bufferLength (len : UInt32) : Nat := if len = 0 then 2 ^ 32 else len.toNat

theorem toNat_pos {len : UInt32} (h : len ≠ 0) : 0 < len.toNat :=
  Nat.pos_of_ne_zero fun h0 => h (UInt32.toNat_inj.mp h0)

theorem bufferLength_pos (len : UInt32) : 0 < bufferLength len := by
  unfold bufferLength
  split
  · decide
  · exact toNat_pos ‹_›

theorem toNat_sub_one (len : UInt32) : (len - 1).toNat = bufferLength len - 1 := by
  unfold bufferLength
  split
  · subst len
    rfl
  · rename_i h
    exact UInt32.toNat_sub_of_le _ _ (UInt32.le_iff_toNat_le.mpr (toNat_pos h))

theorem subU32_one_eq_ok {prof : Profile} {len last : UInt32} :
    subU32 prof len 1 = .ok last ↔ (len = 0 → prof = .release) ∧ last = len - 1 := by
  have hlt : len.toNat < (1 : UInt32).toNat ↔ len = 0 := by
    rw [← UInt32.toNat_inj]
    exact Nat.lt_one_iff
  unfold subU32
  simp only [hlt]
  cases prof with
  | dev =>
    by_cases h : len = 0
    · simp [h, Outcome.panic]
    · simp [h, eq_comm]
  | release => simp [eq_comm]

theorem requestedLen_eq_ok {prof : Profile} {len : UInt32} {m n : Nat} :
    requestedLen prof len m = .ok n ↔
      m ≠ 0 ∧ (len = 0 → prof = .release) ∧ n = wholePackets (bufferLength len) m := by
  have hround : m ≠ 0 → ((len - 1).toNat / m + 1) * m = wholePackets (bufferLength len) m := by
    intro hm
    have hpos := bufferLength_pos len
    rw [toNat_sub_one, ← Nat.add_div_right _ (by omega), wholePackets]
    congr 2
    omega
  unfold requestedLen
  rw [Outcome.bind_eq_ok]
  constructor
  · rintro ⟨last, hlast, h⟩
    obtain ⟨packets, hpackets, h⟩ := Outcome.bind_eq_ok.mp h
    obtain ⟨hprof, rfl⟩ := subU32_one_eq_ok.mp hlast
    unfold divUsize at hpackets
    split at hpackets
    · cases hpackets
    · rename_i hm
      cases hpackets
      cases h
      exact ⟨hm, hprof, hround hm⟩
  · rintro ⟨hm, hprof, rfl⟩
    refine ⟨len - 1, subU32_one_eq_ok.mpr ⟨hprof, rfl⟩, Outcome.bind_eq_ok.mpr ?_⟩
    exact ⟨_, if_neg hm, congrArg Except.ok (hround hm)⟩

/-- **The synchronous path reads where a worker would**, but for an empty buffer: the checked
    build panics at the subtraction then, and the other one where it asks for the buffer. -/
theorem requestedBuffer_eq_ok {prof : Profile} {len : UInt32} {m n : Nat} :
    requestedBuffer prof len m = .ok n ↔
      (len ≠ 0 ∧ Readable len m) ∧ n = wholePackets len.toNat m := by
  have hmax : len ≠ 0 → max len.toNat 1 = len.toNat := fun h => max_eq_left (toNat_pos h)
  have hlen : len ≠ 0 → bufferLength len = len.toNat := fun h => if_neg h
  rw [requestedBuffer, Outcome.bind_eq_ok]
  simp only [requestedLen_eq_ok, Buffer.new_eq_ok]
  constructor
  · rintro ⟨k, ⟨hm, -, rfl⟩, hlt, rfl⟩
    have hne : len ≠ 0 := by
      rintro rfl
      exact absurd hlt (Nat.not_lt.mpr (le_wholePackets hm (2 ^ 32)))
    rw [hlen hne] at hlt ⊢
    exact ⟨⟨hne, hm, (hmax hne).symm ▸ hlt⟩, rfl⟩
  · rintro ⟨⟨hne, hm, hlt⟩, rfl⟩
    rw [hmax hne] at hlt
    exact ⟨_, ⟨hm, fun h => absurd h hne, rfl⟩, (hlen hne).symm ▸ hlt, by rw [hlen hne]⟩

/-- With a packet size, what keeps the synchronous path from a read is an overflow. -/
theorem requestedBuffer_panics {prof : Profile} {len : UInt32} {m : Nat} (hm : m ≠ 0)
    (h : ¬ (len ≠ 0 ∧ Readable len m)) :
    requestedBuffer prof len m = Outcome.panic .arithmeticOverflow := by
  by_cases hprof : len = 0 → prof = .release
  · have hlen : requestedLen prof len m = .ok (wholePackets (bufferLength len) m) :=
      requestedLen_eq_ok.mpr ⟨hm, hprof, rfl⟩
    have hge : ¬ wholePackets (bufferLength len) m < 2 ^ 32 := by
      intro hlt
      have hok : requestedBuffer prof len m = .ok (wholePackets (bufferLength len) m) := by
        rw [requestedBuffer, hlen]
        exact Buffer.new_eq_ok.mpr ⟨hlt, rfl⟩
      exact h (requestedBuffer_eq_ok.mp hok).1
    rw [requestedBuffer, hlen]
    exact if_neg hge
  · obtain ⟨hzero, hdev⟩ := Classical.not_imp.mp hprof
    subst hzero
    cases prof with
    | dev => rfl
    | release => exact absurd rfl hdev

end Lusbip
