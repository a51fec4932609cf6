import Lusbip.Usb.Exchanges

/-!
# Interrupt-IN reports

A report of an interrupt-IN endpoint is a packet, and a URB should bring the client one of them.
The server makes a reader for every URB and has it fill a buffer of the length the client asked
for. Reports are often shorter than that. The reader then goes on with the next packet, or gives up
when none comes in time, and what it took from the endpoint is dropped with it.

What is taken for granted of the USB library: a reader yields the bytes of the packets in the order
they arrive, `read_exact` goes on until its buffer is full or a wait times out, and the bytes a
dropped reader has taken are gone.
-/

namespace Lusbip

/-! ## The reader -/

/-- The packets `read_exact` takes of those that arrive before a wait times out. -/
def takenBy : Nat → List (List UInt8) → List (List UInt8)
  | _, [] => []
  | len, packet :: packets =>
      if len = 0 then [] else packet :: takenBy (len - packet.length) packets

/-- What `read_exact` comes back with: a full buffer, or the end of the wait. -/
def readPackets (len : Nat) (arriving : List (List UInt8)) (timeout : IoError) :
    Except IoError (List UInt8) :=
  if len ≤ (takenBy len arriving).flatten.length then
    .ok ((takenBy len arriving).flatten.take len)
  else .error timeout

theorem readPackets_getD (len : Nat) (arriving : List (List UInt8)) (timeout : IoError) :
    (readPackets len arriving timeout).toOption.getD [] =
      if len ≤ (takenBy len arriving).flatten.length then (takenBy len arriving).flatten.take len
      else [] := by
  unfold readPackets
  split <;> rfl

/-- The packets an exchange takes from the endpoint. -/
def Exchange.taken (arriving : List (List UInt8)) : Exchange → List (List UInt8)
  | ⟨.readExact _ _ len, _⟩ => takenBy len arriving
  | _ => []

/-! ## URBs one after the other -/

/-- A URB on the endpoint, and what happens while it is executed. -/
structure InterruptUrb where
  transferBufferLength : UInt32
  setup : SetupPacket
  data : List UInt8
  /-- What opening the endpoint comes to. -/
  opened : Except UsbError Unit
  /-- How many packets come before a wait for the next one times out. -/
  inTime : Nat
  timeout : IoError

namespace InterruptUrb

/-- The packets that arrive in time, of those the device is about to deliver. -/
def arriving (u : InterruptUrb) (packets : List (List UInt8)) : List (List UInt8) :=
  packets.take u.inTime

/-- The host, with the packets the device is about to deliver. -/
def host (u : InterruptUrb) (packets : List (List UInt8)) : Host := fun n c =>
  match c with
  | .openEndpoint _ _ _ => u.opened
  | .readExact _ _ len => readPackets len (u.arriving packets) u.timeout
  | c => Host.disconnected n c

variable (prof : Profile) (interface : Interface) (ep : UsbEndpoint)

def transfer (u : InterruptUrb) : HostM (List UInt8) :=
  handleUrbForInterface prof interface ep u.transferBufferLength u.setup u.data

/-- What the client gets: nothing where the URB fails. -/
def payload (u : InterruptUrb) (packets : List (List UInt8)) : List UInt8 :=
  match (u.transfer prof interface ep).outcome (u.host packets) with
  | .ok bytes => bytes
  | .error _ => []

/-- What is taken from the endpoint. -/
def taken (u : InterruptUrb) (packets : List (List UInt8)) : List (List UInt8) :=
  ((u.transfer prof interface ep).exchanges (u.host packets)).flatMap
    (Exchange.taken (u.arriving packets))

end InterruptUrb

section Served

variable (prof : Profile) (interface : Interface) (ep : UsbEndpoint)

/-- The payload of every URB, and the packets that were taken for it. -/
def served : List InterruptUrb → List (List UInt8) → List (List UInt8 × List (List UInt8))
  | [], _ => []
  | u :: urbs, packets =>
      (u.payload prof interface ep packets, u.taken prof interface ep packets) ::
        served urbs (packets.drop (u.taken prof interface ep packets).length)

/-- No report is lost and none is merged with another. -/
structure Delivered (urbs : List InterruptUrb) (packets : List (List UInt8)) : Prop where
  inOrder : ((served prof interface ep urbs packets).map (·.1)).filter (· ≠ []) =
    ((served prof interface ep urbs packets).map (·.2)).flatten
  onePerUrb : ∀ s ∈ served prof interface ep urbs packets, s.2 = if s.1 = [] then [] else [s.1]

/-- Every URB whose endpoint can be opened meets no packet in time, or one that fills its
    buffer. -/
def PacketsFill : List InterruptUrb → List (List UInt8) → Prop
  | [], _ => True
  | u :: urbs, packets =>
      ((∃ v, u.opened = .ok v) → ∀ packet ∈ (u.arriving packets).head?,
        packet.length = u.transferBufferLength.toNat) ∧
      PacketsFill urbs (packets.drop (u.taken prof interface ep packets).length)

end Served

/-! ## One URB -/

/-- What is taken is what is handed out, one packet or none, if the first packet that comes fills
    the buffer. A shorter one is taken as well, and is not what the buffer is full of. -/
theorem takenBy_one_iff {len : Nat} {arriving : List (List UInt8)}
    (hle : ∀ packet ∈ arriving, packet.length ≤ len) :
    (takenBy len arriving =
      if (if len ≤ (takenBy len arriving).flatten.length then
        (takenBy len arriving).flatten.take len else []) = [] then []
      else [if len ≤ (takenBy len arriving).flatten.length then
        (takenBy len arriving).flatten.take len else []]) ↔
      ∀ packet ∈ arriving.head?, packet.length = len := by
  cases arriving with
  | nil => simp [takenBy]
  | cons packet rest =>
    have hpacket := hle packet List.mem_cons_self
    simp only [List.head?_cons, Option.mem_some, forall_eq']
    rw [takenBy]
    by_cases hzero : len = 0
    · subst hzero
      simp only [Nat.le_zero] at hpacket
      simp [hpacket]
    rw [if_neg hzero]
    constructor
    · intro h
      by_cases hfull : len ≤ (packet :: takenBy (len - packet.length) rest).flatten.length
      · rw [if_pos hfull] at h
        split at h
        case isTrue => cases h
        case isFalse =>
          have hlen := congrArg List.length (List.cons.inj h).1
          rw [List.length_take] at hlen
          omega
      · rw [if_neg hfull, if_pos rfl] at h
        cases h
    · intro heq
      have hrest : takenBy (len - packet.length) rest = [] := by
        rw [heq, Nat.sub_self]
        cases rest <;> simp [takenBy]
      have hne : packet ≠ [] := by
        rintro rfl
        exact hzero heq.symm
      rw [hrest]
      simp [← heq, hne]

namespace InterruptUrb

variable {prof : Profile} {interface : Interface} {ep : UsbEndpoint} {u : InterruptUrb}
  {packets : List (List UInt8)}

/-- The interrupt-IN branch makes two calls. -/
theorem transfer_eq (hep : ep.attributes = EndpointAttributes.interrupt.toU8)
    (hdir : ep.direction = .in) (u : InterruptUrb) :
    u.transfer prof interface ep = .call (.openEndpoint interface ep.attributes ep.address) fun
      | .ok _ => .call (.readExact interface ep.address u.transferBufferLength.toNat) fun
        | .ok buffer => .ret (.ok buffer)
        | .error _ => .ret (.ok [])
      | .error e => .ret (.error (.err (.usb e))) := by
  rw [transfer, handleUrbForInterface, hep, if_neg (by decide), if_pos rfl, interruptForInterface,
    hdir, hep]
  show HostM.call _ _ = _
  congr 1
  funext r
  cases r with
  | error e => rfl
  | ok v =>
    show HostM.call _ _ = _
    congr 1
    funext r
    cases r <;> rfl

variable (hep : ep.attributes = EndpointAttributes.interrupt.toU8) (hdir : ep.direction = .in)

include hep hdir

theorem payload_of_error {e : UsbError} (he : u.opened = .error e) :
    u.payload prof interface ep packets = [] ∧ u.taken prof interface ep packets = [] := by
  have hanswer : u.host packets 0 (.openEndpoint interface ep.attributes ep.address) =
    .error e := he
  unfold payload taken HostM.exchanges HostM.outcome
  rw [transfer_eq hep hdir, HostM.outcomeFrom, HostM.exchangesFrom, hanswer]
  exact ⟨rfl, rfl⟩

theorem payload_of_ok {v : Unit} (hv : u.opened = .ok v) :
    u.payload prof interface ep packets =
        (readPackets u.transferBufferLength.toNat (u.arriving packets) u.timeout).toOption.getD [] ∧
      u.taken prof interface ep packets =
        takenBy u.transferBufferLength.toNat (u.arriving packets) := by
  have hanswer : u.host packets 0 (.openEndpoint interface ep.attributes ep.address) = .ok v := hv
  have hread : u.host packets 1
      (.readExact interface ep.address u.transferBufferLength.toNat) =
      readPackets u.transferBufferLength.toNat (u.arriving packets) u.timeout := rfl
  unfold payload taken HostM.exchanges HostM.outcome
  rw [transfer_eq hep hdir, HostM.outcomeFrom, HostM.exchangesFrom, hanswer]
  dsimp only
  rw [HostM.outcomeFrom, HostM.exchangesFrom, hread]
  cases readPackets u.transferBufferLength.toNat (u.arriving packets) u.timeout with
  | ok buffer => exact ⟨rfl, List.append_nil _⟩
  | error e => exact ⟨rfl, List.append_nil _⟩

/-- **A URB brings one packet and takes one, or neither**, exactly if it meets no packet or one
    that fills its buffer. -/
theorem one_iff (hlen : ∀ packet ∈ packets, packet.length ≤ u.transferBufferLength.toNat) :
    (u.taken prof interface ep packets = if u.payload prof interface ep packets = [] then []
      else [u.payload prof interface ep packets]) ↔
      ((∃ v, u.opened = .ok v) → ∀ packet ∈ (u.arriving packets).head?,
        packet.length = u.transferBufferLength.toNat) := by
  cases hopened : u.opened with
  | error e =>
    obtain ⟨hpayload, htaken⟩ :=
      @payload_of_error prof interface ep u packets hep hdir e hopened
    rw [hpayload, htaken]
    exact iff_of_true rfl fun ⟨_, hv⟩ => nomatch hv
  | ok v =>
    obtain ⟨hpayload, htaken⟩ := @payload_of_ok prof interface ep u packets hep hdir v hopened
    rw [hpayload, htaken, readPackets_getD]
    have hsub : ∀ packet ∈ u.arriving packets, packet.length ≤ u.transferBufferLength.toNat :=
      fun packet h => hlen packet (List.mem_of_mem_take h)
    generalize u.transferBufferLength.toNat = len at hsub ⊢
    generalize u.arriving packets = arriving at hsub ⊢
    rw [takenBy_one_iff hsub]
    simp

end InterruptUrb

/-! ## Sequences of URBs -/

section Sequences

variable {prof : Profile} {interface : Interface} {ep : UsbEndpoint}

/-- One packet for a payload and none for an empty one: then the payloads are the packets. -/
theorem inOrder_of_onePerUrb {served : List (List UInt8 × List (List UInt8))}
    (h : ∀ s ∈ served, s.2 = if s.1 = [] then [] else [s.1]) :
    (served.map (·.1)).filter (· ≠ []) = (served.map (·.2)).flatten := by
  induction served with
  | nil => rfl
  | cons s served ih =>
    have hrest := ih fun t ht => h t (List.mem_cons_of_mem s ht)
    rw [List.map_cons, List.map_cons, List.flatten_cons, h s List.mem_cons_self]
    by_cases hnil : s.1 = []
    · rw [if_pos hnil, List.filter_cons_of_neg (by simpa using hnil), hrest]
      rfl
    · rw [if_neg hnil, List.filter_cons_of_pos (by simpa using hnil), hrest]
      rfl

/-- **Reports are neither lost nor merged exactly if every packet fills its buffer.** For every
    sequence of packets up to the packet size, and of URBs that ask for that size at least, with
    whatever comes in time: the payloads are the packets taken, one for each URB and in order, if
    and only if every URB whose endpoint can be opened meets no packet in time or one that is
    exactly as long as its buffer. -/
theorem interruptIn_delivered_iff (prof : Profile) (interface : Interface)
    (hep : ep.attributes = EndpointAttributes.interrupt.toU8) (hdir : ep.direction = .in)
    {urbs : List InterruptUrb} {packets : List (List UInt8)}
    (hpackets : ∀ packet ∈ packets, packet.length ≤ ep.maxPacketSize.toNat)
    (hurbs : ∀ u ∈ urbs, ep.maxPacketSize.toNat ≤ u.transferBufferLength.toNat) :
    Delivered prof interface ep urbs packets ↔ PacketsFill prof interface ep urbs packets := by
  have hone : (∀ s ∈ served prof interface ep urbs packets,
      s.2 = if s.1 = [] then [] else [s.1]) ↔ PacketsFill prof interface ep urbs packets := by
    induction urbs generalizing packets with
    | nil => exact iff_of_true (fun s hs => nomatch hs) trivial
    | cons u urbs ih =>
      have hrest := @ih (packets.drop (u.taken prof interface ep packets).length)
        (fun packet h => hpackets packet (List.mem_of_mem_drop h))
        (fun v hv => hurbs v (List.mem_cons_of_mem u hv))
      have hu := @InterruptUrb.one_iff prof interface ep u packets hep hdir fun packet h =>
        (hpackets packet h).trans (hurbs u List.mem_cons_self)
      rw [served, List.forall_mem_cons, hrest, PacketsFill, hu]
  exact ⟨fun h => hone.mp h.onePerUrb, fun h => ⟨inOrder_of_onePerUrb (hone.mpr h), hone.mpr h⟩⟩

end Sequences

/-- The interrupt-IN endpoint of a keyboard. -/
def keyboardEndpoint : UsbEndpoint where
  address := 0x81
  attributes := EndpointAttributes.interrupt.toU8
  maxPacketSize := 8
  interval := 10

/-- A URB for eight bytes. -/
def pollKeyboard (inTime : Nat) : InterruptUrb where
  transferBufferLength := 8
  setup := {}
  data := []
  opened := .ok ()
  inTime := inTime
  timeout := .new .timedOut ""

/-- A report that comes, a poll without one, and another report. -/
theorem interruptIn_delivered_keyboard :
    Delivered .release ⟨⟨0⟩, 0⟩ keyboardEndpoint
      [pollKeyboard 1, pollKeyboard 0, pollKeyboard 1]
      [[0, 0, 4, 0, 0, 0, 0, 0], [0, 0, 0, 0, 0, 0, 0, 0]] :=
  (interruptIn_delivered_iff .release ⟨⟨0⟩, 0⟩ rfl rfl (by decide) (by decide)).mpr
    ⟨fun _ packet h => by cases h; rfl, fun _ packet h => (by cases h),
      fun _ packet h => by cases h; rfl, trivial⟩

/-- **Two short reports come as one**: a mouse sends four bytes at a time. -/
theorem interruptIn_not_always_delivered :
    ¬ ∀ (prof : Profile) (interface : Interface) (ep : UsbEndpoint),
      ep.attributes = EndpointAttributes.interrupt.toU8 → ep.direction = .in →
      ∀ (urbs : List InterruptUrb) (packets : List (List UInt8)),
        (∀ packet ∈ packets, packet.length ≤ ep.maxPacketSize.toNat) →
        (∀ u ∈ urbs, ep.maxPacketSize.toNat ≤ u.transferBufferLength.toNat) →
        Delivered prof interface ep urbs packets := by
  intro h
  have hmerged := (h .release ⟨⟨0⟩, 0⟩ keyboardEndpoint rfl rfl [pollKeyboard 2]
    [[0, 1, 0, 0], [0, 2, 0, 0]] (by decide) (by decide)).inOrder
  exact absurd hmerged (by decide)

end Lusbip
