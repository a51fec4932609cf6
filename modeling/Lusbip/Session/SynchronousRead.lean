import Lusbip.Session.BulkIn
import Lusbip.Usb.Exchanges
import Lusbip.Usb.ReplyLength

/-!
# The synchronous bulk-IN path

`handle_urb_for_interface` opens a bulk-IN endpoint, computes the length of a read from the packet
size, and reads; a stall is cleared and the read made once more. What becomes of the URB is up to
the host, and here told for each of its answers: which reads are made, of which length, and
whether the URB fails.
-/

namespace Lusbip

/-! ## The length of a read -/

/-- **The two formulas agree on every length but 0**, of which the synchronous path takes 1. -/
theorem transferLen_and_requestedLen_iff {len : UInt32} {m n : Nat} (hm : m ≠ 0) :
    (transferLen len m = .ok n ∧ requestedLen .dev len m = .ok n) ↔
      len ≠ 0 ∧ n = wholePackets len.toNat m := by
  rw [transferLen_eq_ok, requestedLen_eq_ok]
  constructor
  · intro h
    have hlen : len ≠ 0 := fun hzero => nomatch h.2.2.1 hzero
    refine ⟨hlen, ?_⟩
    have hmax : max len.toNat 1 = len.toNat := max_eq_left (toNat_pos hlen)
    rw [h.1.2, hmax]
  · intro h
    have hmax : max len.toNat 1 = len.toNat := max_eq_left (toNat_pos h.1)
    have hbuffer : bufferLength len = len.toNat := if_neg h.1
    rw [hmax, hbuffer]
    exact ⟨⟨hm, h.2⟩, hm, fun hzero => absurd hzero h.1, h.2⟩

/-! ## The read -/

/-- The host fails a read, its `n`-th call: with an error that is no time-out, and if it is a stall
    that cannot be cleared or comes to an error again. -/
def Host.ReadFails (host : Host) (n : Nat) (interface : Interface) (address : UInt8)
    (len : Nat) : Prop :=
  match host n (.transferIn interface address len) with
  | .ok _ => False
  | .error .cancelled => False
  | .error .stall =>
      (∃ e, host (n + 1) (.clearHalt interface address) = .error e) ∨
        ∃ e, host (n + 2) (.transferIn interface address len) = .error e
  | .error _ => True

/-- The synchronous read, once its length is known. -/
def bulkRead (interface : Interface) (ep : UsbEndpoint) (requestedLen : Nat) :
    HostM (List UInt8) := do
  match ← HostM.ask (.transferIn interface ep.address requestedLen) with
  | .ok buf => pure buf
  | .error .cancelled => pure []
  | .error .stall =>
    HostM.ofUsb (← HostM.ask (.clearHalt interface ep.address))
    HostM.ofTransfer (← HostM.ask (.transferIn interface ep.address requestedLen))
  | .error err => HostM.ofTransfer (.error err)

section Read

variable {prof : Profile} {interface : Interface} {ep : UsbEndpoint} {len : UInt32}
  {req : List UInt8} {host : Host} {n : Nat}

theorem bulkForInterface_in (hdir : ep.direction = .in) :
    bulkForInterface prof interface ep len req =
      .call (.openEndpoint interface ep.attributes ep.address) fun
        | .ok _ => .call (.maxPacketSize interface ep.address) fun m =>
            (HostM.ret (requestedBuffer prof len m)).bind (bulkRead interface ep)
        | .error e => .ret (.error (.err (.usb e))) := by
  unfold bulkForInterface
  rw [if_pos hdir]
  show HostM.call _ _ = _
  congr 1
  funext r
  cases r <;> rfl

/-- A read asks for its length, whatever comes back. -/
theorem bulkRead_length {requested : Nat} {x : Exchange}
    (h : x ∈ HostM.exchangesFrom host n (bulkRead interface ep requested)) :
    (∃ answer, x = ⟨.transferIn interface ep.address requested, answer⟩) ∨
      ∃ answer, x = ⟨.clearHalt interface ep.address, answer⟩ := by
  unfold bulkRead at h
  rw [HostM.bind_eq, HostM.exchangesFrom_ask] at h
  rcases List.mem_cons.mp h with rfl | h
  · exact Or.inl ⟨_, rfl⟩
  split at h
  · cases h
  · cases h
  · rw [HostM.bind_eq, HostM.exchangesFrom_ask] at h
    rcases List.mem_cons.mp h with rfl | h
    · exact Or.inr ⟨_, rfl⟩
    generalize host (n + 1) (.clearHalt interface ep.address) = r at h
    cases r with
    | error e => cases h
    | ok u =>
      rw [HostM.ofUsb, HostM.bind_eq, HostM.bind_ret_ok, HostM.bind_eq,
        HostM.exchangesFrom_ask] at h
      rcases List.mem_cons.mp h with rfl | h
      · exact Or.inl ⟨_, rfl⟩
      generalize host (n + 1 + 1) (.transferIn interface ep.address requested) = r at h
      cases r with
      | error e => cases h
      | ok buf => cases h
  · cases h

/-- A read fails exactly if the host fails it, and otherwise has data or nothing. -/
theorem bulkRead_outcome (requested : Nat) :
    (host.ReadFails n interface ep.address requested ∧
      ∃ e, HostM.outcomeFrom host n (bulkRead interface ep requested) = .error (.err e)) ∨
    (¬ host.ReadFails n interface ep.address requested ∧
      ∃ buf, HostM.outcomeFrom host n (bulkRead interface ep requested) = .ok buf) := by
  unfold bulkRead Host.ReadFails
  rw [HostM.bind_eq, HostM.outcomeFrom_ask]
  generalize host n (.transferIn interface ep.address requested) = r
  cases r with
  | ok buf => exact Or.inr ⟨not_false, _, rfl⟩
  | error err =>
    cases err with
    | cancelled => exact Or.inr ⟨not_false, _, rfl⟩
    | stall =>
      dsimp only
      rw [HostM.bind_eq, HostM.outcomeFrom_ask]
      generalize host (n + 1) (.clearHalt interface ep.address) = r
      cases r with
      | error e => exact Or.inl ⟨Or.inl ⟨e, rfl⟩, _, rfl⟩
      | ok u =>
        rw [HostM.ofUsb, HostM.bind_eq, HostM.bind_ret_ok, HostM.bind_eq, HostM.outcomeFrom_ask]
        generalize host (n + 1 + 1) (.transferIn interface ep.address requested) = r
        cases r with
        | error e => exact Or.inl ⟨Or.inr ⟨e, rfl⟩, _, rfl⟩
        | ok buf =>
          refine Or.inr ⟨?_, _, rfl⟩
          intro h
          rcases h with ⟨e, he⟩ | ⟨e, he⟩
          · cases he
          · cases he
    | _ => exact Or.inl ⟨trivial, _, rfl⟩

variable (prof len req)

/-- What becomes of a bulk-IN URB whose endpoint has been opened, and whose length is known. -/
theorem bulkIn_read (hdir : ep.direction = .in) {v : Unit} {requested : Nat}
    (hopen : host 0 (.openEndpoint interface ep.attributes ep.address) = .ok v)
    (hlen : requestedBuffer prof len (host 1 (.maxPacketSize interface ep.address)) =
      .ok requested) :
    (bulkForInterface prof interface ep len req).outcome host =
        HostM.outcomeFrom host 2 (bulkRead interface ep requested) ∧
      (bulkForInterface prof interface ep len req).exchanges host =
        ⟨.openEndpoint interface ep.attributes ep.address,
          host 0 (.openEndpoint interface ep.attributes ep.address)⟩ ::
        ⟨.maxPacketSize interface ep.address, host 1 (.maxPacketSize interface ep.address)⟩ ::
        HostM.exchangesFrom host 2 (bulkRead interface ep requested) := by
  unfold HostM.outcome HostM.exchanges
  rw [bulkForInterface_in hdir, HostM.outcomeFrom, HostM.exchangesFrom, hopen]
  dsimp only
  rw [HostM.outcomeFrom, HostM.exchangesFrom, hlen]
  exact ⟨rfl, rfl⟩

/-- If there is no buffer for the length, the handler panics. -/
theorem bulkIn_panics (hdir : ep.direction = .in) {v : Unit} {p : Panic}
    (hopen : host 0 (.openEndpoint interface ep.attributes ep.address) = .ok v)
    (hlen : requestedBuffer prof len (host 1 (.maxPacketSize interface ep.address)) =
      Outcome.panic p) :
    (bulkForInterface prof interface ep len req).outcome host = Outcome.panic p := by
  unfold HostM.outcome
  rw [bulkForInterface_in hdir, HostM.outcomeFrom, hopen]
  dsimp only
  rw [HostM.outcomeFrom, hlen]
  rfl

/-- Nothing is read without the endpoint. -/
theorem bulkIn_unopened (hdir : ep.direction = .in) {e : UsbError}
    (hopen : host 0 (.openEndpoint interface ep.attributes ep.address) = .error e) :
    (bulkForInterface prof interface ep len req).outcome host = .error (.err (.usb e)) ∧
      (bulkForInterface prof interface ep len req).exchanges host =
        [⟨.openEndpoint interface ep.attributes ep.address,
          host 0 (.openEndpoint interface ep.attributes ep.address)⟩] := by
  unfold HostM.outcome HostM.exchanges
  rw [bulkForInterface_in hdir, HostM.outcomeFrom, HostM.exchangesFrom, hopen]
  exact ⟨rfl, rfl⟩

end Read

/-! ## The URB -/

/-- The URB comes to a failure that the client is told. -/
def AnsweredWithFailure (reply : Outcome UsbIpResponse) : Prop :=
  ∃ response status, reply = .ok response ∧ response.submitStatus? = some status ∧ status ≠ 0

theorem AnsweredWithFailure.returns {reply : Outcome UsbIpResponse}
    (h : AnsweredWithFailure reply) : reply.Returns := by
  obtain ⟨response, status, rfl, -⟩ := h
  trivial

section Submit

variable {prof : Profile} {device : UsbDevice} {header : UsbIpHeaderBasic} {ep : UsbEndpoint}
  {intf : UsbInterface} {host : Host}

theorem handleUrb_bulk (hbulk : ep.attributes = EndpointAttributes.bulk.toU8) (len : UInt32)
    (setup : SetupPacket) (data : List UInt8) :
    device.handleUrb prof ep (some intf) len setup data =
      bulkForInterface prof intf.handler ep len data := by
  have hattr : EndpointAttributes.fromU8 ep.attributes = some .bulk := by
    rw [hbulk]
    rfl
  unfold UsbDevice.handleUrb
  rw [hattr]
  show handleUrbForInterface prof intf.handler ep len setup data = _
  rw [handleUrbForInterface, hbulk, if_neg (by decide), if_neg (by decide), if_pos rfl]

variable (hfound : device.findEp (realEp header) = some (ep, some intf))
  (hbulk : ep.attributes = EndpointAttributes.bulk.toU8) (len : UInt32)
  (setup data : List UInt8)

include hfound hbulk

theorem submitExchanges_bulk :
    submitExchanges prof header len setup data device host =
      (bulkForInterface prof intf.handler ep len data).exchanges host := by
  unfold submitExchanges
  rw [hfound]
  dsimp only
  rw [handleUrb_bulk hbulk]

theorem handleUsbipCmdSubmit_failed {e : IoError}
    (h : (bulkForInterface prof intf.handler ep len data).outcome host = .error (.err e)) :
    AnsweredWithFailure (handleUsbipCmdSubmit prof header len setup data device host) := by
  unfold handleUsbipCmdSubmit
  dsimp only
  rw [hfound]
  dsimp only
  rw [handleUrb_bulk hbulk, h]
  refine ⟨_, _, rfl, rfl, ?_⟩
  decide

theorem handleUsbipCmdSubmit_performed {buf : List UInt8}
    (h : (bulkForInterface prof intf.handler ep len data).outcome host = .ok buf) :
    ∃ response, handleUsbipCmdSubmit prof header len setup data device host = .ok response ∧
      response.submitStatus? = some 0 := by
  unfold handleUsbipCmdSubmit
  dsimp only
  rw [hfound]
  dsimp only
  rw [handleUrb_bulk hbulk, h]
  exact ⟨_, rfl, rfl⟩

theorem handleUsbipCmdSubmit_panics {p : Panic}
    (h : (bulkForInterface prof intf.handler ep len data).outcome host = Outcome.panic p) :
    handleUsbipCmdSubmit prof header len setup data device host = Outcome.panic p := by
  unfold handleUsbipCmdSubmit
  dsimp only
  rw [hfound]
  dsimp only
  rw [handleUrb_bulk hbulk, h]
  rfl

/-- The reads of a URB are those of a worker, where the handler comes to any. -/
theorem reads_as_worker (hdir : ep.direction = .in) {v : Unit} {requested : Nat}
    (hopen : host 0 (.openEndpoint intf.handler ep.attributes ep.address) = .ok v)
    (hlen : requestedBuffer prof len (host 1 (.maxPacketSize intf.handler ep.address)) =
      .ok requested)
    {interface interface' : Interface} {address address' : UInt8} {m n : Nat}
    {answer : Except TransferError (List UInt8)}
    (hpacket : ⟨.maxPacketSize interface address, m⟩ ∈
      submitExchanges prof header len setup data device host)
    (hread : ⟨.transferIn interface' address' n, answer⟩ ∈
      submitExchanges prof header len setup data device host) :
    transferLen len m = .ok n ∧ requestedLen .dev len m = .ok n := by
  obtain ⟨-, hex⟩ := bulkIn_read prof len data hdir hopen hlen
  rw [submitExchanges_bulk hfound hbulk, hex] at hpacket hread
  have hm : m = host 1 (.maxPacketSize intf.handler ep.address) := by
    rcases List.mem_cons.mp hpacket with hpacket | hpacket
    · cases hpacket
    rcases List.mem_cons.mp hpacket with hpacket | hpacket
    · cases hpacket
      rfl
    · rcases bulkRead_length hpacket with ⟨r, hr⟩ | ⟨r, hr⟩
      · cases hr
      · cases hr
  have hrequested : n = requested := by
    rcases List.mem_cons.mp hread with hread | hread
    · cases hread
    rcases List.mem_cons.mp hread with hread | hread
    · cases hread
    · rcases bulkRead_length hread with ⟨r, hr⟩ | ⟨r, hr⟩
      · cases hr
        rfl
      · cases hr
  obtain ⟨⟨hne, hsize, -⟩, hwhole⟩ := requestedBuffer_eq_ok.mp hlen
  rw [hm, hrequested]
  exact (transferLen_and_requestedLen_iff hsize).mpr ⟨hne, hwhole⟩

end Submit

end Lusbip
