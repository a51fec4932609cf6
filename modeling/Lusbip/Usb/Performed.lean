import Lusbip.Usb.Exchanges

/-!
# Whether the host performed a transfer

A URB should be answered with success only if the host has performed its transfer, or if the server
can answer it alone. `transferPerformed` tells from the exchanges whether it has: the last call that
was made for the URB has succeeded, or was a wait for an IN endpoint that came to its end.

The server looks at the answer to a call before it goes on, but not at every error: `Heeds` is what
it does with them. Three kinds of errors it drops, and answers the URB as if there were no data.
-/

namespace Lusbip

/-- The host gave up waiting for an IN endpoint. -/
def Exchange.expired : Exchange → Bool
  | ⟨.readExact _ _ _, answer⟩ => match answer with
    | .ok _ => false
    | .error err => err.kind = .timedOut
  | ⟨.transferIn _ _ _, answer⟩ => match answer with
    | .error .cancelled => true
    | _ => false
  | _ => false

def Exchange.performed (x : Exchange) : Bool := !x.failed || x.expired

/-- The calls whose errors are not passed on. -/
def HostCall.errorsDropped : HostCall → Bool
  | .controlIn _ _ => true
  | .setConfiguration _ _ => true
  | .readExact _ _ _ => true
  | _ => false

/-- The host has answered with an error, and the server goes on as if there were no data. -/
def Exchange.dropped (x : Exchange) : Bool := x.1.errorsDropped && !x.performed

/-- What a URB comes to at the host: no call is made for it only if it can be answered locally. -/
def transferPerformed (ep : UsbEndpoint) (exchanges : List Exchange) : Bool :=
  match exchanges.getLast? with
  | none => ep.attributes = EndpointAttributes.control.toU8
  | some x => x.performed

/-- The endpoint types whose URBs are forwarded. -/
def isForwarded (attributes : UInt8) : Bool :=
  attributes = EndpointAttributes.control.toU8 || attributes = EndpointAttributes.interrupt.toU8 ||
    attributes = EndpointAttributes.bulk.toU8

namespace HostM

variable {α β : Type} {host : Host} {n : Nat} {prev : Option Exchange}

/-- The computation goes on, after the exchange `prev`, only if that was no error to be dropped; and
    it returns a value only after an exchange that succeeded, or after one of the dropped kinds. -/
def Heeds : Option Exchange → HostM α → Prop
  | prev, .ret (.ok _) => ∀ x ∈ prev, x.1.errorsDropped = false → x.performed = true
  | prev, .ret (.error _) => ∀ x ∈ prev, x.dropped = false
  | prev, .call c k => (∀ x ∈ prev, x.dropped = false) ∧ ∀ r, Heeds (some ⟨c, r⟩) (k r)

@[simp] theorem heeds_ret (o : Outcome α) : Heeds none (.ret o) := by
  cases o <;> simp [Heeds]

@[simp] theorem heeds_ret_ok (x : Exchange) (a : α) :
    Heeds (some x) (.ret (.ok a)) ↔ (x.1.errorsDropped = false → x.performed = true) := by
  simp [Heeds]

@[simp] theorem heeds_ret_error (x : Exchange) (s : Stop) :
    Heeds (some x) (.ret (.error s) : HostM α) ↔ x.dropped = false := by
  simp [Heeds]

theorem heeds_call {c : HostCall} {k : c.Answer → HostM α} :
    Heeds prev (.call c k) ↔
      (∀ x ∈ prev, x.dropped = false) ∧ ∀ r, Heeds (some ⟨c, r⟩) (k r) := Iff.rfl

/-- Nothing has been asked before the first call. -/
theorem heeds_ask {c : HostCall} {k : c.Answer → HostM α} (h : ∀ r, Heeds (some ⟨c, r⟩) (k r)) :
    Heeds none ((ask c).bind k) := by
  constructor
  · intro x hx
    cases hx
  · exact h

/-- A call after another one that has not failed. -/
theorem heeds_ask_next {c : HostCall} {k : c.Answer → HostM α} {x : Exchange}
    (hx : x.dropped = false) (h : ∀ r, Heeds (some ⟨c, r⟩) (k r)) :
    Heeds (some x) ((ask c).bind k) := by
  constructor
  · intro y hy
    rw [← Option.some.inj hy]
    exact hx
  · exact h

theorem heeds_ret_bind {o : Outcome α} {f : α → HostM β} (h : ∀ a, Heeds none (f a)) :
    Heeds none ((HostM.ret o).bind f) := by
  cases o with
  | ok a => exact h a
  | error s => exact heeds_ret (Except.error s)

/-- **Where a value is returned, the last exchange tells whether an error was dropped.** -/
theorem Heeds.of_ok {m : HostM α} (h : Heeds prev m) {v : α}
    (hok : outcomeFrom host n m = .ok v) :
    (∀ x ∈ prev.toList ++ exchangesFrom host n m, x.dropped = false) ↔
      ∀ x ∈ (prev.toList ++ exchangesFrom host n m).getLast?, x.performed = true := by
  induction m generalizing prev n with
  | ret o =>
    rw [outcomeFrom] at hok
    subst hok
    cases prev with
    | none => simp
    | some x =>
      rw [heeds_ret_ok] at h
      unfold Exchange.dropped
      cases hd : x.1.errorsDropped <;> simp_all
  | call c k ih =>
    obtain ⟨hprev, hk⟩ := heeds_call.mp h
    have hrest := ih (host n c) (hk (host n c)) hok
    rw [exchangesFrom_call, List.getLast?_append_cons]
    rw [← List.singleton_append, ← Option.toList_some, ← hrest]
    constructor
    · intro h x hx
      exact h x (List.mem_append_right _ hx)
    · intro h x hx
      rcases List.mem_append.mp hx with hx | hx
      · exact hprev x (Option.mem_toList.mp hx)
      · exact h x hx

/-- No error is dropped on the way to a failure. -/
theorem Heeds.of_error {m : HostM α} (h : Heeds prev m) {s : Stop}
    (herr : outcomeFrom host n m = .error s) :
    ∀ x ∈ prev.toList ++ exchangesFrom host n m, x.dropped = false := by
  induction m generalizing prev n with
  | ret o =>
    rw [outcomeFrom] at herr
    subst herr
    intro x hx
    rw [exchangesFrom_ret, List.append_nil] at hx
    exact h x (Option.mem_toList.mp hx)
  | call c k ih =>
    obtain ⟨hprev, hk⟩ := heeds_call.mp h
    intro x hx
    rcases List.mem_append.mp hx with hx | hx
    · exact hprev x (Option.mem_toList.mp hx)
    · exact ih (host n c) (hk (host n c)) herr x hx

end HostM

/-! ## What the transfers heed -/

section Transfers

open HostM

theorem controlForInterface_heeds (interface : Interface) (ep : UsbEndpoint) (setup : SetupPacket)
    (req : List UInt8) : Heeds none (controlForInterface interface ep setup req) := by
  unfold controlForInterface
  apply heeds_ret_bind
  intro controlType
  apply heeds_ret_bind
  intro recipient
  split
  · apply heeds_ask
    intro r
    cases r with
    | ok buf => exact (heeds_ret_ok _ buf).mpr fun _ => rfl
    | error e => exact (heeds_ret_ok _ []).mpr fun h => nomatch h
  · apply heeds_ask
    intro r
    cases r with
    | ok u => exact (heeds_ret_ok _ []).mpr fun _ => rfl
    | error e => exact (heeds_ret_error _ _).mpr rfl

theorem handleUrbForDevice_heeds (device : Device) (interface : Option Interface)
    (setup : SetupPacket) (req : List UInt8) :
    Heeds none (handleUrbForDevice device interface setup req) := by
  unfold handleUrbForDevice
  apply heeds_ret_bind
  intro controlType
  apply heeds_ret_bind
  intro recipient
  apply heeds_ret_bind
  intro handle
  split
  · apply heeds_ask
    intro r
    cases r with
    | ok u => exact (heeds_ret_ok _ []).mpr fun _ => rfl
    | error e => exact (heeds_ret_error _ _).mpr rfl
  · apply heeds_ask
    intro r
    cases r with
    | ok buf => exact (heeds_ret_ok _ buf).mpr fun _ => rfl
    | error e => exact (heeds_ret_ok _ []).mpr fun h => nomatch h

theorem interruptForInterface_heeds (interface : Interface) (ep : UsbEndpoint) (len : UInt32)
    (req : List UInt8) : Heeds none (interruptForInterface interface ep len req) := by
  unfold interruptForInterface
  apply heeds_ask
  intro r
  cases r with
  | error e => exact (heeds_ret_error _ _).mpr rfl
  | ok u =>
    rw [ofUsb, bind_eq, bind_ret_ok]
    split
    · apply heeds_ask_next rfl
      intro r
      cases r with
      | ok buf => exact (heeds_ret_ok _ buf).mpr fun _ => rfl
      | error e => exact (heeds_ret_ok _ []).mpr fun h => nomatch h
    · apply heeds_ask_next rfl
      intro r
      cases r with
      | error e => exact (heeds_ret_error _ _).mpr rfl
      | ok u =>
        apply heeds_ask_next rfl
        intro r
        cases r with
        | error e => exact (heeds_ret_error _ _).mpr rfl
        | ok u => exact (heeds_ret_ok _ []).mpr fun _ => rfl

theorem bulkForInterface_heeds (prof : Profile) (interface : Interface) (ep : UsbEndpoint)
    (len : UInt32) (req : List UInt8) :
    Heeds none (bulkForInterface prof interface ep len req) := by
  unfold bulkForInterface
  apply heeds_ask
  intro r
  cases r with
  | error e => exact (heeds_ret_error _ _).mpr rfl
  | ok u =>
    rw [ofUsb, bind_eq, bind_ret_ok]
    split
    · apply heeds_ask_next rfl
      intro m
      cases requestedBuffer prof len m with
      | error s => exact (heeds_ret_error _ _).mpr rfl
      | ok n =>
        apply heeds_ask_next rfl
        intro r
        cases r with
        | ok buf => exact (heeds_ret_ok _ buf).mpr fun _ => rfl
        | error err =>
          cases err with
          | cancelled => exact (heeds_ret_ok _ []).mpr fun _ => rfl
          | stall =>
            apply heeds_ask_next rfl
            intro r
            cases r with
            | error e => exact (heeds_ret_error _ _).mpr rfl
            | ok u =>
              apply heeds_ask_next rfl
              intro r
              cases r with
              | error e => exact (heeds_ret_error _ _).mpr rfl
              | ok buf => exact (heeds_ret_ok _ buf).mpr fun _ => rfl
          | _ => exact (heeds_ret_error _ _).mpr rfl
    · apply heeds_ask_next rfl
      intro r
      cases r with
      | ok u => exact (heeds_ret_ok _ []).mpr fun _ => rfl
      | error e =>
        apply heeds_ask_next rfl
        intro r
        cases r with
        | error e => exact (heeds_ret_error _ _).mpr rfl
        | ok u =>
          apply heeds_ask_next rfl
          intro r
          cases r with
          | error e => exact (heeds_ret_error _ _).mpr rfl
          | ok u => exact (heeds_ret_ok _ []).mpr fun _ => rfl

theorem handleUrbForInterface_heeds (prof : Profile) (interface : Interface) (ep : UsbEndpoint)
    (len : UInt32) (setup : SetupPacket) (req : List UInt8) :
    Heeds none (handleUrbForInterface prof interface ep len setup req) := by
  unfold handleUrbForInterface
  split
  · exact controlForInterface_heeds interface ep setup req
  split
  · exact interruptForInterface_heeds interface ep len req
  split
  · exact bulkForInterface_heeds prof interface ep len req
  · exact heeds_ret _

end Transfers

namespace UsbDevice

open HostM

variable (prof : Profile) (d : UsbDevice) (ep : UsbEndpoint) (len : UInt32) (setup : SetupPacket)
  (outData : List UInt8)

theorem forwardToInterface_heeds :
    Heeds none (d.forwardToInterface prof ep len setup outData) := by
  apply heeds_ret_bind
  intro intf
  exact handleUrbForInterface_heeds prof intf.handler ep len setup outData

theorem controlIn_heeds : Heeds none (d.controlIn prof ep len setup outData) := by
  unfold controlIn
  split
  · exact heeds_ret _
  split
  · exact heeds_ret _
  split
  · apply heeds_ret_bind
    intro handler
    exact handleUrbForDevice_heeds handler _ setup outData
  split
  · exact forwardToInterface_heeds prof d ep len setup outData
  split
  · apply heeds_ret_bind
    intro handler
    exact handleUrbForDevice_heeds handler _ setup outData
  · exact heeds_ret _

theorem setConfiguration_heeds : Heeds none (d.setConfiguration setup) := by
  unfold setConfiguration
  split
  · split
    · apply heeds_ask
      intro r
      exact (heeds_ret_ok _ _).mpr fun h => nomatch h
    · exact heeds_ret _
  · exact heeds_ret _

theorem controlOut_heeds : Heeds none (d.controlOut prof ep len setup outData) := by
  unfold controlOut
  split
  · exact setConfiguration_heeds d setup
  split
  · exact heeds_ret _
  split
  · apply heeds_ret_bind
    intro handler
    exact handleUrbForDevice_heeds handler _ setup outData
  split
  · exact forwardToInterface_heeds prof d ep len setup outData
  split
  · split
    · exact handleUrbForDevice_heeds _ _ setup outData
    · exact heeds_ret _
  · exact heeds_ret _

/-- **Whatever becomes of a URB, errors of three kinds only are dropped on the way.** -/
theorem handleUrb_heeds (intf : Option UsbInterface) :
    Heeds none (d.handleUrb prof ep intf len setup outData) := by
  unfold handleUrb
  split
  · exact controlIn_heeds prof d ep len setup outData
  · exact controlOut_heeds prof d ep len setup outData
  · apply heeds_ret_bind
    intro intf
    exact handleUrbForInterface_heeds prof intf.handler ep len setup outData

variable {prof d ep len setup outData} {host : Host} {intf : Option UsbInterface}

/-- A URB of an endpoint type that is not forwarded comes to no call, and to success if the endpoint
    has an interface. -/
theorem handleUrb_not_forwarded (h : isForwarded ep.attributes = false) :
    (d.handleUrb prof ep intf len setup outData).exchanges host = [] ∧
      (d.handleUrb prof ep intf len setup outData).outcome host =
        if intf.isSome then .ok [] else Outcome.panic .unwrapNone := by
  unfold isForwarded at h
  simp only [Bool.or_eq_false_iff, decide_eq_false_iff_not] at h
  obtain ⟨⟨hcontrol, hinterrupt⟩, hbulk⟩ := h
  have hne : EndpointAttributes.fromU8 ep.attributes ≠ some .control :=
    fun hattr => hcontrol (EndpointAttributes.toU8_of_fromU8 hattr)
  unfold handleUrb
  split
  · exact absurd ‹_› hne
  · exact absurd ‹_› hne
  · cases intf with
    | none => exact ⟨rfl, rfl⟩
    | some i =>
      have hnothing : handleUrbForInterface prof i.handler ep len setup outData = pure [] := by
        rw [handleUrbForInterface, if_neg hcontrol, if_neg hinterrupt, if_neg hbulk]
      show exchanges host (handleUrbForInterface prof i.handler ep len setup outData) = [] ∧ _
      rw [hnothing]
      refine ⟨rfl, ?_⟩
      show outcome host (handleUrbForInterface prof i.handler ep len setup outData) = .ok []
      rw [hnothing]
      rfl

/-- An interrupt or bulk endpoint is opened before anything else. -/
theorem handleUrb_opens (h : isForwarded ep.attributes = true)
    (hne : ep.attributes ≠ EndpointAttributes.control.toU8) {v : List UInt8}
    (hok : (d.handleUrb prof ep intf len setup outData).outcome host = .ok v) :
    (d.handleUrb prof ep intf len setup outData).exchanges host ≠ [] := by
  have hattr : EndpointAttributes.fromU8 ep.attributes ≠ some .control :=
    fun hattr => hne (EndpointAttributes.toU8_of_fromU8 hattr)
  unfold handleUrb at hok ⊢
  split at hok
  · exact absurd ‹_› hattr
  · exact absurd ‹_› hattr
  · cases intf with
    | none => cases hok
    | some i =>
      show exchanges host (handleUrbForInterface prof i.handler ep len setup outData) ≠ []
      rw [handleUrbForInterface, if_neg hne]
      unfold isForwarded at h
      simp only [Bool.or_eq_true, decide_eq_true_eq] at h
      by_cases hinterrupt : ep.attributes = EndpointAttributes.interrupt.toU8
      · rw [if_pos hinterrupt]
        intro hnil
        cases hnil
      · rw [if_neg hinterrupt, if_pos (h.resolve_left fun h => h.elim hne hinterrupt)]
        intro hnil
        cases hnil

/-- **A URB that succeeds has been performed, or can be answered locally, exactly if its endpoint
    type is forwarded and no error was dropped.** -/
theorem handleUrb_performed_iff {v : List UInt8}
    (hok : (d.handleUrb prof ep intf len setup outData).outcome host = .ok v) :
    transferPerformed ep ((d.handleUrb prof ep intf len setup outData).exchanges host) = true ↔
      isForwarded ep.attributes = true ∧
        ∀ x ∈ (d.handleUrb prof ep intf len setup outData).exchanges host, x.dropped = false := by
  have hlast := (handleUrb_heeds prof d ep len setup outData intf).of_ok hok
  rw [Option.toList_none, List.nil_append] at hlast
  have hcalls : (d.handleUrb prof ep intf len setup outData).exchanges host = [] →
      (isForwarded ep.attributes = true ↔ ep.attributes = EndpointAttributes.control.toU8) := by
    intro hnil
    constructor
    · intro h
      by_contra hne
      exact handleUrb_opens h hne hok hnil
    · intro h
      simp [isForwarded, h]
  have hnone : isForwarded ep.attributes = false →
      (d.handleUrb prof ep intf len setup outData).exchanges host = [] :=
    fun h => (handleUrb_not_forwarded h).1
  change (∀ x ∈ (d.handleUrb prof ep intf len setup outData).exchanges host, x.dropped = false) ↔
    ∀ x ∈ ((d.handleUrb prof ep intf len setup outData).exchanges host).getLast?,
      x.performed = true at hlast
  rw [hlast]
  unfold transferPerformed
  generalize (d.handleUrb prof ep intf len setup outData).exchanges host = exchanges at *
  cases hget : exchanges.getLast? with
  | none =>
    rw [List.getLast?_eq_none_iff] at hget
    simp [hcalls hget]
  | some x =>
    have hforwarded : isForwarded ep.attributes = true := by
      by_contra h
      rw [hnone (Bool.eq_false_iff.mpr h)] at hget
      cases hget
    simp [hforwarded]

end UsbDevice

/-! ## What the client is told -/

section Told

variable {prof : Profile} {header : UsbIpHeaderBasic} {len : UInt32} {setup data : List UInt8}
  {device : UsbDevice} {host : Host}

/-- The endpoint of the URB, if the device has it, is of a type that is forwarded or has no
    interface, and no error is dropped. -/
def NothingDropped (prof : Profile) (header : UsbIpHeaderBasic) (len : UInt32)
    (setup data : List UInt8) (device : UsbDevice) (host : Host) : Prop :=
  (∀ ep intf, device.findEp (realEp header) = some (ep, some intf) →
    isForwarded ep.attributes = true) ∧
  ∀ x ∈ submitExchanges prof header len setup data device host, x.dropped = false

/-- The transfer of the URB has been performed, or the URB can be answered locally. -/
def urbPerformed (prof : Profile) (header : UsbIpHeaderBasic) (len : UInt32)
    (setup data : List UInt8) (device : UsbDevice) (host : Host) : Bool :=
  (device.findEp (realEp header)).any fun found =>
    transferPerformed found.1 (submitExchanges prof header len setup data device host)

theorem usbipRetSubmitFail_status (header : UsbIpHeaderBasic) (actualLength : UInt32) :
    (UsbIpResponse.usbipRetSubmitFail header actualLength).submitStatus? ≠ some 0 := by
  intro h
  exact absurd (Option.some.inj h) (by decide)

/-- **A URB is told to have succeeded without having been performed, exactly if something is
    dropped.** -/
theorem told_iff : NothingDropped prof header len setup data device host ↔
    ∀ response, handleUsbipCmdSubmit prof header len setup data device host = .ok response →
      response.submitStatus? = some 0 → urbPerformed prof header len setup data device host = true := by
  unfold NothingDropped urbPerformed handleUsbipCmdSubmit submitExchanges
  dsimp only
  cases hfound : device.findEp (realEp header) with
  -- An endpoint that the device does not have is answered with a failure.
  | none =>
    refine iff_of_true ⟨fun ep intf h => (nomatch h), fun x hx => (nomatch hx)⟩ ?_
    intro response hreply hstatus
    cases hreply
    exact absurd hstatus (usbipRetSubmitFail_status _ _)
  | some found =>
    obtain ⟨ep, intf⟩ := found
    dsimp only
    have hheeds := UsbDevice.handleUrb_heeds prof device ep len (SetupPacket.parse setup) data intf
    have hunforwarded := @UsbDevice.handleUrb_not_forwarded prof device ep len
      (SetupPacket.parse setup) data host intf
    cases hout : (device.handleUrb prof ep intf len (SetupPacket.parse setup) data).outcome host with
    | ok v =>
      -- A URB that returns is told of in its reply, so only what is forwarded can be dropped.
      have hforwarded : (∀ ep' intf', some (ep, intf) = some (ep', some intf') →
          isForwarded ep'.attributes = true) ↔ isForwarded ep.attributes = true := by
        constructor
        · intro h
          by_contra hnot
          have hpanic := (hunforwarded (Bool.eq_false_iff.mpr hnot)).2
          cases intf with
          | none => exact nomatch hout.symm.trans hpanic
          | some i => exact hnot (h ep i rfl)
        · intro h ep' intf' heq
          cases heq
          exact h
      rw [hforwarded, ← UsbDevice.handleUrb_performed_iff hout]
      constructor
      · intro h response hreply hstatus
        exact h
      · intro h
        exact h _ rfl rfl
    | error stop =>
      refine iff_of_true ⟨?_, hheeds.of_error hout⟩ ?_
      · intro ep' intf' heq
        cases heq
        by_contra hnot
        exact nomatch hout.symm.trans (hunforwarded (Bool.eq_false_iff.mpr hnot)).2
      · intro response hreply hstatus
        cases stop with
        | panic p => cases hreply
        -- An error is answered with a failure too.
        | err e =>
          cases hreply
          exact absurd hstatus (usbipRetSubmitFail_status _ _)

end Told
end Lusbip
