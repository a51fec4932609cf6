import Lusbip.Usb.Exchanges

/-!
# The active configuration

A device is in the configuration that was set last. A `SET_CONFIGURATION` for the value the server
recorded when it opened the device is not forwarded, and the record never changes. The first
request for another value therefore leads away from the record for good: a request for the
recorded value is answered, and the device stays where it is. A request the host refuses is
answered with success, too.

This is a property of a sequence of requests, and `setConfiguration_active_iff` says of which
sequences it is true that the value asked for last is the active one.
-/

namespace Lusbip

/-! ## Sequences of requests -/

/-- The active configuration of a physical device behind an exchange. -/
def configure (active : UInt8) : Exchange → UInt8
  | ⟨.setConfiguration _ value, answer⟩ => match answer with
    | .ok _ => value
    | .error _ => active
  | _ => active

/-- A standard `SET_CONFIGURATION` request, and the host as it meets it. -/
structure SetConfigurationRequest where
  header : UsbIpHeaderBasic
  transferBufferLength : UInt32
  setup : List UInt8
  data : List UInt8
  host : Host
  ep : header.ep = 0
  direction : header.direction = 0
  requestType : (SetupPacket.parse setup).requestType = 0b00000000
  request : StandardRequest.fromU8 (SetupPacket.parse setup).request = some .setConfiguration

namespace SetConfigurationRequest

/-- The configuration that is asked for. -/
def value (r : SetConfigurationRequest) : UInt8 := (SetupPacket.parse r.setup).value.toUInt8

def reply (prof : Profile) (d : UsbDevice) (r : SetConfigurationRequest) :
    Outcome UsbIpResponse :=
  handleUsbipCmdSubmit prof r.header r.transferBufferLength r.setup r.data d r.host

def exchanges (prof : Profile) (d : UsbDevice) (r : SetConfigurationRequest) : List Exchange :=
  submitExchanges prof r.header r.transferBufferLength r.setup r.data d r.host

/-- The device behind the request. -/
def activeAfter (prof : Profile) (d : UsbDevice) (active : UInt8) (r : SetConfigurationRequest) :
    UInt8 :=
  (r.exchanges prof d).foldl configure active

end SetConfigurationRequest

/-- The configuration a device is in after some requests, if it starts in `active`. -/
def activeConfiguration (prof : Profile) (d : UsbDevice) (active : UInt8)
    (requests : List SetConfigurationRequest) : UInt8 :=
  requests.foldl (SetConfigurationRequest.activeAfter prof d) active

/-- What a client expects of a sequence of requests. -/
structure Configured (prof : Profile) (d : UsbDevice) (active : UInt8)
    (requests : List SetConfigurationRequest) : Prop where
  lastIsActive : (∀ r ∈ requests, ∀ e ∈ r.exchanges prof d, e.failed = false) →
    ∀ last ∈ requests.getLast?, activeConfiguration prof d active requests = last.value
  failureReported : ∀ r ∈ requests, (∃ e ∈ r.exchanges prof d, e.failed = true) →
    ∃ response status, r.reply prof d = .ok response ∧
      response.submitStatus? = some status ∧ status ≠ 0

/-! ## One request -/

section Request

variable {prof : Profile} {d : UsbDevice} {device : Device} {active : UInt8}

namespace SetConfigurationRequest

variable {r : SetConfigurationRequest}

theorem findEp_realEp (hd : d.HasEp0) (r : SetConfigurationRequest) :
    d.findEp (realEp r.header) = some (ep0OutEndpoint, none) := by
  have hreal : realEp r.header = 0x00 := by
    rw [realEp, if_pos r.direction, r.ep]
    rfl
  rw [hreal]
  exact (UsbDevice.findEp_zero hd).2

/-- The request is answered with the recorded value, after a call unless that is the one asked
    for. -/
theorem handleUrb_eq (hdevice : d.deviceHandler = some device) (r : SetConfigurationRequest) :
    d.handleUrb prof ep0OutEndpoint none r.transferBufferLength (SetupPacket.parse r.setup)
      r.data =
      if r.value = d.configurationValue then
        .ret (.ok (truncateTo (SetupPacket.parse r.setup).length [d.configurationValue]))
      else
        .call (.setConfiguration device r.value) fun _ =>
          .ret (.ok (truncateTo (SetupPacket.parse r.setup).length [d.configurationValue])) := by
  show d.controlOut prof _ _ _ _ = _
  rw [UsbDevice.controlOut, if_pos ⟨r.requestType, r.request⟩, UsbDevice.setConfiguration,
    hdevice]
  by_cases hv : r.value = d.configurationValue
  · have hsame : d.shouldForwardSetConfiguration (SetupPacket.parse r.setup).value.toUInt8 = false :=
      bne_eq_false_iff_eq.mpr hv
    rw [if_pos hv]
    dsimp only
    rw [hsame]
    rfl
  · have hother : d.shouldForwardSetConfiguration (SetupPacket.parse r.setup).value.toUInt8 = true :=
      bne_iff_ne.mpr hv
    rw [if_neg hv]
    dsimp only
    rw [hother]
    rfl

/-- A request is forwarded unless it is for the recorded value. -/
theorem exchanges_eq (hd : d.HasEp0) (hdevice : d.deviceHandler = some device)
    (r : SetConfigurationRequest) :
    r.exchanges prof d =
      if r.value = d.configurationValue then []
      else [⟨.setConfiguration device r.value, r.host 0 (.setConfiguration device r.value)⟩] := by
  rw [exchanges, submitExchanges, findEp_realEp hd r]
  dsimp only
  rw [handleUrb_eq hdevice]
  split <;> rfl

/-- **Whatever the host says, the answer is a success.** -/
theorem reply_success (prof : Profile) (hd : d.HasEp0)
    (hdevice : d.deviceHandler = some device) (r : SetConfigurationRequest) :
    ∃ response, r.reply prof d = .ok response ∧ response.submitStatus? = some 0 := by
  rw [reply, handleUsbipCmdSubmit, findEp_realEp hd r]
  dsimp only
  rw [handleUrb_eq hdevice]
  by_cases hv : r.value = d.configurationValue
  · rw [if_pos hv]
    exact ⟨_, rfl, rfl⟩
  · rw [if_neg hv]
    exact ⟨_, rfl, rfl⟩

/-- Where the device is behind a request that was not refused. -/
theorem activeAfter_eq (hd : d.HasEp0) (hdevice : d.deviceHandler = some device)
    (hok : r.value ≠ d.configurationValue →
      ∃ u, r.host 0 (.setConfiguration device r.value) = .ok u) :
    r.activeAfter prof d active = if r.value = d.configurationValue then active else r.value := by
  rw [activeAfter, exchanges_eq hd hdevice]
  by_cases hv : r.value = d.configurationValue
  · rw [if_pos hv, if_pos hv]
    rfl
  · obtain ⟨u, hu⟩ := hok hv
    rw [if_neg hv, if_neg hv, hu]
    rfl

/-- A request is refused if it is forwarded and the host says no. -/
theorem failed_exchange_iff (prof : Profile) (hd : d.HasEp0)
    (hdevice : d.deviceHandler = some device) (r : SetConfigurationRequest) :
    (∀ e ∈ r.exchanges prof d, e.failed = false) ↔
      (r.value ≠ d.configurationValue →
        ∃ u, r.host 0 (.setConfiguration device r.value) = .ok u) := by
  rw [exchanges_eq hd hdevice]
  by_cases hv : r.value = d.configurationValue
  · rw [if_pos hv]
    exact iff_of_true (fun e he => nomatch he) fun hne => absurd hv hne
  · rw [if_neg hv]
    have hanswer : Exchange.failed
        ⟨.setConfiguration device r.value, r.host 0 (.setConfiguration device r.value)⟩ = false ↔
        ∃ u, r.host 0 (.setConfiguration device r.value) = .ok u := by
      generalize r.host 0 (.setConfiguration device r.value) = answer
      cases answer with
      | ok u => exact iff_of_true rfl ⟨u, rfl⟩
      | error e => exact iff_of_false (fun h => nomatch h) fun ⟨_, h⟩ => nomatch h
    simp [hv, hanswer]

end SetConfigurationRequest

/-! ## Sequences -/

variable {requests : List SetConfigurationRequest}

/-- A device is back at the recorded value only if it never left it. -/
theorem activeConfiguration_eq_recorded_iff (hd : d.HasEp0)
    (hdevice : d.deviceHandler = some device)
    (hok : ∀ r ∈ requests, r.value ≠ d.configurationValue →
      ∃ u, r.host 0 (.setConfiguration device r.value) = .ok u) :
    activeConfiguration prof d active requests = d.configurationValue ↔
      (∀ r ∈ requests, r.value = d.configurationValue) ∧ active = d.configurationValue := by
  induction requests generalizing active with
  | nil => simp [activeConfiguration]
  | cons r requests ih =>
    have hrest := @ih (r.activeAfter prof d active)
      fun s hs => hok s (List.mem_cons_of_mem _ hs)
    show activeConfiguration prof d (r.activeAfter prof d active) requests = _ ↔ _
    rw [hrest, SetConfigurationRequest.activeAfter_eq hd hdevice (hok r List.mem_cons_self)]
    by_cases hv : r.value = d.configurationValue
    · simp [hv]
    · simp [hv]

/-- The last request decides, unless it is for the recorded value. -/
theorem activeConfiguration_eq_last_iff (prof : Profile) (hd : d.HasEp0)
    (hdevice : d.deviceHandler = some device)
    (hok : ∀ r ∈ requests, r.value ≠ d.configurationValue →
      ∃ u, r.host 0 (.setConfiguration device r.value) = .ok u)
    {last : SetConfigurationRequest} (hlast : requests.getLast? = some last) :
    activeConfiguration prof d active requests = last.value ↔
      last.value ≠ d.configurationValue ∨
        ((∀ r ∈ requests, r.value = d.configurationValue) ∧ active = d.configurationValue) := by
  by_cases hv : last.value = d.configurationValue
  · rw [hv, activeConfiguration_eq_recorded_iff hd hdevice hok]
    simp
  · obtain ⟨first, rfl⟩ := List.getLast?_eq_some_iff.mp hlast
    have hmem : last ∈ first ++ [last] := List.mem_append_right _ (List.mem_singleton_self last)
    refine iff_of_true ?_ (Or.inl hv)
    rw [activeConfiguration, List.foldl_append]
    show last.activeAfter prof d _ = last.value
    rw [SetConfigurationRequest.activeAfter_eq hd hdevice (hok last hmem), if_neg hv]

end Request

/-- **When the configuration requested last is the active one.** For every device with a handle,
    in every configuration, and every sequence of `SET_CONFIGURATION` requests with every answer
    of the host: exactly if no forwarded request is refused, and the last request is for another
    value than the recorded one, or all are for the recorded one and the device is there. -/
theorem setConfiguration_active_iff (prof : Profile) {d : UsbDevice} (hd : d.HasEp0)
    {device : Device} (hdevice : d.deviceHandler = some device) (active : UInt8)
    (requests : List SetConfigurationRequest) :
    Configured prof d active requests ↔
      (∀ r ∈ requests, r.value ≠ d.configurationValue →
        ∃ u, r.host 0 (.setConfiguration device r.value) = .ok u) ∧
      ∀ last ∈ requests.getLast?, last.value ≠ d.configurationValue ∨
        ((∀ r ∈ requests, r.value = d.configurationValue) ∧ active = d.configurationValue) := by
  constructor
  · intro h
    have hok : ∀ r ∈ requests, r.value ≠ d.configurationValue →
        ∃ u, r.host 0 (.setConfiguration device r.value) = .ok u := by
      intro r hr
      rw [← SetConfigurationRequest.failed_exchange_iff prof hd hdevice]
      intro e he
      by_contra hfailed
      obtain ⟨response, status, hreply, hstatus, hne⟩ :=
        h.failureReported r hr ⟨e, he, Bool.eq_true_of_not_eq_false hfailed⟩
      obtain ⟨response', hreply', hzero⟩ :=
        SetConfigurationRequest.reply_success prof hd hdevice r
      rw [hreply] at hreply'
      cases hreply'
      rw [hstatus] at hzero
      cases hzero
      exact hne rfl
    refine ⟨hok, fun last hlast => ?_⟩
    refine (activeConfiguration_eq_last_iff prof hd hdevice hok hlast).mp ?_
    refine h.lastIsActive (fun r hr => ?_) last hlast
    exact (SetConfigurationRequest.failed_exchange_iff prof hd hdevice r).mpr (hok r hr)
  · rintro ⟨hok, hlast⟩
    refine ⟨fun _ last hl => ?_, fun r hr hfailed => ?_⟩
    · exact (activeConfiguration_eq_last_iff prof hd hdevice hok hl).mpr (hlast last hl)
    · obtain ⟨e, he, hfailed⟩ := hfailed
      have := (SetConfigurationRequest.failed_exchange_iff prof hd hdevice r).mpr
        (hok r hr) e he
      rw [this] at hfailed
      cases hfailed

/-- A device in configuration 1 that has others. -/
def modem : UsbDevice where
  busId := "1-3"
  speed := UsbSpeed.high.toU32
  configurationValue := 1
  numConfigurations := 3
  deviceHandler := some ⟨0⟩
  ep0In := ep0InEndpoint
  ep0Out := ep0OutEndpoint

/-- A request for a configuration, and a host that sets it. -/
def configureModem (value : UInt8) : SetConfigurationRequest where
  header := { command := 1, seqnum := 1, devid := 0, direction := 0, ep := 0 }
  transferBufferLength := 0
  setup := [0x00, 0x09, value, 0x00, 0x00, 0x00, 0x00, 0x00]
  data := []
  host := Host.disconnected.answering 0 (c := .setConfiguration ⟨0⟩ value) (.ok ())
  ep := rfl
  direction := rfl
  requestType := rfl
  request := rfl

/-- From configuration 1 to 3 and then to 2. -/
theorem setConfiguration_active_modem :
    Configured .release modem 1 [configureModem 3, configureModem 2] :=
  (@setConfiguration_active_iff .release modem ⟨rfl, rfl⟩ ⟨0⟩ rfl 1
    [configureModem 3, configureModem 2]).mpr
    ⟨fun r hr _ => by
      simp only [List.mem_cons, List.not_mem_nil, or_false] at hr
      rcases hr with rfl | rfl
      · exact ⟨(), rfl⟩
      · exact ⟨(), rfl⟩,
    fun last hlast => by
      cases hlast
      exact Or.inl (by decide)⟩

/-- **There is no way back to the recorded configuration**: after 2, a request for 1 is answered
    and the device stays in 2. -/
theorem setConfiguration_not_always_active :
    ¬ ∀ (prof : Profile) (d : UsbDevice), d.HasEp0 → ∀ device : Device,
      d.deviceHandler = some device → ∀ requests : List SetConfigurationRequest,
        Configured prof d d.configurationValue requests := by
  intro h
  have hconf := h .release modem ⟨rfl, rfl⟩ ⟨0⟩ rfl [configureModem 2, configureModem 1]
  have hok : ∀ r ∈ [configureModem 2, configureModem 1], ∀ e ∈ r.exchanges .release modem,
      e.failed = false := by
    intro r hr e he
    simp only [List.mem_cons, List.not_mem_nil, or_false] at hr
    rcases hr with rfl | rfl
    · rcases List.mem_singleton.mp he with rfl
      rfl
    · cases he
  have hlast := hconf.lastIsActive hok (configureModem 1) rfl
  exact absurd hlast (by decide)

end Lusbip
