import Mathlib.Data.Finset.Card
import Lusbip.Client.Detaching

/-!
# The rows of a remote

A row is a device of the remote, or a port that no device has. A device takes the first port of the
table that matches it, and the rule of the match is the rule of auto-detach: so a device may take
the port of another one of its kind, and two devices may take the same port.

A row that has a port is toggled by detaching it. A row that has none is attached, and before that
the table is read once more, by the read that does not give up: when `usbip port` fails then, every
port of the kernel's status file is detached, whoever's it is.
-/

namespace Lusbip
namespace Client

open Lib
open Lib.Program

variable {remote : Text} {devices : List RemoteUsbDevice} {ports : List AttachedUsbPort}
  {device other : RemoteUsbDevice} {port : AttachedUsbPort}

/-! ## What a device takes -/

/-- A port matches a device where an attach of the device would detach it. -/
theorem portMatchesRemoteDevice_eq_shouldDetach (remote : Text) (device : RemoteUsbDevice)
    (port : AttachedUsbPort) :
    portMatchesRemoteDevice remote device (extractVidPid device.description) port
      = shouldDetach port (attachTarget remote device) := by
  have hvid : (∃ v ∈ extractVidPid device.description, port.vidPid = some v) ↔
      ∃ v ∈ port.vidPid, (attachTarget remote device).HasVidPid v := by
    constructor
    · rintro ⟨v, hv, hp⟩
      exact ⟨v, hp, v, hv, (lowercase_of_extractVidPid hv).symm⟩
    · rintro ⟨v, hp, w, hw, rfl⟩
      exact ⟨w, hw, (lowercase_of_extractVidPid hw) ▸ hp⟩
  rw [Bool.eq_iff_iff, portMatchesRemoteDevice_iff, hvid, shouldDetach_iff rfl]
  have hhost : (attachTarget remote device).remoteHost = remote := rfl
  rw [hhost, or_and_right, and_or_left, or_assoc]

/-- The port is the first of the table that matches the device. -/
def FirstMatch (remote : Text) (ports : List AttachedUsbPort) (device : RemoteUsbDevice)
    (port : AttachedUsbPort) : Prop :=
  ∃ before after, ports = before ++ port :: after ∧
    shouldDetach port (attachTarget remote device) = true ∧
    ∀ earlier ∈ before, shouldDetach earlier (attachTarget remote device) = false

theorem FirstMatch.mem (h : FirstMatch remote ports device port) : port ∈ ports := by
  obtain ⟨before, after, rfl, -⟩ := h
  exact List.mem_append_right _ List.mem_cons_self

theorem find_eq_some_iff_firstMatch :
    ports.find? (fun port => portMatchesRemoteDevice remote device
        (extractVidPid device.description) port) = some port ↔
      FirstMatch remote ports device port := by
  simp only [portMatchesRemoteDevice_eq_shouldDetach, List.find?_eq_some_iff_append, FirstMatch]
  constructor
  · rintro ⟨hport, before, after, rfl, hbefore⟩
    exact ⟨before, after, rfl, hport, fun e he => by simpa using hbefore e he⟩
  · rintro ⟨before, after, rfl, hport, hbefore⟩
    exact ⟨hport, before, after, rfl, fun e he => by simp [hbefore e he]⟩

theorem attachedPort_deviceState_iff {number : Text} :
    (deviceState remote ports device).attachedPort = some number ↔
      ∃ port, FirstMatch remote ports device port ∧ port.port = number := by
  rw [deviceState, Option.map_eq_some_iff]
  exact exists_congr fun port => and_congr_left fun _ => find_eq_some_iff_firstMatch

/-- A device and a port of its own, or a twin of it. -/
theorem FirstMatch.isTarget_or_isTwin (h : FirstMatch remote ports device port) :
    port.IsTarget (attachTarget remote device) device.busId ∨
      port.IsTwin (attachTarget remote device) device.busId := by
  obtain ⟨before, after, -, hport, -⟩ := h
  exact (shouldDetach_iff_isTarget_or_isTwin rfl).mp hport

/-! ## Tables in which every port can be told -/

/-- It is not known where the port was attached from, or for which bus id. -/
def AttachedUsbPort.Undecided (port : AttachedUsbPort) : Prop :=
  port.remoteHost = none ∨ port.remoteBusId = none

/-- Every device can tell its port: the first that matches it was not attached for another bus id
    of the remote, and if its origin is not known, it is not the first match of another device. -/
structure Distinguishable (remote : Text) (devices : List RemoteUsbDevice)
    (ports : List AttachedUsbPort) : Prop where
  noTwin : ∀ device ∈ uniqueRemoteDevices devices, ∀ port, FirstMatch remote ports device port →
    ¬ port.IsTwin (attachTarget remote device) device.busId
  alone : ∀ device ∈ uniqueRemoteDevices devices, ∀ other ∈ uniqueRemoteDevices devices,
    device ≠ other → ∀ port, port.Undecided → FirstMatch remote ports device port →
    ¬ FirstMatch remote ports other port

/-- The recovery may detach the port: the status file shows it, or its number. -/
def ShownBy (status : Except Text Text) (number : Text) : Prop :=
  ∃ port ∈ staleVhciPorts status, number = port ∨ normalizedVhciPort port = .ok number

/-- What a row without a port may detach is nobody's: every device of the list has a port or is
    occupied, or no port of known origin is in the status file. -/
def Spared (remote : Text) (devices : List RemoteUsbDevice) (ports : List AttachedUsbPort)
    (status : Except Text Text) : Prop :=
  (∀ device ∈ uniqueRemoteDevices devices, extractOccupiedBy device.description = none →
    ∃ port, FirstMatch remote ports device port) ∨
    ∀ port ∈ ports, ShownBy status port.port → port.Undecided

/-- The kernel has the ports, and its status file reads so: `usbip port` may fail at any time, and
    lists no other port when it does not. -/
structure Shows (env : Environment) (ports : List AttachedUsbPort) (status : Except Text Text) :
    Prop where
  table : ∀ m listed, readPortTable (env m portCall) = .ok listed → listed ⊆ ports
  status : ∀ m, env m .readVhciStatus = status

/-- The rows that show a port. -/
def rowsOf (rows : List RemoteUsbDeviceState) (number : Text) : Nat :=
  rows.countP fun row => decide (row.attachedPort = some number)

/-- **Every port is in its row**: a port of the remote is in exactly one row, none is in two, and
    one whose origin is known is in the row of its own bus id; and whichever row is toggled, and
    whatever fails on the way, no port is detached that is known to be another device's. -/
structure RowsFaithful (remote : Text) (devices : List RemoteUsbDevice)
    (ports : List AttachedUsbPort) (status : Except Text Text) : Prop where
  shown : ∀ port ∈ ports, attachedPortBelongsToRemote remote port = true →
    rowsOf (remoteDeviceStates remote devices ports) port.port = 1
  once : ∀ number, rowsOf (remoteDeviceStates remote devices ports) number ≤ 1
  own : ∀ port ∈ ports, ∀ row ∈ remoteDeviceStates remote devices ports,
    row.attachedPort = some port.port → ∀ host ∈ port.remoteHost, ∀ busId ∈ port.remoteBusId,
    host = remote ∧ row.device.busId = busId
  toggle : ∀ row ∈ remoteDeviceStates remote devices ports, ∀ env tcpPort, Shows env ports status →
    ∀ e ∈ events env 0 (toggleRemoteDevice remote tcpPort row), ∀ port ∈ ports,
    e.1.Detaches port.port → ∀ host ∈ port.remoteHost, ∀ busId ∈ port.remoteBusId,
    host = remote ∧ row.device.busId = busId

theorem countP_le_one_iff {α : Type*} [DecidableEq α] {l : List α} (hn : l.Nodup) (p : α → Bool) :
    l.countP p ≤ 1 ↔ ∀ a ∈ l, ∀ b ∈ l, p a = true → p b = true → a = b := by
  rw [List.countP_eq_length_filter, ← List.toFinset_card_of_nodup (hn.filter p),
    Finset.card_le_one]
  simp only [List.mem_toFinset, List.mem_filter]
  constructor
  · exact fun h a ha b hb hpa hpb => h a ⟨ha, hpa⟩ b ⟨hb, hpb⟩
  · exact fun h a ha b hb => h a ha.1 b hb.1 ha.2 hb.2

/-- The row of a device of the list. -/
theorem deviceState_mem (h : device ∈ uniqueRemoteDevices devices) :
    deviceState remote ports device ∈ remoteDeviceStates remote devices ports :=
  List.mem_append_left _ (List.mem_map_of_mem h)

/-- The ports the devices of the list have taken. -/
def usedPorts (remote : Text) (devices : List RemoteUsbDevice) (ports : List AttachedUsbPort) :
    List Text :=
  ((uniqueRemoteDevices devices).map (deviceState remote ports)).filterMap (·.attachedPort)

theorem mem_usedPorts {number : Text} :
    number ∈ usedPorts remote devices ports ↔
      ∃ device ∈ uniqueRemoteDevices devices,
        (deviceState remote ports device).attachedPort = some number := by
  rw [usedPorts, List.mem_filterMap]
  constructor
  · rintro ⟨row, hrow, hnumber⟩
    obtain ⟨device, hdevice, rfl⟩ := List.mem_map.mp hrow
    exact ⟨device, hdevice, hnumber⟩
  · rintro ⟨device, hdevice, hnumber⟩
    exact ⟨_, List.mem_map_of_mem hdevice, hnumber⟩

/-- The ports that get a row of their own. -/
def leftover (remote : Text) (devices : List RemoteUsbDevice) (ports : List AttachedUsbPort)
    (port : AttachedUsbPort) : Bool :=
  !(usedPorts remote devices ports).contains port.port && attachedPortBelongsToRemote remote port

theorem remoteDeviceStates_eq (remote : Text) (devices : List RemoteUsbDevice)
    (ports : List AttachedUsbPort) :
    remoteDeviceStates remote devices ports
      = (uniqueRemoteDevices devices).map (deviceState remote ports)
        ++ (ports.filter (leftover remote devices ports)).map leftoverState := rfl

/-- The port belongs to the remote, no device of the list has taken its number, and it goes by the
    name of the bus id. -/
structure LeftFor (remote : Text) (devices : List RemoteUsbDevice) (ports : List AttachedUsbPort)
    (busId : Text) (port : AttachedUsbPort) : Prop where
  named : port.remoteBusId.getD ("attached-port-".toList ++ port.port) = busId
  belongs : port.remoteHost = some remote ∨ (port.remoteHost = none ∧ port.vidPid ≠ none)
  untaken : ∀ device ∈ uniqueRemoteDevices devices, ∀ taken, FirstMatch remote ports device taken →
    taken.port ≠ port.port

/-- A port belongs to the remote that is its host, or that may be: it has a VID:PID and no host. -/
theorem belongs_iff :
    attachedPortBelongsToRemote remote port = true ↔
      port.remoteHost = some remote ∨ (port.remoteHost = none ∧ port.vidPid ≠ none) := by
  rw [attachedPortBelongsToRemote, Bool.or_eq_true, Bool.and_eq_true, decide_eq_true_eq,
    Option.isNone_iff_eq_none, Option.isSome_iff_ne_none]

theorem leftFor_iff {busId : Text} :
    (leftover remote devices ports port && decide ((leftoverState port).device.busId = busId)) = true
      ↔ LeftFor remote devices ports busId port := by
  have huntaken : port.port ∉ usedPorts remote devices ports ↔
      ∀ device ∈ uniqueRemoteDevices devices, ∀ taken, FirstMatch remote ports device taken →
        taken.port ≠ port.port := by
    rw [mem_usedPorts]
    constructor
    · intro hnot device hdevice taken hfirst heq
      exact hnot ⟨device, hdevice, attachedPort_deviceState_iff.mpr ⟨taken, hfirst, heq⟩⟩
    · rintro h ⟨device, hdevice, hattached⟩
      obtain ⟨taken, hfirst, heq⟩ := attachedPort_deviceState_iff.mp hattached
      exact h device hdevice taken hfirst heq
  rw [Bool.and_eq_true, leftover, Bool.and_eq_true, Bool.not_eq_true', decide_eq_true_eq,
    List.contains_eq_mem, decide_eq_false_iff_not, huntaken, belongs_iff]
  constructor
  · rintro ⟨⟨huntaken, hbelongs⟩, hnamed⟩
    exact ⟨hnamed, hbelongs, huntaken⟩
  · rintro ⟨hnamed, hbelongs, huntaken⟩
    exact ⟨⟨huntaken, hbelongs⟩, hnamed⟩

/-- The rows of a port: those of devices, and its own. -/
theorem rowsOf_eq (number : Text) :
    rowsOf (remoteDeviceStates remote devices ports) number
      = (uniqueRemoteDevices devices).countP
          (fun device => decide ((deviceState remote ports device).attachedPort = some number))
        + ports.countP
            (fun port => decide (port.port = number) && leftover remote devices ports port) := by
  rw [rowsOf, remoteDeviceStates_eq, List.countP_append, List.countP_map, List.countP_map,
    List.countP_filter]
  congr 2
  funext port
  simp [leftoverState]

variable (hnumbers : (ports.map (·.port)).Nodup)

include hnumbers in
theorem eq_of_number {port' : AttachedUsbPort} (h : port ∈ ports) (h' : port' ∈ ports)
    (heq : port.port = port'.port) : port = port' :=
  List.inj_on_of_nodup_map hnumbers h h' heq

include hnumbers in
/-- Two devices that can tell their ports do not take the same one. -/
theorem Distinguishable.device_eq (hd : Distinguishable remote devices ports)
    (hdevice : device ∈ uniqueRemoteDevices devices)
    (hother : other ∈ uniqueRemoteDevices devices) {number : Text}
    (h : (deviceState remote ports device).attachedPort = some number)
    (h' : (deviceState remote ports other).attachedPort = some number) : device = other := by
  obtain ⟨port, hport, rfl⟩ := attachedPort_deviceState_iff.mp h
  obtain ⟨port', hport', heq⟩ := attachedPort_deviceState_iff.mp h'
  obtain rfl := eq_of_number hnumbers hport'.mem hport.mem heq
  by_contra hne
  have hbus : ∀ d ∈ uniqueRemoteDevices devices, FirstMatch remote ports d port' →
      ∀ busId, port'.remoteHost ≠ none → port'.remoteBusId = some busId → d.busId = busId := by
    intro d hd' hmatch busId hhost hown
    have htarget := hmatch.isTarget_or_isTwin.resolve_right (hd.noTwin d hd' port' hmatch)
    obtain ⟨host, hhost⟩ := Option.ne_none_iff_exists'.mp hhost
    exact (htarget.known hhost hown).2.symm
  -- A port of unknown origin is alone by hypothesis; one of known origin names its bus id,
  -- and both devices have it.
  by_cases hundecided : port'.Undecided
  · exact hd.alone device hdevice other hother hne port' hundecided hport hport'
  · rw [AttachedUsbPort.Undecided, not_or] at hundecided
    obtain ⟨busId, hown⟩ := Option.ne_none_iff_exists'.mp hundecided.2
    refine hne (List.inj_on_of_nodup_map (nodup_uniqueRemoteDevices devices) hdevice hother ?_)
    exact (hbus device hdevice hport busId hundecided.1 hown).trans
      (hbus other hother hport' busId hundecided.1 hown).symm

theorem nodup_devices (devices : List RemoteUsbDevice) : (uniqueRemoteDevices devices).Nodup :=
  (nodup_uniqueRemoteDevices devices).of_map _

include hnumbers in
theorem Distinguishable.devices_once (hd : Distinguishable remote devices ports) (number : Text) :
    (uniqueRemoteDevices devices).countP
      (fun device => decide ((deviceState remote ports device).attachedPort = some number)) ≤ 1 :=
  (countP_le_one_iff (nodup_devices devices) _).mpr fun _ ha _ hb hpa hpb =>
    hd.device_eq hnumbers ha hb (of_decide_eq_true hpa) (of_decide_eq_true hpb)

include hnumbers in
theorem leftovers_once (number : Text) :
    ports.countP
      (fun port => decide (port.port = number) && leftover remote devices ports port) ≤ 1 := by
  refine (countP_le_one_iff hnumbers.of_map _).mpr fun a ha b hb hpa hpb => ?_
  rw [Bool.and_eq_true, decide_eq_true_eq] at hpa hpb
  exact eq_of_number hnumbers ha hb (hpa.1.trans hpb.1.symm)

/-- A port that a device has taken gets no row of its own. -/
theorem leftovers_of_used {number : Text} (h : number ∈ usedPorts remote devices ports) :
    ports.countP
      (fun port => decide (port.port = number) && leftover remote devices ports port) = 0 := by
  refine List.countP_eq_zero.mpr fun port _ hp => ?_
  simp only [leftover, Bool.and_eq_true, decide_eq_true_eq, Bool.not_eq_true',
    List.contains_eq_mem, decide_eq_false_iff_not] at hp
  exact hp.2.1 (hp.1 ▸ h)

theorem devices_of_not_used {number : Text} (h : number ∉ usedPorts remote devices ports) :
    (uniqueRemoteDevices devices).countP
      (fun device => decide ((deviceState remote ports device).attachedPort = some number)) = 0 :=
  List.countP_eq_zero.mpr fun device hdevice hp =>
    h (mem_usedPorts.mpr ⟨device, hdevice, of_decide_eq_true hp⟩)

include hnumbers in
theorem Distinguishable.once (hd : Distinguishable remote devices ports) (number : Text) :
    rowsOf (remoteDeviceStates remote devices ports) number ≤ 1 := by
  rw [rowsOf_eq]
  by_cases hused : number ∈ usedPorts remote devices ports
  · rw [leftovers_of_used hused]
    exact hd.devices_once hnumbers number
  · rw [devices_of_not_used hused, Nat.zero_add]
    exact leftovers_once hnumbers number

/-- Whether a device has it or not, a port of the remote is in a row. -/
theorem shown_pos (hport : port ∈ ports) (hbelongs : attachedPortBelongsToRemote remote port = true) :
    0 < rowsOf (remoteDeviceStates remote devices ports) port.port := by
  rw [rowsOf_eq]
  by_cases hused : port.port ∈ usedPorts remote devices ports
  · obtain ⟨device, hdevice, hattached⟩ := mem_usedPorts.mp hused
    exact Nat.add_pos_left
      (List.countP_pos_iff.mpr ⟨device, hdevice, decide_eq_true hattached⟩) _
  · -- No device has taken the port, so it is left over.
    refine Nat.add_pos_right _ (List.countP_pos_iff.mpr ⟨port, hport, ?_⟩)
    simp [leftover, hused, hbelongs]

include hnumbers in
theorem Distinguishable.own (hd : Distinguishable remote devices ports) (hport : port ∈ ports)
    {row : RemoteUsbDeviceState} (hrow : row ∈ remoteDeviceStates remote devices ports)
    (hattached : row.attachedPort = some port.port) {host busId : Text}
    (hhost : port.remoteHost = some host) (hown : port.remoteBusId = some busId) :
    host = remote ∧ row.device.busId = busId := by
  rw [remoteDeviceStates_eq] at hrow
  rcases List.mem_append.mp hrow with hrow | hrow
  · obtain ⟨device, hdevice, rfl⟩ := List.mem_map.mp hrow
    obtain ⟨port', hmatch, heq⟩ := attachedPort_deviceState_iff.mp hattached
    obtain rfl := eq_of_number hnumbers hmatch.mem hport heq
    have htarget :=
      hmatch.isTarget_or_isTwin.resolve_right (hd.noTwin device hdevice port' hmatch)
    exact ⟨(htarget.known hhost hown).1, (htarget.known hhost hown).2.symm⟩
  · -- The row that a port left over gets for itself shows its own bus id.
    obtain ⟨port', hport', rfl⟩ := List.mem_map.mp hrow
    obtain ⟨hmem, hleft⟩ := List.mem_filter.mp hport'
    obtain rfl := eq_of_number hnumbers hmem hport (Option.some.inj hattached)
    have hbelongs := (Bool.and_eq_true_iff.mp hleft).2
    refine ⟨?_, ?_⟩
    · simpa [attachedPortBelongsToRemote, hhost] using hbelongs
    · change port'.remoteBusId.getD _ = busId
      rw [hown]
      rfl

/-- A row with a port is toggled by detaching this port. -/
theorem detaches_of_toggle {env : Environment} {tcpPort : UInt16} {row : RemoteUsbDeviceState}
    {e : Event Call.Answer} {number : Text} (hattached : row.attachedPort ≠ none)
    (he : e ∈ events env 0 (toggleRemoteDevice remote tcpPort row))
    (hdetach : e.1.Detaches number) : row.attachedPort = some number := by
  obtain ⟨own, hown⟩ := Option.ne_none_iff_exists'.mp hattached
  have hevents : ∀ e ∈ events env 0 (toggleRemoteDevice remote tcpPort row),
      e.1 = detachCall own := by
    have hprogram : toggleRemoteDevice remote tcpPort row
        = (detachPort own).andThen fun _ =>
            .ret (.ok ("Detached USB/IP port ".toList ++ own)) := by
      rw [toggleRemoteDevice, hown]
    have hdetach : (detachPort own).Calls fun c => c = detachCall own := calls_detachPort rfl
    rw [hprogram]
    exact (hdetach.andThen fun _ => calls_ret _).events env 0
  rw [hevents e he] at hdetach
  rw [hown, eq_of_detaches_detachCall hdetach]

/-! ## Toggling a row without a port -/

theorem attachedPort_deviceState_none :
    (deviceState remote ports device).attachedPort = none ↔
      ∀ port ∈ ports, shouldDetach port (attachTarget remote device) = false := by
  rw [deviceState, Option.map_eq_none_iff, List.find?_eq_none]
  simp only [portMatchesRemoteDevice_eq_shouldDetach, Bool.not_eq_true]

/-- A row without a port is that of a device of the list. -/
theorem device_of_row_without {row : RemoteUsbDeviceState}
    (hrow : row ∈ remoteDeviceStates remote devices ports) (hattached : row.attachedPort = none) :
    ∃ device ∈ uniqueRemoteDevices devices, deviceState remote ports device = row := by
  rw [remoteDeviceStates_eq] at hrow
  rcases List.mem_append.mp hrow with hrow | hrow
  · exact List.mem_map.mp hrow
  · obtain ⟨port, -, rfl⟩ := List.mem_map.mp hrow
    cases hattached

/-- What a read of the table detaches, the status file has shown. -/
theorem shownBy_of_resilient {env : Environment} {n : Nat} {status : Except Text Text}
    (hstatus : ∀ m, env m .readVhciStatus = status) {e : Event Call.Answer}
    (he : e ∈ events env n queryAttachedPortsResilient) {number : Text}
    (hdetach : e.1.Detaches number) : ShownBy status number := by
  cases h : readPortTable (env n portCall) with
  | ok listed =>
    rw [(resilient_of_ok h).1, List.mem_singleton] at he
    rw [he] at hdetach
    exact absurd hdetach (harmless_portCall number)
  | error err =>
    obtain ⟨m, hevents⟩ := resilient_of_error h
    rw [hevents] at he
    rcases List.mem_cons.mp he with rfl | he
    · exact absurd hdetach (harmless_portCall number)
    rcases List.mem_cons.mp he with rfl | he
    · exact absurd hdetach (harmless_readVhciStatus number)
    rcases List.mem_append.mp he with he | he
    · have hcalls : (detachEach (staleVhciPorts (env (n + 1) .readVhciStatus))).Calls
          fun c => ∀ p, c.Detaches p → ShownBy (env (n + 1) .readVhciStatus) p := by
        refine calls_detachEach (fun port hport p hp => ?_) (fun port hport shown hshown p hp => ?_)
        · exact ⟨port, hport, Or.inl (eq_of_detaches_detachCall hp).symm⟩
        · exact ⟨port, hport, Or.inr (eq_of_detaches_directDetachCall hp ▸ hshown)⟩
      rw [← hstatus (n + 1)]
      exact hcalls.events env _ e he number hdetach
    · rw [List.mem_singleton.mp he] at hdetach
      exact absurd hdetach (harmless_portCall number)

/-- A device without a port has none in any table of these ports, so nothing but the recovery
    detaches a port before the device is attached. -/
theorem shownBy_of_toggle {env : Environment} {tcpPort : UInt16} {status : Except Text Text}
    {row : RemoteUsbDeviceState} (hshows : Shows env ports status)
    (hattached : row.attachedPort = none)
    (hnone : ∀ port ∈ ports, shouldDetach port (attachTarget remote row.device) = false)
    {e : Event Call.Answer} (he : e ∈ events env 0 (toggleRemoteDevice remote tcpPort row))
    {number : Text} (hdetach : e.1.Detaches number) :
    row.occupiedBy = none ∧ ShownBy status number := by
  -- No table that is read shows a port to detach, so only the recovery can have done it.
  have hnothing : ∀ m, portsToDetach (unwrapOrDefault (readPortTable (env m portCall)))
      (attachTarget remote row.device) = [] := by
    intro m
    cases h : readPortTable (env m portCall) with
    | error err => rfl
    | ok listed =>
      rw [portsToDetach, unwrapOrDefault, List.map_eq_nil_iff, List.filter_eq_nil_iff]
      intro port hport
      rw [hnone port (hshows.table m listed h hport)]
      exact Bool.false_ne_true
  rw [toggleRemoteDevice, hattached] at he
  cases hoccupied : row.occupiedBy with
  | some client =>
    rw [hoccupied] at he
    cases he
  | none =>
    -- The attach itself detaches nothing.
    have hattach : ((attachRemoteDevice remote tcpPort row.device.busId).andThen
        fun _ => .ret (.ok ("Attached remote USB device ".toList ++ row.device.busId
          ++ " from ".toList ++ remote))).Calls Call.Harmless :=
      (calls_attachRemoteDevice remote tcpPort row.device.busId).andThen fun _ => trivial
    rw [hoccupied] at he
    dsimp only at he
    rw [Program.andThen, events_bind] at he
    rcases List.mem_append.mp he with he | he
    · obtain ⟨m, htable⟩ := result_resilient env 0
      rw [autoDetachMatchingPorts, events_bind, htable, hnothing] at he
      rcases List.mem_append.mp he with he | he
      · exact ⟨rfl, shownBy_of_resilient hshows.status he hdetach⟩
      · cases he
    · split at he
      · exact absurd hdetach (hattach.events env _ e he number)
      · cases he

include hnumbers in
theorem Distinguishable.rowsFaithful (hd : Distinguishable remote devices ports)
    {status : Except Text Text} (hspared : Spared remote devices ports status) :
    RowsFaithful remote devices ports status where
  shown port hport hbelongs :=
    Nat.le_antisymm (hd.once hnumbers port.port) (shown_pos hport hbelongs)
  once := hd.once hnumbers
  own _ hport _ hrow hattached _ hhost _ hown := hd.own hnumbers hport hrow hattached hhost hown
  toggle row hrow env tcpPort hshows e he port hport hdetach host hhost busId hown := by
    by_cases hattached : row.attachedPort = none
    · obtain ⟨device, hdevice, rfl⟩ := device_of_row_without hrow hattached
      have hnone := attachedPort_deviceState_none.mp hattached
      obtain ⟨hoccupied, hshown⟩ := shownBy_of_toggle hshows hattached hnone he hdetach
      rcases hspared with hall | hundecided
      · obtain ⟨taken, hmatch⟩ := hall device hdevice hoccupied
        exact absurd hattached (ne_of_eq_of_ne
          (attachedPort_deviceState_iff.mpr ⟨taken, hmatch, rfl⟩) (Option.some_ne_none _))
      · rcases hundecided port hport hshown with h | h
        · exact nomatch h.symm.trans hhost
        · exact nomatch h.symm.trans hown
    · exact hd.own hnumbers hport hrow (detaches_of_toggle hattached he hdetach) hhost hown

/-- Rows that show the ports faithfully tell what the devices have taken. -/
theorem RowsFaithful.distinguishable {status : Except Text Text}
    (h : RowsFaithful remote devices ports status) : Distinguishable remote devices ports where
  noTwin device hdevice port hmatch htwin := by
    obtain ⟨hhost, ⟨other, hother, hne⟩, -⟩ := htwin
    have hattached : (deviceState remote ports device).attachedPort = some port.port :=
      attachedPort_deviceState_iff.mpr ⟨port, hmatch, rfl⟩
    exact hne (h.own port hmatch.mem _ (deviceState_mem hdevice) hattached _ hhost other
      hother).2.symm
  alone device hdevice other hother hne port _ hmatch hmatch' := by
    have honce := h.once port.port
    rw [rowsOf_eq] at honce
    have hdevices := Nat.le_trans (Nat.le_add_right _ _) honce
    refine hne ((countP_le_one_iff (nodup_devices devices) _).mp hdevices device hdevice other
      hother ?_ ?_)
    · exact decide_eq_true (attachedPort_deviceState_iff.mpr ⟨port, hmatch, rfl⟩)
    · exact decide_eq_true (attachedPort_deviceState_iff.mpr ⟨port, hmatch', rfl⟩)

/-- `usbip port` fails, and so does `usbip detach` for one port; everything else works. -/
def failingFor (status : Except Text Text) (port : Text) : Environment := fun _ c =>
  match c with
  | .run program args =>
      if Call.run program args = portCall ∨ Call.run program args = detachCall port then .error []
      else .ok ⟨true, [], []⟩
  | .runInteractive _ _ => .ok true
  | .readVhciStatus => status
  | .readOccupancy _ => .error []
  | .selectOne _ _ _ => .error []
  | .acquireSessionLock _ _ => .ok ()
  | .dropSessionLock _ _ => ()
  | .println _ => ()

theorem readPortTable_failingFor (status : Except Text Text) (port : Text) (m : Nat) :
    ∃ err, readPortTable (failingFor status port m portCall) = .error err := ⟨_, rfl⟩

theorem detachPort_fails (status : Except Text Text) (port : Text) (n : Nat) :
    ∃ err, result (failingFor status port) n (detachPort port) = .error err := by
  have hresult : result (failingFor status port) n (detachPort port)
      = readDetach port (if detachCall port = portCall ∨ detachCall port = detachCall port
          then .error [] else .ok ⟨true, [], []⟩) := rfl
  rw [hresult, if_pos (Or.inr rfl)]
  exact ⟨_, rfl⟩

theorem detachPort_works (status : Except Text Text) {port first : Text} (h : first ≠ port)
    (n : Nat) : result (failingFor status port) n (detachPort first) = .ok () := by
  have hresult : result (failingFor status port) n (detachPort first)
      = readDetach first (if detachCall first = portCall ∨ detachCall first = detachCall port
          then .error [] else .ok ⟨true, [], []⟩) := rfl
  rw [hresult, if_neg]
  · rfl
  · rintro (heq | heq)
    · exact harmless_portCall first (heq ▸ detaches_detachCall first)
    · exact h (detachCall_inj heq)

theorem shows_failingFor (status : Except Text Text) (port : Text) :
    Shows (failingFor status port) ports status where
  table m listed h := by
    obtain ⟨err, herror⟩ := readPortTable_failingFor status port m
    rw [herror] at h
    cases h
  status _ := rfl

/-- The recovery comes to the port, and tries both ways to detach it. -/
theorem detachEach_reaches (status : Except Text Text) {port : Text} {shown : List Text}
    (h : port ∈ shown) {number : Text}
    (hnumber : number = port ∨ normalizedVhciPort port = .ok number) (n : Nat) :
    ∃ e ∈ events (failingFor status port) n (detachEach shown), e.1.Detaches number := by
  induction shown generalizing n with
  | nil => cases h
  | cons first rest ih =>
    have hlen : (events (failingFor status port) n (detachPort first)).length = 1 := rfl
    rw [detachEach, events_bind, hlen]
    by_cases hfirst : first = port
    · subst hfirst
      rcases hnumber with rfl | hnumber
      · exact ⟨_, List.mem_append_left _ List.mem_cons_self, detaches_detachCall number⟩
      · obtain ⟨err, hresult⟩ := detachPort_fails status first n
        refine ⟨⟨directDetachCall number, failingFor status first (n + 1) (directDetachCall number)⟩,
          List.mem_append_right _ ?_, Or.inr rfl⟩
        rw [hresult]
        dsimp only
        rw [directVhciDetachQuiet, hnumber, Program.andThen, events_bind]
        exact List.mem_append_left _ List.mem_cons_self
    · obtain ⟨e, he, hdetach⟩ := ih ((List.mem_cons.mp h).resolve_left (Ne.symm hfirst)) (n + 1)
      refine ⟨e, List.mem_append_right _ ?_, hdetach⟩
      rw [detachPort_works status hfirst n]
      exact he

/-- A row without a port detaches what the recovery comes to. -/
theorem toggle_reaches (status : Except Text Text) {row : RemoteUsbDeviceState} (tcpPort : UInt16)
    (hattached : row.attachedPort = none) (hoccupied : row.occupiedBy = none) {number port : Text}
    (hport : port ∈ staleVhciPorts status)
    (hnumber : number = port ∨ normalizedVhciPort port = .ok number) :
    ∃ e ∈ events (failingFor status port) 0 (toggleRemoteDevice remote tcpPort row),
      e.1.Detaches number := by
  obtain ⟨err, herror⟩ := readPortTable_failingFor status port 0
  obtain ⟨m, hevents⟩ := resilient_of_error herror
  obtain ⟨e, he, hdetach⟩ := detachEach_reaches status hport hnumber 2
  refine ⟨e, ?_, hdetach⟩
  rw [toggleRemoteDevice, hattached, hoccupied]
  dsimp only
  rw [Program.andThen, events_bind, autoDetachMatchingPorts, events_bind, hevents]
  refine List.mem_append_left _ (List.mem_append_left _ ?_)
  exact List.mem_cons_of_mem _ (List.mem_cons_of_mem _ (List.mem_append_left _ he))

theorem RowsFaithful.spared {status : Except Text Text}
    (h : RowsFaithful remote devices ports status) : Spared remote devices ports status := by
  by_contra hnot
  rw [Spared, not_or] at hnot
  obtain ⟨hall, hundecided⟩ := hnot
  push Not at hall hundecided
  obtain ⟨device, hdevice, hoccupied, hfree⟩ := hall
  obtain ⟨port, hport, ⟨shown, hshown, hnumber⟩, hknown⟩ := hundecided
  rw [AttachedUsbPort.Undecided, not_or] at hknown
  obtain ⟨host, hhost⟩ := Option.ne_none_iff_exists'.mp hknown.1
  obtain ⟨busId, hown⟩ := Option.ne_none_iff_exists'.mp hknown.2
  have hattached : (deviceState remote ports device).attachedPort = none := by
    by_contra hne
    obtain ⟨number, hsome⟩ := Option.ne_none_iff_exists'.mp hne
    obtain ⟨taken, hmatch, -⟩ := attachedPort_deviceState_iff.mp hsome
    exact hfree taken hmatch
  obtain ⟨e, he, hdetach⟩ : ∃ e ∈ events (failingFor status shown) 0
      (toggleRemoteDevice remote 0 (deviceState remote ports device)), e.1.Detaches port.port :=
    toggle_reaches status 0 hattached hoccupied hshown hnumber
  obtain ⟨rfl, hbus⟩ := h.toggle _ (deviceState_mem hdevice) _ 0 (shows_failingFor status shown) e
    he port hport hdetach host hhost busId hown
  -- A port of the remote with the bus id of the device would have been the device's.
  have hmatches : shouldDetach port (attachTarget host device) = true :=
    (shouldDetach_iff_isTarget_or_isTwin rfl).mpr
      (Or.inl (Or.inl ⟨hhost, hown.trans (congrArg some hbus.symm)⟩))
  rw [attachedPort_deviceState_none.mp hattached port hport] at hmatches
  cases hmatches

/-- **The exact condition**: every device can tell its port, and no port that is known to be
    another device's is in the way of one that has none. -/
theorem rowsFaithful_iff (remote : Text) (devices : List RemoteUsbDevice)
    (ports : List AttachedUsbPort) (status : Except Text Text)
    (hnumbers : (ports.map (·.port)).Nodup) :
    RowsFaithful remote devices ports status ↔
      Distinguishable remote devices ports ∧ Spared remote devices ports status :=
  ⟨fun h => ⟨h.distinguishable, h.spared⟩, fun ⟨hd, hspared⟩ => hd.rowsFaithful hnumbers hspared⟩

/-! ## Two adapters of one kind -/

def firstAdapter : RemoteUsbDevice := ⟨"1-1".toList, "CH340 (1a86:7523)".toList⟩

def otherAdapter : RemoteUsbDevice := ⟨"1-2".toList, "CH340 (1a86:7523)".toList⟩

/-- The port of the first adapter is in the row of the other one. -/
theorem adapters_not_faithful :
    ¬ RowsFaithful adapterServer [firstAdapter, otherAdapter] [firstAdapterPort] (.ok []) := by
  intro h
  have hdevice : otherAdapter ∈ uniqueRemoteDevices [firstAdapter, otherAdapter] := by decide
  have hmatch : FirstMatch adapterServer [firstAdapterPort] otherAdapter firstAdapterPort :=
    ⟨[], [], rfl, by decide, fun e he => nomatch he⟩
  have hattached := attachedPort_deviceState_iff.mpr ⟨firstAdapterPort, hmatch, rfl⟩
  have hown := h.own firstAdapterPort List.mem_cons_self _ (deviceState_mem hdevice) hattached
    adapterServer rfl "1-1".toList rfl
  revert hown
  decide

/-- The table has one port, and so no number twice. -/
theorem adapters_faithful_iff :
    RowsFaithful adapterServer [firstAdapter, otherAdapter] [firstAdapterPort] (.ok []) ↔
      Distinguishable adapterServer [firstAdapter, otherAdapter] [firstAdapterPort] ∧
        Spared adapterServer [firstAdapter, otherAdapter] [firstAdapterPort] (.ok []) :=
  rowsFaithful_iff adapterServer [firstAdapter, otherAdapter] [firstAdapterPort] (.ok [])
    (List.nodup_singleton _)

end Client
end Lusbip
