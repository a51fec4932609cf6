import Lusbip.Client.AgentRun
import Lusbip.Client.Rows

/-!
# Which port the row of a bus id shows

The agent finds the port of a bus id in two tables: what `usbip port` has listed, and what
`usbip list` has. Here it is said of the tables alone which port that is. Of a device of the list it
is the first port that matches the device, if only by its VID:PID. A bus id that is not on the list
has a row only if a port of the remote that no device has taken bears its name. After an attach the
number of the port is read back from the label of the row, which it is the first field of.
-/

namespace Lusbip
namespace Agent

open Lib
open Lib.Fields
open Client

variable {endpoint : ClientEndpoint} {remote busId number : Text} {devices : List RemoteUsbDevice}
  {ports : List AttachedUsbPort} {port : AttachedUsbPort}

/-- The port is the first of the table that is as asked for. -/
def IsFirst (ports : List AttachedUsbPort) (asked : AttachedUsbPort → Prop)
    (port : AttachedUsbPort) : Prop :=
  ∃ before after, ports = before ++ port :: after ∧ asked port ∧ ∀ earlier ∈ before, ¬ asked earlier

theorem find_eq_some_iff_isFirst {p : AttachedUsbPort → Bool} {asked : AttachedUsbPort → Prop}
    (hp : ∀ port, p port = true ↔ asked port) :
    ports.find? p = some port ↔ IsFirst ports asked port := by
  rw [List.find?_eq_some_iff_append, IsFirst]
  constructor
  · rintro ⟨hport, before, after, hports, hbefore⟩
    refine ⟨before, after, hports, (hp port).mp hport, fun earlier hearlier hasked => ?_⟩
    have hnot : (!p earlier) = true := hbefore earlier hearlier
    rw [(hp earlier).mpr hasked] at hnot
    cases hnot
  · rintro ⟨before, after, hports, hport, hbefore⟩
    refine ⟨(hp port).mpr hport, before, after, hports, fun earlier hearlier => ?_⟩
    rw [Bool.not_eq_true', ← Bool.not_eq_true, hp earlier]
    exact hbefore earlier hearlier

/-! ## The port that is listed for a bus id -/

/-- The table has the port down for the bus id of the remote. -/
def AttachedFor (remote busId : Text) (port : AttachedUsbPort) : Prop :=
  port.remoteHost = some remote ∧ port.remoteBusId = some busId

theorem matchingPort_iff :
    matchingPort endpoint busId ports = some port ↔
      IsFirst ports (AttachedFor endpoint.remote busId) port :=
  find_eq_some_iff_isFirst fun port => by
    rw [Bool.and_eq_true, decide_eq_true_eq, decide_eq_true_eq, AttachedFor]

/-- What holds of the port that is listed for a bus id is decided by looking for it. -/
def decidableFirst (endpoint : ClientEndpoint) (busId : Text) (ports : List AttachedUsbPort)
    (holds : Text → Prop) [DecidablePred holds] :
    Decidable (∀ port, IsFirst ports (AttachedFor endpoint.remote busId) port →
      holds port.port) :=
  decidable_of_iff (∀ port ∈ matchingPort endpoint busId ports, holds port.port)
    (forall_congr' fun _ => imp_congr_left matchingPort_iff)

/-! ## The port of a row -/

/-- The tables put the port into the row of the bus id: the bus id is on the list and this is the
    first port that matches its device, or it is not and this is the first port left for it. -/
inductive PutFor (remote : Text) (devices : List RemoteUsbDevice) (ports : List AttachedUsbPort)
    (busId : Text) (port : AttachedUsbPort) : Prop where
  | listed (device : RemoteUsbDevice) (hdevice : device ∈ uniqueRemoteDevices devices)
      (hbus : device.busId = busId) (hfirst : FirstMatch remote ports device port)
  | leftOver (hunlisted : ∀ device ∈ uniqueRemoteDevices devices, device.busId ≠ busId)
      (hfirst : IsFirst ports (LeftFor remote devices ports busId) port)

/-- The row of a bus id is that of its device, or of the first port left for it. -/
theorem selectedRow_eq :
    selectedRow endpoint busId devices ports =
      (((uniqueRemoteDevices devices).find? fun device => decide (device.busId = busId)).map
          (deviceState endpoint.remote ports)).or
        ((ports.find? fun port => leftover endpoint.remote devices ports port
          && decide ((leftoverState port).device.busId = busId)).map leftoverState) := by
  rw [selectedRow, remoteDeviceStates_eq, List.find?_append, List.find?_map, List.find?_map,
    List.find?_filter]
  congr 3
  funext port
  simp [Bool.decide_and]

/-- **The row of a bus id shows the port that the tables put there.** -/
theorem selectedPort_iff :
    (selectedRow endpoint busId devices ports).bind (·.attachedPort) = some number ↔
      ∃ port, PutFor endpoint.remote devices ports busId port ∧ port.port = number := by
  rw [selectedRow_eq]
  cases hfind : (uniqueRemoteDevices devices).find? fun device => decide (device.busId = busId) with
  | some device =>
    have hmem : device ∈ uniqueRemoteDevices devices := List.mem_of_find?_eq_some hfind
    have hbus : device.busId = busId := by
      have hfound := List.find?_some hfind
      exact of_decide_eq_true hfound
    rw [Option.map_some, Option.some_or, Option.bind_some, attachedPort_deviceState_iff]
    refine exists_congr fun port => and_congr_left fun _ => ?_
    constructor
    · intro hfirst
      exact PutFor.listed device hmem hbus hfirst
    · intro hput
      cases hput with
      | listed other hother hbus' hfirst =>
        -- A bus id is on the list once.
        obtain rfl := List.inj_on_of_nodup_map (nodup_uniqueRemoteDevices devices) hmem hother
          (hbus.trans hbus'.symm)
        exact hfirst
      | leftOver hunlisted hfirst => exact absurd hbus (hunlisted device hmem)
  | none =>
    have hunlisted : ∀ device ∈ uniqueRemoteDevices devices, device.busId ≠ busId := by
      intro device hdevice hbus
      exact List.find?_eq_none.mp hfind device hdevice (decide_eq_true hbus)
    have hleft : ∀ port, PutFor endpoint.remote devices ports busId port ↔
        IsFirst ports (LeftFor endpoint.remote devices ports busId) port := by
      intro port
      constructor
      · intro hput
        cases hput with
        | listed device hdevice hbus hfirst => exact absurd hbus (hunlisted device hdevice)
        | leftOver _ hfirst => exact hfirst
      · exact PutFor.leftOver hunlisted
    rw [Option.map_none, Option.none_or, Option.bind_map]
    simp only [hleft, ← find_eq_some_iff_isFirst fun port => leftFor_iff]
    rw [Option.bind_eq_some_iff]
    exact exists_congr fun port => and_congr_right fun _ =>
      ⟨fun h => Option.some.inj h, fun h => congrArg some h⟩

/-- What holds of the port of a row is what holds of the port the tables put there. -/
theorem forall_selectedPort_iff {holds : Text → Prop} :
    (∀ number ∈ (selectedRow endpoint busId devices ports).bind (·.attachedPort), holds number) ↔
      ∀ port, PutFor endpoint.remote devices ports busId port → holds port.port := by
  constructor
  · exact fun h port hput => h port.port (selectedPort_iff.mpr ⟨port, hput, rfl⟩)
  · intro h number hnumber
    obtain ⟨port, hput, rfl⟩ := selectedPort_iff.mp hnumber
    exact h port hput

/-- What holds of the port in the row of a bus id is decided by looking at the row. -/
def decidablePut (endpoint : ClientEndpoint) (busId : Text) (devices : List RemoteUsbDevice)
    (ports : List AttachedUsbPort) (holds : Text → Prop) [DecidablePred holds] :
    Decidable (∀ port, PutFor endpoint.remote devices ports busId port → holds port.port) :=
  decidable_of_iff
    (∀ number ∈ (selectedRow endpoint busId devices ports).bind (·.attachedPort), holds number)
    forall_selectedPort_iff

instance (endpoint : ClientEndpoint) (busId number : Text) (devices : List RemoteUsbDevice)
    (ports : List AttachedUsbPort) :
    Decidable (∃ port, PutFor endpoint.remote devices ports busId port ∧ port.port = number) :=
  decidable_of_iff _ selectedPort_iff

/-! ## The port that is read back -/

/-- The first bar of a label is behind the number. -/
def Unbarred (number : Text) : Prop := ¬ " | ".toList <:+: number ++ " |".toList

instance (number : Text) : Decidable (Unbarred number) :=
  inferInstanceAs (Decidable (¬ _ <:+: _))

/-- The devices of a snapshot: those of the list, or none if the server does not answer and
    something of it is attached. -/
def snapshotDevices (remote : Text) (ports : List AttachedUsbPort) :
    Except Text (List RemoteUsbDevice) → Option (List RemoteUsbDevice)
  | .ok devices => some devices
  | .error _ => if ports.any (attachedPortBelongsToRemote remote) then some [] else none

/-- A snapshot shows the rows of its devices. -/
theorem snapshotOf_eq_ok_iff {listing : Except Text (List RemoteUsbDevice)} {items : List TuiItem} :
    snapshotOf endpoint ports listing = .ok items ↔
      ∃ devices, snapshotDevices endpoint.remote ports listing = some devices ∧
        items = rowItems endpoint devices ports := by
  cases listing with
  | ok devices =>
    simp only [snapshotOf, snapshotDevices, Except.ok.injEq, Option.some.injEq, exists_eq_left']
    exact eq_comm
  | error err =>
    simp only [snapshotOf, snapshotDevices]
    split
    · simp only [Except.ok.injEq, Option.some.injEq, exists_eq_left']
      exact eq_comm
    · simp

theorem learnedPort_rowItems :
    learnedPort busId (rowItems endpoint devices ports) =
      (selectedRow endpoint busId devices ports).bind fun row =>
        attachedPortFromLabel (rowItem row) := by
  rw [learnedPort, rowItems, List.find?_map, Option.bind_map]
  rfl

/-- A row without a port says so. -/
theorem attachedPortFromLabel_of_none {row : RemoteUsbDeviceState} (h : row.attachedPort = none) :
    attachedPortFromLabel (rowItem row) = none := by
  simp only [attachedPortFromLabel, rowItem, formatRemoteDeviceState, h]
  cases row.occupiedBy with
  | none => rfl
  | some client => rfl

/-- A number in front of the first bar of its label is read back. -/
theorem attachedPortFromLabel_of_some {row : RemoteUsbDeviceState}
    (h : row.attachedPort = some number) (hbar : Unbarred number) :
    attachedPortFromLabel (rowItem row) = some number := by
  have hlabel : (rowItem row).label = "[x] port ".toList ++
      (number ++ " | ".toList ++ (row.device.busId ++ " | ".toList ++ row.device.description)) := by
    simp [rowItem, formatRemoteDeviceState, h]
  have hsplit := splitOnce_of_not_within (by decide) hbar
    (row.device.busId ++ " | ".toList ++ row.device.description)
  rw [attachedPortFromLabel, hlabel, stripPrefix_append, Option.bind_eq_bind, Option.bind_some,
    hsplit]
  rfl

/-- After an attach the agent reads the number of the port that the tables put into the row. -/
theorem learnedPort_of_putFor (h : PutFor endpoint.remote devices ports busId port)
    (hbar : Unbarred port.port) :
    learnedPort busId (rowItems endpoint devices ports) = some port.port := by
  obtain ⟨row, hrow, hport⟩ := Option.bind_eq_some_iff.mp (selectedPort_iff.mpr ⟨port, h, rfl⟩)
  rw [learnedPort_rowItems, hrow, Option.bind_some]
  exact attachedPortFromLabel_of_some hport hbar

/-- What it reads is the number of a port that the tables put there. -/
theorem putFor_of_learnedPort
    (h : learnedPort busId (rowItems endpoint devices ports) = some number) :
    ∃ port, PutFor endpoint.remote devices ports busId port ∧
      (Unbarred port.port → port.port = number) := by
  rw [learnedPort_rowItems] at h
  obtain ⟨row, hrow, hlabel⟩ := Option.bind_eq_some_iff.mp h
  cases hport : row.attachedPort with
  | none =>
    rw [attachedPortFromLabel_of_none hport] at hlabel
    cases hlabel
  | some shown =>
    have hselected : (selectedRow endpoint busId devices ports).bind (·.attachedPort)
        = some shown := by rw [hrow, Option.bind_some, hport]
    obtain ⟨port, hput, rfl⟩ := selectedPort_iff.mp hselected
    refine ⟨port, hput, fun hbar => ?_⟩
    rw [attachedPortFromLabel_of_some hport hbar] at hlabel
    exact Option.some.inj hlabel

end Agent
end Lusbip
