import Lusbip.Client.Tables

/-!
# Which port belongs to which device

A port that is attached says where it came from with different certainty: its line in the table may
lack the URL, and then only the VID:PID is left. The client compares ports with devices in two
places, once to find the ports that are in the way of an attach and once to put the ports into the
rows of the devices, and both take a VID:PID for a sign of identity.
-/

namespace Lusbip
namespace Client

open Lib
open Lib.Fields

/-! ## Ports in the way of an attach -/

def shouldDetach (port : AttachedUsbPort) (target : AttachTarget) : Bool :=
  let busMatches := target.busId.any fun busId => port.remoteBusId = some busId
  let vidPidMatches := target.vidPid.any fun vidPid => port.vidPid = some (toAsciiLowercase vidPid)
  if port.remoteHost ≠ some target.remoteHost then port.remoteHost.isNone && vidPidMatches
  else if target.busId = none ∧ target.vidPid = none then true
  else busMatches || vidPidMatches

def portsToDetach (ports : List AttachedUsbPort) (target : AttachTarget) : List Text :=
  (ports.filter fun port => shouldDetach port target).map (·.port)

/-! ## The rows -/

def portMatchesRemoteDevice (remote : Text) (device : RemoteUsbDevice) (vidPid : Option Text)
    (port : AttachedUsbPort) : Bool :=
  let hostBusMatches := port.remoteHost = some remote && port.remoteBusId = some device.busId
  let vidPidMatches :=
    match vidPid, port.vidPid with
    | some deviceVidPid, some portVidPid => decide (deviceVidPid = portVidPid)
    | _, _ => false
  let hostVidPidMatches := port.remoteHost = some remote && vidPidMatches
  let unknownHostVidPidMatches := port.remoteHost.isNone && vidPidMatches
  hostBusMatches || hostVidPidMatches || unknownHostVidPidMatches

def attachedPortBelongsToRemote (remote : Text) (port : AttachedUsbPort) : Bool :=
  port.remoteHost = some remote || (port.remoteHost.isNone && port.vidPid.isSome)

def attachedPortDescription (port : AttachedUsbPort) : Text :=
  match port.vidPid with
  | some vidPid => "Attached USB/IP device (".toList ++ vidPid ++ ")".toList
  | none => "Attached USB/IP device".toList

/-- The row of a device of the list. -/
def deviceState (remote : Text) (ports : List AttachedUsbPort) (device : RemoteUsbDevice) :
    RemoteUsbDeviceState where
  device := device
  attachedPort :=
    (ports.find? fun port =>
      portMatchesRemoteDevice remote device (extractVidPid device.description) port).map (·.port)
  occupiedBy := extractOccupiedBy device.description

/-- The row of a port that no device of the list has. -/
def leftoverState (port : AttachedUsbPort) : RemoteUsbDeviceState where
  device :=
    { busId := port.remoteBusId.getD ("attached-port-".toList ++ port.port)
      description := attachedPortDescription port }
  attachedPort := some port.port
  occupiedBy := none

def remoteDeviceStates (remote : Text) (devices : List RemoteUsbDevice)
    (ports : List AttachedUsbPort) : List RemoteUsbDeviceState :=
  let states := (uniqueRemoteDevices devices).map (deviceState remote ports)
  let usedPorts := states.filterMap (·.attachedPort)
  states ++
    (ports.filter fun port =>
      !usedPorts.contains port.port && attachedPortBelongsToRemote remote port).map leftoverState

/-- The label of a row. -/
def formatRemoteDeviceState (state : RemoteUsbDeviceState) : Text :=
  let status :=
    match state.attachedPort, state.occupiedBy with
    | some port, _ => "[x] port ".toList ++ port
    | none, some client => "[!] locked by ".toList ++ client
    | none, none => "[ ]".toList
  status ++ " | ".toList ++ state.device.busId ++ " | ".toList ++ state.device.description

/-! ## What the comparisons come down to -/

/-- The VID:PID of a target, as it is looked for. -/
def AttachTarget.HasVidPid (target : AttachTarget) (vidPid : Text) : Prop :=
  ∃ v ∈ target.vidPid, vidPid = toAsciiLowercase v

theorem shouldDetach_iff {port : AttachedUsbPort} {target : AttachTarget} {busId : Text}
    (hbus : target.busId = some busId) :
    shouldDetach port target = true ↔
      (port.remoteHost = some target.remoteHost ∧
          (port.remoteBusId = some busId ∨ ∃ v ∈ port.vidPid, target.HasVidPid v)) ∨
        (port.remoteHost = none ∧ ∃ v ∈ port.vidPid, target.HasVidPid v) := by
  have hvid : (target.vidPid.any fun v => decide (port.vidPid = some (toAsciiLowercase v))) = true
      ↔ ∃ v ∈ port.vidPid, target.HasVidPid v := by
    simp only [Option.any_eq_true, decide_eq_true_eq, AttachTarget.HasVidPid, Option.mem_def]
    constructor
    · rintro ⟨v, hv, hp⟩
      exact ⟨_, hp, v, hv, rfl⟩
    · rintro ⟨_, hp, v, hv, rfl⟩
      exact ⟨v, hv, hp⟩
  unfold shouldDetach
  simp only [hbus, Option.any_some]
  split_ifs with hhost hboth
  · rw [Bool.and_eq_true, hvid, Option.isNone_iff_eq_none]
    tauto
  · cases hboth.1
  · rw [Bool.or_eq_true, decide_eq_true_eq, hvid]
    have hhost := not_not.mp hhost
    simp [hhost]

/-- A port matches a device of the list if it was attached for it, or if it looks like it and is
    not known to be elsewhere. -/
theorem portMatchesRemoteDevice_iff {remote : Text} {device : RemoteUsbDevice}
    {vidPid : Option Text} {port : AttachedUsbPort} :
    portMatchesRemoteDevice remote device vidPid port = true ↔
      (port.remoteHost = some remote ∧ port.remoteBusId = some device.busId) ∨
        ((port.remoteHost = some remote ∨ port.remoteHost = none) ∧
          ∃ v ∈ vidPid, port.vidPid = some v) := by
  have hvid : (match vidPid, port.vidPid with
      | some deviceVidPid, some portVidPid => decide (deviceVidPid = portVidPid)
      | _, _ => false) = true ↔ ∃ v ∈ vidPid, port.vidPid = some v := by
    cases vidPid with
    | none => simp
    | some v =>
      cases port.vidPid with
      | none => simp
      | some w => simp [eq_comm]
  unfold portMatchesRemoteDevice
  simp only [Bool.or_eq_true, Bool.and_eq_true, decide_eq_true_eq, hvid, Option.isNone_iff_eq_none]
  rw [or_and_right, or_assoc]

end Client
end Lusbip
