import Mathlib.Data.Char
import Mathlib.Data.Finset.Sort
import Mathlib.Data.List.Lex
import Lusbip.Client.Commands

/-!
# The background agent

The agent owns the ports it attaches for one remote. It answers the requests of the terminal one
after another, with the same `usbip` commands the client itself uses, and remembers the ports it has
attached, by their numbers, until it has detached them. `usbip attach` does not say which port a
device came to; the agent reads it off the row of the device.
-/

namespace Lusbip
namespace Agent

open Lib
open Lib.Fields
open Client

/-- The remote that an agent serves, with its port. -/
structure ClientEndpoint where
  remote : Text
  tcpPort : UInt16
  deriving DecidableEq, Repr

/-- `BTreeSet<String>` -/
abbrev PortSet := Finset Text

/-! ## Snapshots -/

/-- A row, as the agent tells it. -/
def rowItem (state : RemoteUsbDeviceState) : TuiItem where
  id := state.device.busId
  label := formatRemoteDeviceState state

/-- The rows, as the agent tells them. -/
def rowItems (endpoint : ClientEndpoint) (devices : List RemoteUsbDevice)
    (ports : List AttachedUsbPort) : List TuiItem :=
  (remoteDeviceStates endpoint.remote devices ports).map rowItem

/-- The rows, once both tables have been asked for. A server that does not answer is forgiven if
    something of it is attached. -/
def snapshotOf (endpoint : ClientEndpoint) (ports : List AttachedUsbPort) :
    Except Text (List RemoteUsbDevice) → Except Text (List TuiItem)
  | .ok devices => .ok (rowItems endpoint devices ports)
  | .error err =>
      if ports.any (attachedPortBelongsToRemote endpoint.remote) then
        .ok (rowItems endpoint [] ports)
      else .error err

/-- The rows, from the ports and the listing. The ports are asked first, and not by the resilient
    read. -/
def snapshot (endpoint : ClientEndpoint) : Command (Except Text (List TuiItem)) :=
  queryAttachedPorts.andThen fun ports =>
    (queryRemoteDevices endpoint.remote endpoint.tcpPort).bind fun devices =>
      .ret (snapshotOf endpoint ports devices)

/-- The port that a label tells of. -/
def attachedPortFromLabel (item : TuiItem) : Option Text := do
  let rest ← stripPrefix "[x] port ".toList item.label
  let (port, _) ← splitOnce " | ".toList rest
  some port

/-! ## Requests -/

/-- The port that is attached for the bus id, by its URL. -/
def matchingPort (endpoint : ClientEndpoint) (busId : Text) (ports : List AttachedUsbPort) :
    Option AttachedUsbPort :=
  ports.find? fun port =>
    port.remoteHost = some endpoint.remote && port.remoteBusId = some busId

/-- Detach a port, if the agent manages it. -/
def detachManaged (managedPorts : PortSet) (port : Text) : Command (ControlResponse × PortSet) :=
  if port ∉ managedPorts then
    .ret
      (.error ("USB/IP port ".toList ++ port
        ++ " is not managed by this background session".toList), managedPorts)
  else
    (detachPort port).bind fun
      | .ok _ => .ret (.message ("Detached USB/IP port ".toList ++ port), managedPorts.erase port)
      | .error err => .ret (.error err, managedPorts)

/-- The port that the row of the bus id shows. -/
def learnedPort (busId : Text) (items : List TuiItem) : Option Text :=
  (items.find? fun item => item.id = busId).bind attachedPortFromLabel

/-- What `toggle` makes of the rows after an attach. -/
def learn (endpoint : ClientEndpoint) (managedPorts : PortSet) (busId : Text) :
    Except Text (List TuiItem) → ControlResponse × PortSet
  | .ok items =>
      match learnedPort busId items with
      | some port =>
          (.message ("Attached remote USB device ".toList ++ busId ++ " from ".toList
            ++ endpoint.remote), insert port managedPorts)
      | none =>
          (.error ("Attached ".toList ++ busId
            ++ ", but could not identify its local USB/IP port".toList), managedPorts)
  | .error err => (.error err, managedPorts)

/-- A device is attached, and the port that a fresh snapshot has for it is taken down as one of the
    agent's own. -/
def attachAndLearn (endpoint : ClientEndpoint) (managedPorts : PortSet) (busId : Text) :
    Command (ControlResponse × PortSet) :=
  (attachRemoteDevice endpoint.remote endpoint.tcpPort busId).bind fun
    | .error err => .ret (.error err, managedPorts)
    | .ok _ =>
        (snapshot endpoint).bind fun items => .ret (learn endpoint managedPorts busId items)

/-- `toggle` on a row. -/
def toggleRow (endpoint : ClientEndpoint) (managedPorts : PortSet) (busId : Text)
    (selected : RemoteUsbDeviceState) : Command (ControlResponse × PortSet) :=
  match selected.attachedPort, selected.occupiedBy with
  | some port, _ => detachManaged managedPorts port
  | none, some client =>
      .ret (.error ("USB device ".toList ++ busId ++ " is occupied by ".toList ++ client),
        managedPorts)
  | none, none => attachAndLearn endpoint managedPorts busId

/-- The row that is toggled. -/
def selectedRow (endpoint : ClientEndpoint) (busId : Text) (devices : List RemoteUsbDevice)
    (ports : List AttachedUsbPort) : Option RemoteUsbDeviceState :=
  (remoteDeviceStates endpoint.remote devices ports).find? fun state =>
    state.device.busId = busId

/-- A `TOGGLE`: a device that is attached is detached, and any other one is attached. -/
def toggle (endpoint : ClientEndpoint) (managedPorts : PortSet) (busId : Text) :
    Command (ControlResponse × PortSet) :=
  queryAttachedPorts.bind fun
    | .error err => .ret (.error err, managedPorts)
    | .ok ports =>
        match matchingPort endpoint busId ports with
        | some port => detachManaged managedPorts port.port
        | none =>
            (queryRemoteDevices endpoint.remote endpoint.tcpPort).bind fun
              | .error err => .ret (.error err, managedPorts)
              | .ok devices =>
                  match selectedRow endpoint busId devices ports with
                  | none =>
                      .ret (.error "Selected USB device is no longer available".toList,
                        managedPorts)
                  | some selected => toggleRow endpoint managedPorts busId selected

/-- The loop of `shutdown`: the ports that are left, and the failures. -/
def shutdownEach (managedPorts : PortSet) (failures : List Text) :
    List Text → Command (PortSet × List Text)
  | [] => .ret (managedPorts, failures)
  | port :: ports =>
      (detachPort port).bind fun
        | .ok _ => shutdownEach (managedPorts.erase port) failures ports
        | .error err => shutdownEach managedPorts (failures ++ [port ++ ": ".toList ++ err]) ports

/-- A `SHUTDOWN`: all the ports that the agent has taken down are detached, in their order. -/
def shutdown (managedPorts : PortSet) : Command (Except Text Unit × PortSet) :=
  (shutdownEach managedPorts [] managedPorts.sort).bind fun (managedPorts, failures) =>
    if failures = [] then .ret (.ok (), managedPorts)
    else
      .ret
        (.error ("Could not detach managed USB/IP ports: ".toList
          ++ List.intercalate "; ".toList failures), managedPorts)

/-- Where the agent stands once a request is answered. -/
structure Answered where
  response : ControlResponse
  managedPorts : PortSet
  stop : Bool
  deriving DecidableEq

/-- One round of `run_background_agent`, up to the response. -/
def respond (endpoint : ClientEndpoint) (managedPorts : PortSet) :
    Except Text ControlRequest → Command Answered
  | .ok .status =>
      (snapshot endpoint).bind fun
        | .ok items => .ret { response := .snapshot items, managedPorts, stop := false }
        | .error err => .ret { response := .error err, managedPorts, stop := false }
  | .ok (.toggle busId) =>
      (toggle endpoint managedPorts busId).bind fun (response, managedPorts) =>
        .ret { response, managedPorts, stop := false }
  | .ok .shutdown =>
      (shutdown managedPorts).bind fun
        | (.ok _, managedPorts) =>
            .ret
              { response := .message
                  "Detached managed USB/IP ports and stopped background agent".toList
                managedPorts
                stop := true }
        | (.error err, managedPorts) =>
            .ret { response := .error err, managedPorts, stop := false }
  | .error err => .ret { response := .error err, managedPorts, stop := false }

/-- The contents of the status file. -/
def statusBody : Except Text (List TuiItem) → Text
  | .ok items => List.intercalate "\n".toList (items.map (·.label))
  | .error err => "Error: ".toList ++ err

/-- `write_snapshot(&endpoint, &snapshot(&endpoint))` -/
def writeSnapshot (endpoint : ClientEndpoint) : Command Text :=
  (snapshot endpoint).bind fun items => .ret (statusBody items)

end Agent
end Lusbip
