import Lusbip.Lib.Program
import Lusbip.Client.Control
import Lusbip.Client.Matching
import Lusbip.Client.Occupancy

/-!
# The commands of the client

What the client does, it does by running `usbip` and `sudo` and by reading what they print. A
function of the client is a program over these calls: the commands, the status file of the kernel's
virtual host controller, the occupancy port of the server, the selection list on the screen, the
session lock and the lines it prints. Whether a command fails, times out or prints something
unexpected is up to its answer.
-/

namespace Lusbip
namespace Client

open Lib
open Lib.Fields
open Agent (TuiItem)

/-- `std::process::Output`, the streams as `from_utf8_lossy` reads them. -/
structure Output where
  success : Bool
  stdout : Text
  stderr : Text
  deriving DecidableEq, Repr

/-- What a function of the client asks of its surroundings. The paths and the addresses are those of
    the source; what comes back is `Call.Answer`. -/
inductive Call where
  /-- `CommandRunner::run` -/
  | run (program : Text) (args : List Text)
  /-- `CommandRunner::run_interactive` -/
  | runInteractive (program : Text) (args : List Text)
  /-- `read_to_string(VHCI_STATUS_PATH)` -/
  | readVhciStatus
  /-- A connection to the occupancy port, read to its end. -/
  | readOccupancy (addr : Text)
  | selectOne (title : Text) (items : List TuiItem) (help : Text)
  | acquireSessionLock (remote : Text) (tcpPort : UInt16)
  | dropSessionLock (remote : Text) (tcpPort : UInt16)
  | println (line : Text)
  deriving DecidableEq, Repr

/-- What comes back: an error with its text, or a value. -/
@[reducible] def Call.Answer : Call → Type
  | .run _ _ => Except Text Output
  | .runInteractive _ _ => Except Text Bool
  | .readVhciStatus => Except Text Text
  | .readOccupancy _ => Except Text Text
  | .selectOne _ items _ => Except Text (Fin items.length)
  | .acquireSessionLock _ _ => Except Text Unit
  | .dropSessionLock _ _ => Unit
  | .println _ => Unit

/-- A computation of the client. -/
abbrev Command := Program Call.Answer

/-- Make one call, and look at the answer. -/
def ask {α : Type} (c : Call) (f : c.Answer → α) : Command α := .call c fun r => .ret (f r)

/-- The lines are printed one after the other. -/
def printAll : List Text → Command Unit
  | [] => .ret ()
  | line :: lines => .call (.println line) fun _ => printAll lines

/-- Whether there is a value, and no error. -/
def isOk {ε α : Type} : Except ε α → Bool
  | .ok _ => true
  | .error _ => false

/-! ## `usbip list` and `usbip port` -/

/-- `usbip --tcp-port PORT list -r REMOTE` -/
def listCall (remote : Text) (tcpPort : UInt16) : Call :=
  .run "usbip".toList
    ["--tcp-port".toList, decimal tcpPort.toNat, "list".toList, "-r".toList, remote]

/-- What `query_remote_devices` makes of the output: the listing, if the command says that it
    succeeded. -/
def readDeviceList : Except Text Output → Except Text (List RemoteUsbDevice)
  | .error err => .error ("Failed to execute usbip list: ".toList ++ err)
  | .ok output =>
      if output.success then .ok (parseUsbipListOutput output.stdout)
      else .error ("usbip list failed: ".toList ++ output.stderr)

/-- The devices that the remote exports, as `usbip list` tells them. -/
def queryRemoteDevices (remote : Text) (tcpPort : UInt16) :
    Command (Except Text (List RemoteUsbDevice)) :=
  ask (listCall remote tcpPort) readDeviceList

/-- `usbip port` -/
def portCall : Call := .run "usbip".toList ["port".toList]

/-- What `query_attached_ports` makes of the output. A command that fails leaves the hint at the
    doctor. -/
def readPortTable : Except Text Output → Except Text (List AttachedUsbPort)
  | .error err => .error ("Failed to execute usbip port: ".toList ++ err)
  | .ok output =>
      if output.success then .ok (parseUsbipPortOutput output.stdout)
      else
        .error ("usbip port failed: ".toList ++ output.stderr
          ++ "\nRun `lusbip doctor --fix` to reload vhci-hcd and detach stale USB/IP ports.".toList)

/-- The ports that `usbip port` lists. -/
def queryAttachedPorts : Command (Except Text (List AttachedUsbPort)) := ask portCall readPortTable

/-! ## Attaching and detaching -/

/-- `sudo -n usbip detach -p PORT` -/
def detachCall (port : Text) : Call :=
  .run "sudo".toList ["-n".toList, "usbip".toList, "detach".toList, "-p".toList, port]

/-- What `detach_port` makes of the output: nothing of it is read but whether it succeeded. -/
def readDetach (port : Text) : Except Text Output → Except Text Unit
  | .error err =>
      .error ("Failed to execute usbip detach for port ".toList ++ port ++ ": ".toList ++ err)
  | .ok output =>
      if output.success then .ok ()
      else
        .error ("Failed to detach USB/IP port ".toList ++ port ++ ": ".toList ++ output.stderr
          ++ output.stdout)

/-- One port is detached, by its number as a text. -/
def detachPort (port : Text) : Command (Except Text Unit) := ask (detachCall port) (readDetach port)

/-- `sudo -n usbip --tcp-port PORT attach -r REMOTE -b BUSID` -/
def attachCall (remote : Text) (tcpPort : UInt16) (busId : Text) : Call :=
  .run "sudo".toList
    ["-n".toList, "usbip".toList, "--tcp-port".toList, decimal tcpPort.toNat, "attach".toList,
      "-r".toList, remote, "-b".toList, busId]

/-- What `attach_remote_device` makes of the output. An error has both streams, without a blank
    between them. -/
def readAttach : Except Text Output → Except Text Unit
  | .error err => .error ("Failed to execute usbip attach: ".toList ++ err)
  | .ok output =>
      if output.success then .ok ()
      else .error ("usbip attach failed: ".toList ++ output.stderr ++ output.stdout)

/-- A device of the remote is attached, at whatever port the kernel chooses. -/
def attachRemoteDevice (remote : Text) (tcpPort : UInt16) (busId : Text) :
    Command (Except Text Unit) :=
  ask (attachCall remote tcpPort busId) readAttach

/-! ## Recovery -/

/-- `{port:02}` -/
def paddedPort (port : Nat) : Text := if port < 10 then '0' :: decimal port else decimal port

/-- A line of the kernel's status file: the port, if one is attached there. The heading is left out,
    and so are lines with fewer fields. -/
def parseVhciStatusLine (line : Text) : Option Text :=
  match words line with
  | first :: port :: state :: _ :: _ :: localBusid :: _ =>
      if first = "hub".toList then none
      else if state = "004".toList ∨ localBusid = "0-0".toList then none
      else (parseUnsigned 65536 port).map paddedPort
  | _ => none

/-- The ports that are in use according to the kernel's status file. -/
def parseVhciStatusPorts (status : Text) : List Text :=
  (lines status).filterMap parseVhciStatusLine

/-- `stale_vhci_ports`, of what the status file was read as. -/
def staleVhciPorts : Except Text Text → List Text
  | .ok status => parseVhciStatusPorts status
  | .error _ => []

/-- The number without its zeros in front, as the kernel wants to have it. -/
def normalizedVhciPort (port : Text) : Except Text Text :=
  match parseUnsigned 65536 port with
  | some port => .ok (decimal port)
  | none => .error ("Invalid VHCI port ".toList ++ port)

/-- The write into the kernel's `detach` file, as a shell does it. -/
def directDetachCall (port : Text) : Call :=
  .runInteractive "sudo".toList
    ["-n".toList, "sh".toList, "-c".toList,
      "printf '".toList ++ port ++ "' > /sys/devices/platform/vhci_hcd.0/detach".toList]

/-- What `direct_vhci_detach_quiet` makes of the status of the shell. -/
def readDirectDetach (port : Text) : Except Text Bool → Except Text Unit
  | .error err => .error ("Failed to detach VHCI port ".toList ++ port ++ ": ".toList ++ err)
  | .ok true => .ok ()
  | .ok false => .error ("Failed to detach VHCI port ".toList ++ port)

/-- A port is detached behind the back of `usbip`, by a number that is written into the kernel's own
    file. -/
def directVhciDetachQuiet (port : Text) : Command (Except Text Unit) :=
  match normalizedVhciPort port with
  | .error err => .ret (.error err)
  | .ok port => ask (directDetachCall port) (readDirectDetach port)

/-- The loop of `detach_stale_vhci_ports_quiet`. -/
def detachEach : List Text → Command (Except Text Unit)
  | [] => .ret (.ok ())
  | port :: ports =>
      (detachPort port).bind fun
        | .ok _ => detachEach ports
        | .error _ => (directVhciDetachQuiet port).andThen fun _ => detachEach ports

/-- Every port that is in use is detached, whoever attached it. The recovery of the resilient read.
    -/
def detachStaleVhciPortsQuiet : Command (Except Text Unit) :=
  .call .readVhciStatus fun status => detachEach (staleVhciPorts status)

/-- The list, or none at all. -/
def unwrapOrDefault {ε α : Type} : Except ε (List α) → List α
  | .ok xs => xs
  | .error _ => []

/-- The ports that are listed; where the command fails, everything is detached first, and the second
    answer counts, an error as an empty list. -/
def queryAttachedPortsResilient : Command (List AttachedUsbPort) :=
  queryAttachedPorts.bind fun
    | .ok ports => .ret ports
    | .error _ =>
        detachStaleVhciPortsQuiet.bind fun _ =>
          queryAttachedPorts.bind fun ports => .ret (unwrapOrDefault ports)

/-- The loop of `auto_detach_matching_ports`: the first failure ends it. -/
def detachAll : List Text → Command (Except Text Unit)
  | [] => .ret (.ok ())
  | port :: ports => (detachPort port).andThen fun _ => detachAll ports

/-- The ports on which the same device may be attached already are detached before an attach. -/
def autoDetachMatchingPorts (target : AttachTarget) : Command (Except Text Unit) :=
  queryAttachedPortsResilient.bind fun ports => detachAll (portsToDetach ports target)

/-! ## Looking -/

/-- A field that `usbip port` did not tell. -/
def unknownText (field : Option Text) : Text := field.getD "unknown".toList

/-- A port, as `lusbip status` prints it. -/
def statusPortLine (port : AttachedUsbPort) : Text :=
  "  Port ".toList ++ port.port ++ " | host: ".toList ++ unknownText port.remoteHost
    ++ " | bus: ".toList ++ unknownText port.remoteBusId ++ " | vid:pid: ".toList
    ++ unknownText port.vidPid

/-- A device of the remote, as `lusbip status` prints it. -/
def statusDeviceLine (device : RemoteUsbDevice) : Text :=
  "  ".toList ++ device.busId ++ " | ".toList ++ device.description

/-- The lines of a list, or that it has none. -/
def orNone (lines : List Text) : List Text := if lines = [] then ["  (none)".toList] else lines

/-- `lusbip status`: the attached ports, and with a remote its listing as well. The read of the
    ports is the resilient one, which may detach. -/
def runStatus (remote : Option Text) (tcpPort : UInt16) : Command (Except Text Unit) :=
  queryAttachedPortsResilient.bind fun ports =>
    (printAll ("Attached USB/IP ports:".toList :: orNone (ports.map statusPortLine))).bind fun _ =>
      match remote with
      | none => .ret (.ok ())
      | some remote =>
          (printAll
            [[], "Exportable devices on ".toList ++ remote ++ ":".toList ++ decimal tcpPort.toNat
              ++ ":".toList]).bind fun _ =>
            (queryRemoteDevices remote tcpPort).andThen fun devices =>
              (printAll (orNone (devices.map statusDeviceLine))).bind fun _ => .ret (.ok ())

/-- The address of the occupancy port. -/
def occupancyAddr (remote : Text) (tcpPort : UInt16) : Text :=
  remote ++ ":".toList ++ decimal (tcpPort.toNat + 1)

/-- `query_remote_occupancy(..).unwrap_or_default()` -/
def queryRemoteOccupancy (remote : Text) (tcpPort : UInt16) : Command (Text → Option Text) :=
  if tcpPort.toNat + 1 < 65536 then
    ask (.readOccupancy (occupancyAddr remote tcpPort)) fun
      | .ok status => parseRemoteOccupancyStatus status
      | .error _ => fun _ => none
  else .ret fun _ => none

/-- The rows of the remote: its listing with the ports of this machine, and who has the others. -/
def loadRemoteDeviceStates (remote : Text) (tcpPort : UInt16) :
    Command (Except Text (List RemoteUsbDeviceState)) :=
  (queryRemoteDevices remote tcpPort).andThen fun devices =>
    queryAttachedPortsResilient.bind fun ports =>
      (queryRemoteOccupancy remote tcpPort).bind fun occupancy =>
        .ret (.ok (applyRemoteOccupancy (remoteDeviceStates remote devices ports) occupancy))

/-- The end of `load_remote_device_states_cached`, with the devices in the cache. -/
def cachedStates (remote : Text) (tcpPort : UInt16) (ports : List AttachedUsbPort)
    (cachedDevices : List RemoteUsbDevice) :
    Command (Except Text (List RemoteUsbDeviceState) × List RemoteUsbDevice) :=
  (queryRemoteOccupancy remote tcpPort).bind fun occupancy =>
    .ret
      (.ok (applyRemoteOccupancy (remoteDeviceStates remote cachedDevices ports) occupancy),
        cachedDevices)

/-- The rows, and the cache as it is left. -/
def loadRemoteDeviceStatesCached (remote : Text) (tcpPort : UInt16)
    (cachedDevices : List RemoteUsbDevice) :
    Command (Except Text (List RemoteUsbDeviceState) × List RemoteUsbDevice) :=
  queryAttachedPortsResilient.bind fun ports =>
    if cachedDevices = [] ∨
        ∀ state ∈ remoteDeviceStates remote cachedDevices ports, state.attachedPort = none then
      (queryRemoteDevices remote tcpPort).bind fun
        | .ok devices => cachedStates remote tcpPort ports devices
        | .error err =>
            if ports.any (attachedPortBelongsToRemote remote) then
              cachedStates remote tcpPort ports cachedDevices
            else .ret (.error err, cachedDevices)
    else cachedStates remote tcpPort ports cachedDevices

/-! ## Acting -/

/-- What an attach of a device is to make room for. -/
def attachTarget (remote : Text) (selected : RemoteUsbDevice) : AttachTarget where
  remoteHost := remote
  busId := some selected.busId
  vidPid := extractVidPid selected.description

/-- What the space bar does to a row: a device with a port is detached, one that somebody else has
    is refused, and any other one is attached. -/
def toggleRemoteDevice (remote : Text) (tcpPort : UInt16) (selected : RemoteUsbDeviceState) :
    Command (Except Text Text) :=
  match selected.attachedPort, selected.occupiedBy with
  | some port, _ =>
      (detachPort port).andThen fun _ => .ret (.ok ("Detached USB/IP port ".toList ++ port))
  | none, some client =>
      .ret (.error ("USB device ".toList ++ selected.device.busId ++ " is occupied by ".toList
        ++ client))
  | none, none =>
      (autoDetachMatchingPorts (attachTarget remote selected.device)).andThen fun _ =>
        (attachRemoteDevice remote tcpPort selected.device.busId).andThen fun _ =>
          .ret (.ok ("Attached remote USB device ".toList ++ selected.device.busId
            ++ " from ".toList ++ remote))

/-- The user chooses one of the devices from a list on the screen. -/
def selectRemoteDevice (remote : Text) (devices : List RemoteUsbDevice) :
    Command (Except Text RemoteUsbDevice) :=
  if devices = [] then
    .ret (.error ("No exportable USB devices found on ".toList ++ remote))
  else
    let items := devices.map fun device : RemoteUsbDevice =>
      ({ id := device.busId
         label := device.busId ++ " | ".toList ++ device.description } : TuiItem)
    ask
      (.selectOne ("LUSBIP - Attach remote USB device (".toList ++ remote ++ ")".toList) items
        "Enter select | Esc cancel | j/k or arrows navigate".toList)
      fun
        | .error err => .error err
        | .ok index => .ok (devices.get (index.cast (List.length_map _)))

/-- The device of a bus id given on the command line: the server need not list it. -/
def deviceOfBusId (devices : List RemoteUsbDevice) (busId : Text) : RemoteUsbDevice :=
  (devices.find? fun device => device.busId = busId).getD
    { busId, description := "selected by command line".toList }

/-- The device `run_attach` is about, among those the server lists. -/
def chooseDevice (remote : Text) (devices : List RemoteUsbDevice) :
    Option Text → Command (Except Text RemoteUsbDevice)
  | some busId => .ret (.ok (deviceOfBusId devices busId))
  | none => selectRemoteDevice remote devices

/-- The device that is meant: the one with the bus id that was given, or the one that the user
    selects. -/
def selectedDevice (remote : Text) (tcpPort : UInt16) (busId : Option Text) :
    Command (Except Text RemoteUsbDevice) :=
  (queryRemoteDevices remote tcpPort).andThen fun devices => chooseDevice remote devices busId

/-- `run_attach` while it has the session lock. -/
def attachSelected (remote : Text) (tcpPort : UInt16) (busId : Option Text) :
    Command (Except Text Unit) :=
  (selectedDevice remote tcpPort busId).andThen fun selected =>
    (autoDetachMatchingPorts (attachTarget remote selected)).andThen fun _ =>
      (attachRemoteDevice remote tcpPort selected.busId).andThen fun _ =>
        ask
          (.println ("Attached remote USB device ".toList ++ selected.busId ++ " from ".toList
            ++ remote ++ ". Check `lsusb` or `usbip port`.".toList))
          fun _ => .ok ()

/-- `lusbip attach`, under the session lock of the remote from its beginning to its end. -/
def runAttach (remote : Text) (tcpPort : UInt16) (busId : Option Text) :
    Command (Except Text Unit) :=
  .call (.acquireSessionLock remote tcpPort) fun
    | .error err => .ret (.error err)
    | .ok _ =>
        (attachSelected remote tcpPort busId).bind fun result =>
          ask (.dropSessionLock remote tcpPort) fun _ => result

end Client
end Lusbip
