import Lusbip.Client.Doctor
import Lusbip.Client.RemoteControl

/-!
# What the client ever runs

Much of what the client does is done as root, and some of it by a shell. What it hands to them comes
from outside: the number of a port from what `usbip` prints or from the kernel's status file, the bus
id from a server, the release of the kernel from `uname`. Here are all the ways into the client, and
all the commands that can come of them.
-/

namespace Lusbip
namespace Client

open Lib
open Lib.Fields
open Lib.Program
open Agent (TuiItem ClientEndpoint PortSet ControlRequest)

/-! ## Detaching by hand -/

def formatAttachedPort (port : AttachedUsbPort) : Text :=
  "Port ".toList ++ port.port ++ " | host: ".toList ++ unknownText port.remoteHost
    ++ " | bus: ".toList ++ unknownText port.remoteBusId ++ " | vid:pid: ".toList
    ++ unknownText port.vidPid

def selectAttachedPort (ports : List AttachedUsbPort) : Command (Except Text AttachedUsbPort) :=
  if ports = [] then .ret (.error "No attached USB/IP ports to detach".toList)
  else
    let items := ports.map fun port : AttachedUsbPort =>
      ({ id := port.port, label := formatAttachedPort port } : TuiItem)
    ask
      (.selectOne "LUSBIP - Detach USB/IP port".toList items
        "Enter detach | Esc cancel | j/k or arrows navigate".toList)
      fun
        | .error err => .error err
        | .ok index => .ok (ports.get (index.cast (List.length_map _)))

def runDetach (port : Text) : Command (Except Text Unit) := detachPort port

def runDetachInteractive : Command (Except Text Unit) :=
  queryAttachedPorts.andThen fun ports =>
    (selectAttachedPort ports).andThen fun selected =>
      (detachPort selected.port).andThen fun _ =>
        ask (.println ("Detached USB/IP port ".toList ++ selected.port)) fun _ => .ok ()

/-! ## The ways in -/

/-- What the user, the list of the ports, or a client of the agent can have done. -/
inductive WayIn where
  | attach (remote : Text) (tcpPort : UInt16) (busId : Option Text)
  | detach (port : Text)
  | detachInteractive
  | status (remote : Option Text) (tcpPort : UInt16)
  | doctor (remote : Option Text) (tcpPort : UInt16) (fix : Bool)
  | loadRows (remote : Text) (tcpPort : UInt16) (cachedDevices : List RemoteUsbDevice)
  | activateRow (remote : Text) (tcpPort : UInt16) (item : TuiItem)
      (cachedDevices : List RemoteUsbDevice)
  | leave (remote : Text) (tcpPort : UInt16)
  | agentRequest (endpoint : ClientEndpoint) (managedPorts : PortSet)
      (request : Except Text ControlRequest)
  | agentSnapshot (endpoint : ClientEndpoint)

def ignore {α : Type} (m : Treatment α) : Treatment Unit := m.bind fun _ => .ret ()

def WayIn.program : WayIn → Treatment Unit
  | .attach remote tcpPort busId => ignore (.of (runAttach remote tcpPort busId))
  | .detach port => ignore (.of (runDetach port))
  | .detachInteractive => ignore (.of runDetachInteractive)
  | .status remote tcpPort => ignore (.of (runStatus remote tcpPort))
  | .doctor remote tcpPort fix => ignore (runDoctor remote tcpPort fix)
  | .loadRows remote tcpPort cachedDevices =>
      ignore (.of (loadRemoteDeviceStatesCached remote tcpPort cachedDevices))
  | .activateRow remote tcpPort item cachedDevices =>
      ignore (.of (activateItem remote tcpPort item cachedDevices))
  | .leave remote tcpPort => ignore (.of (detachAttachedRemoteDevicesOnExit remote tcpPort))
  | .agentRequest endpoint managedPorts request =>
      ignore (.of (Agent.respond endpoint managedPorts request))
  | .agentSnapshot endpoint => ignore (.of (Agent.writeSnapshot endpoint))

/-! ## The commands -/

/-- The calls of the client. The only script is the one that writes a number into the kernel's file. -/
inductive Usual : Call → Prop where
  | listPorts : Usual portCall
  | listDevices (remote : Text) (tcpPort : UInt16) : Usual (listCall remote tcpPort)
  | attach (remote : Text) (tcpPort : UInt16) (busId : Text) :
      Usual (attachCall remote tcpPort busId)
  | detach (port : Text) : Usual (detachCall port)
  | write (number : Nat) (h : number < 65536) : Usual (directDetachCall (decimal number))
  | readVhciStatus : Usual .readVhciStatus
  | readOccupancy (addr : Text) : Usual (.readOccupancy addr)
  | selectOne (title : Text) (items : List TuiItem) (help : Text) :
      Usual (.selectOne title items help)
  | acquireSessionLock (remote : Text) (tcpPort : UInt16) :
      Usual (.acquireSessionLock remote tcpPort)
  | dropSessionLock (remote : Text) (tcpPort : UInt16) : Usual (.dropSessionLock remote tcpPort)
  | println (line : Text) : Usual (.println line)

/-- The calls of the doctor. -/
inductive Sanctioned : DoctorCall → Prop where
  | usual {c : Call} (h : Usual c) : Sanctioned (.client c)
  | usbipVersion : Sanctioned (.client (.run "usbip".toList ["version".toList]))
  | sudoCached : Sanctioned (.client (.run "sudo".toList ["-n".toList, "true".toList]))
  | aptGet : Sanctioned (.client (.run "apt-get".toList ["--version".toList]))
  | uname : Sanctioned (.client (.run "uname".toList ["-r".toList]))
  | modinfo : Sanctioned (.client (.run "modinfo".toList ["vhci-hcd".toList]))
  | update : Sanctioned (.runForeground "sudo".toList ["apt-get".toList, "update".toList])
  | install (kernel : Text) :
      Sanctioned (.runForeground "sudo".toList
        (["apt-get".toList, "install".toList, "-y".toList] ++ ubuntuClientPackages kernel))
  | modprobe : Sanctioned (.runForeground "sudo".toList ["modprobe".toList, "vhci-hcd".toList])
  | detach (number : Nat) (h : number < 65536) :
      Sanctioned (.runForeground "sudo".toList
        ["usbip".toList, "detach".toList, "-p".toList, paddedPort number])
  | write (number : Nat) (h : number < 65536) :
      Sanctioned (.runForeground "sudo".toList
        ["sh".toList, "-c".toList, detachScript (decimal number)])

section

variable {remote : Text} {tcpPort : UInt16} {α β : Type}

theorem usual_ask {c : Call} (h : Usual c) (f : c.Answer → α) : (ask c f).Calls Usual :=
  calls_ask h f

theorem usual_printAll (lines : List Text) : (printAll lines).Calls Usual := by
  induction lines with
  | nil => trivial
  | cons line lines ih => exact ⟨.println line, fun _ => ih⟩

theorem usual_queryAttachedPorts : queryAttachedPorts.Calls Usual := usual_ask .listPorts _

theorem usual_queryRemoteDevices : (queryRemoteDevices remote tcpPort).Calls Usual :=
  usual_ask (.listDevices remote tcpPort) _

theorem usual_detachPort (port : Text) : (detachPort port).Calls Usual := usual_ask (.detach port) _

theorem usual_attachRemoteDevice (busId : Text) :
    (attachRemoteDevice remote tcpPort busId).Calls Usual :=
  usual_ask (.attach remote tcpPort busId) _

theorem usual_resilient : queryAttachedPortsResilient.Calls Usual :=
  calls_queryAttachedPortsResilient .listPorts .readVhciStatus .detach .write

theorem usual_detachAll (ports : List Text) : (detachAll ports).Calls Usual :=
  calls_detachAll_of_allowed .detach ports

theorem usual_autoDetach (target : AttachTarget) : (autoDetachMatchingPorts target).Calls Usual :=
  usual_resilient.bind fun _ => usual_detachAll _

theorem usual_queryRemoteOccupancy : (queryRemoteOccupancy remote tcpPort).Calls Usual :=
  calls_queryRemoteOccupancy .readOccupancy remote tcpPort

theorem usual_loadCached (cachedDevices : List RemoteUsbDevice) :
    (loadRemoteDeviceStatesCached remote tcpPort cachedDevices).Calls Usual :=
  calls_loadCached usual_resilient (.listDevices remote tcpPort) .readOccupancy cachedDevices

theorem usual_activateItem (item : TuiItem) (cachedDevices : List RemoteUsbDevice) :
    (activateItem remote tcpPort item cachedDevices).Calls Usual :=
  calls_activateItem usual_resilient (.listDevices remote tcpPort) .readOccupancy .detach item
    (.attach remote tcpPort item.id) cachedDevices

theorem usual_onExit : (detachAttachedRemoteDevicesOnExit remote tcpPort).Calls Usual := by
  have hload : (loadRemoteDeviceStates remote tcpPort).Calls Usual :=
    usual_queryRemoteDevices.andThen fun _ => usual_resilient.bind fun _ =>
      usual_queryRemoteOccupancy.bind fun _ => trivial
  refine hload.andThen fun states => ?_
  rw [detachEachOnce_eq]
  exact usual_detachAll _

theorem usual_runStatus (remote : Option Text) : (runStatus remote tcpPort).Calls Usual := by
  refine usual_resilient.bind fun ports => (usual_printAll _).bind fun _ => ?_
  cases remote with
  | none => trivial
  | some remote =>
    exact (usual_printAll _).bind fun _ => usual_queryRemoteDevices.andThen fun _ =>
      (usual_printAll _).bind fun _ => trivial

theorem usual_selectedDevice (busId : Option Text) :
    (selectedDevice remote tcpPort busId).Calls Usual := by
  refine usual_queryRemoteDevices.andThen fun devices => ?_
  cases busId with
  | some busId => trivial
  | none =>
    unfold chooseDevice selectRemoteDevice
    dsimp only
    split
    · trivial
    · exact usual_ask (.selectOne _ _ _) _

theorem usual_runAttach (busId : Option Text) : (runAttach remote tcpPort busId).Calls Usual := by
  refine ⟨.acquireSessionLock remote tcpPort, fun r => ?_⟩
  cases r with
  | error err => trivial
  | ok u =>
    have hattach : (attachSelected remote tcpPort busId).Calls Usual :=
      (usual_selectedDevice busId).andThen fun selected =>
        (usual_autoDetach _).andThen fun _ =>
          (usual_attachRemoteDevice _).andThen fun _ => usual_ask (.println _) _
    exact hattach.bind fun _ => usual_ask (.dropSessionLock remote tcpPort) _

theorem usual_runDetachInteractive : runDetachInteractive.Calls Usual := by
  refine usual_queryAttachedPorts.andThen fun ports => ?_
  have hselect : (selectAttachedPort ports).Calls Usual := by
    unfold selectAttachedPort
    split
    · trivial
    · exact usual_ask (.selectOne _ _ _) _
  exact hselect.andThen fun selected => (usual_detachPort _).andThen fun _ =>
    usual_ask (.println _) _

/-! ## The agent -/

variable {endpoint : ClientEndpoint} {managedPorts : PortSet}

theorem usual_snapshot : (Agent.snapshot endpoint).Calls Usual :=
  usual_queryAttachedPorts.andThen fun _ => usual_queryRemoteDevices.bind fun _ => trivial

theorem usual_detachManaged (port : Text) : (Agent.detachManaged managedPorts port).Calls Usual := by
  unfold Agent.detachManaged
  split
  · trivial
  · refine (usual_detachPort port).bind fun r => ?_
    cases r <;> trivial

theorem usual_agentToggle (busId : Text) :
    (Agent.toggle endpoint managedPorts busId).Calls Usual := by
  refine usual_queryAttachedPorts.bind fun r => ?_
  cases r with
  | error err => trivial
  | ok ports =>
    dsimp only
    split
    · exact usual_detachManaged _
    · refine usual_queryRemoteDevices.bind fun r => ?_
      cases r with
      | error err => trivial
      | ok devices =>
        dsimp only
        split
        · trivial
        · unfold Agent.toggleRow
          split
          · exact usual_detachManaged _
          · trivial
          · refine (usual_attachRemoteDevice busId).bind fun r => ?_
            cases r with
            | error err => trivial
            | ok u => exact usual_snapshot.bind fun _ => trivial

theorem usual_shutdownEach (failures ports : List Text) (managedPorts : PortSet) :
    (Agent.shutdownEach managedPorts failures ports).Calls Usual := by
  induction ports generalizing managedPorts failures with
  | nil => trivial
  | cons port ports ih =>
    refine (usual_detachPort port).bind fun r => ?_
    cases r with
    | ok u => exact ih _ _
    | error err => exact ih _ _

theorem usual_respond (request : Except Text ControlRequest) :
    (Agent.respond endpoint managedPorts request).Calls Usual := by
  unfold Agent.respond
  split
  · refine usual_snapshot.bind fun r => ?_
    cases r <;> trivial
  · exact (usual_agentToggle _).bind fun _ => trivial
  · have hshutdown : (Agent.shutdown managedPorts).Calls Usual := by
      refine (usual_shutdownEach [] _ managedPorts).bind fun left => ?_
      dsimp only
      split <;> trivial
    refine hshutdown.bind fun r => ?_
    obtain ⟨r, left⟩ := r
    cases r <;> trivial
  · trivial

/-! ## The doctor -/

theorem sanctioned_of {m : Command α} (h : m.Calls Usual) : (Treatment.of m).Calls Sanctioned :=
  Calls.embed (h.imp fun _ hc => .usual hc)

theorem sanctioned_saying {m : Treatment α} (h : m.Calls IsSaying) : m.Calls Sanctioned := by
  refine h.imp fun c hc => ?_
  obtain ⟨line, rfl⟩ := hc
  exact .usual (.println line)

theorem sanctioned_run {program : Text} {args : List Text}
    (h : Sanctioned (.client (.run program args))) : (commandSuccess program args).Calls Sanctioned :=
  ⟨h, fun _ => trivial⟩

theorem sanctioned_fix {program : Text} {args : List Text}
    (h : Sanctioned (.runForeground program args)) : (runFixCommand program args).Calls Sanctioned :=
  (sanctioned_saying (calls_say _)).bind fun _ => ⟨h, fun _ => trivial⟩

theorem sanctioned_detachStaleEach {ports : List Text}
    (h : ∀ port ∈ ports, ∃ n < 65536, port = paddedPort n) :
    (detachStaleEach ports).Calls Sanctioned := by
  induction ports with
  | nil => trivial
  | cons port ports ih =>
    have hrest := ih fun q hq => h q (List.mem_cons_of_mem port hq)
    obtain ⟨n, hn, rfl⟩ := h port List.mem_cons_self
    refine (sanctioned_fix (.detach n hn)).bind fun r => ?_
    cases r with
    | ok u => exact hrest
    | error err =>
      refine (sanctioned_saying (calls_say _)).bind fun _ => Calls.andThen ?_ fun _ => hrest
      unfold runDirectVhciDetach
      rw [normalizedVhciPort_paddedPort hn]
      exact sanctioned_fix (.write n hn)

theorem sanctioned_detachStaleVhciPorts : detachStaleVhciPorts.Calls Sanctioned := by
  refine ⟨.usual .readVhciStatus, fun status => ?_⟩
  dsimp only
  split
  · trivial
  · exact (sanctioned_saying (calls_say _)).bind fun _ =>
      sanctioned_detachStaleEach fun port hport => exists_of_mem_stale hport

theorem sanctioned_prepareTools : prepareTools.Calls Sanctioned := by
  refine (sanctioned_saying (calls_say _)).bind fun _ => ?_
  refine (sanctioned_run .aptGet).bind fun aptGet => ?_
  cases aptGet with
  | false => exact (sanctioned_saying (calls_say _)).bind fun _ => trivial
  | true =>
    have hkernel : (commandStdout "uname".toList ["-r".toList]).Calls Sanctioned :=
      ⟨.uname, fun _ => trivial⟩
    refine hkernel.andThen fun kernel => ?_
    have hready : toolsReady.Calls Sanctioned := by
      refine (sanctioned_run .usbipVersion).bind fun ready => ?_
      cases ready with
      | true => exact sanctioned_run .modinfo
      | false => trivial
    refine hready.bind fun ready => ?_
    cases ready with
    | true => trivial
    | false => exact (sanctioned_fix .update).andThen fun _ => sanctioned_fix (.install _)

theorem sanctioned_applyDoctorFixes : applyDoctorFixes.Calls Sanctioned :=
  sanctioned_prepareTools.andThen fun _ =>
    (sanctioned_fix .modprobe).andThen fun _ => sanctioned_detachStaleVhciPorts

theorem sanctioned_runChecks (remote : Option Text) :
    (runChecks remote tcpPort).Calls Sanctioned := by
  have hports : checkPorts.Calls Sanctioned := by
    refine (sanctioned_of usual_queryAttachedPorts).bind fun r => ?_
    cases r with
    | ok ports =>
      exact (sanctioned_saying (calls_say _)).bind fun _ =>
        (sanctioned_saying (calls_sayAll _)).bind fun _ => trivial
    | error err => exact (sanctioned_saying (calls_say _)).bind fun _ => trivial
  have hremote : (checkRemote tcpPort remote).Calls Sanctioned := by
    cases remote with
    | none => trivial
    | some remote =>
      refine (sanctioned_of usual_queryRemoteDevices).bind fun r => ?_
      cases r with
      | ok devices =>
        exact (sanctioned_saying (calls_say _)).bind fun _ =>
          (sanctioned_saying (calls_sayAll _)).bind fun _ => trivial
      | error err => exact (sanctioned_saying (calls_say _)).bind fun _ => trivial
  refine Calls.bind ?_ fun _ => trivial
  refine (sanctioned_run .usbipVersion).bind fun _ => ?_
  refine (sanctioned_saying (calls_say _)).bind fun _ => ?_
  refine (sanctioned_run .sudoCached).bind fun _ => ?_
  refine (sanctioned_saying (calls_say _)).bind fun _ => ?_
  exact hports.bind fun _ => hremote.bind fun _ => trivial

theorem sanctioned_runDoctor (remote : Option Text) (fix : Bool) :
    (runDoctor remote tcpPort fix).Calls Sanctioned := by
  unfold runDoctor
  split
  · exact sanctioned_applyDoctorFixes.andThen fun _ => sanctioned_runChecks remote
  · exact sanctioned_runChecks remote

end

/-- **Nothing else is ever run.** Whichever way the client is entered, and whatever `usbip`, the
    kernel, the server and the user answer, every command is one of those that are listed; and a
    shell is given nothing but the number of a port to write. -/
theorem WayIn.calls_sanctioned (entry : WayIn) : entry.program.Calls Sanctioned := by
  have hignore : ∀ {α : Type} {m : Treatment α}, m.Calls Sanctioned → (ignore m).Calls Sanctioned :=
    fun h => h.bind fun _ => trivial
  cases entry with
  | attach remote tcpPort busId => exact hignore (sanctioned_of (usual_runAttach busId))
  | detach port => exact hignore (sanctioned_of (usual_detachPort port))
  | detachInteractive => exact hignore (sanctioned_of usual_runDetachInteractive)
  | status remote tcpPort => exact hignore (sanctioned_of (usual_runStatus remote))
  | doctor remote tcpPort fix => exact hignore (sanctioned_runDoctor remote fix)
  | loadRows remote tcpPort cachedDevices =>
    exact hignore (sanctioned_of (usual_loadCached cachedDevices))
  | activateRow remote tcpPort item cachedDevices =>
    exact hignore (sanctioned_of (usual_activateItem item cachedDevices))
  | leave remote tcpPort => exact hignore (sanctioned_of usual_onExit)
  | agentRequest endpoint managedPorts request =>
    exact hignore (sanctioned_of (usual_respond request))
  | agentSnapshot endpoint =>
    exact hignore (sanctioned_of (usual_snapshot.bind fun _ => trivial))

end Client
end Lusbip
