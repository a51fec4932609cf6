import Lusbip.Client.ExitPath
import Lusbip.Client.VidPid

/-!
# What leaving detaches

The client may detach on its way out what is its own: the ports that are known to be attached from
its remote, and those of unknown origin that have the VID:PID of a device the remote exports. The
rows show more than that, namely every port of unknown origin that has a VID:PID, and the recovery
of a table that cannot be read may detach everything there is.
-/

namespace Lusbip
namespace Client

open Lib
open Lib.Program

variable {remote : Text} {tcpPort : UInt16} {devices : List RemoteUsbDevice}
  {ports : List AttachedUsbPort} {port : AttachedUsbPort} {env : Environment} {n : Nat}

/-! ## Whose port it is -/

/-- The VID:PID that a description ends with: behind it there is no other. -/
def Describes (description vidPid : Text) : Prop :=
  ∃ vendor product before after, HexId vendor ∧ HexId product ∧
    description = before ++ inParens (vidPidText vendor product) ++ after ∧ WithoutVidPid after ∧
    vidPid = toAsciiLowercase (vidPidText vendor product)

/-- The remote exports a device of the port's VID:PID. -/
def AttachedUsbPort.Exported (devices : List RemoteUsbDevice) (port : AttachedUsbPort) : Prop :=
  ∃ device ∈ devices, ∃ vidPid ∈ port.vidPid, Describes device.description vidPid

/-- The port is known to be attached from the remote, or nobody knows from where and the remote
    exports such a device. -/
def AttachedUsbPort.Own (remote : Text) (devices : List RemoteUsbDevice) (port : AttachedUsbPort) :
    Prop :=
  port.remoteHost = some remote ∨ (port.remoteHost = none ∧ port.Exported devices)

theorem NoDetach.count_eq_zero {events : List (Event Call.Answer)} (h : NoDetach events)
    {c : Call} {number : Text} (hc : c.Detaches number) : (events.map (·.1)).count c = 0 := by
  refine List.count_eq_zero.mpr fun hmem => ?_
  obtain ⟨e, he, rfl⟩ := List.mem_map.mp hmem
  exact h e he number hc

/-- A port that the loop comes to is shown by the table, under its number. -/
theorem Reached.shown {number : Text} (h : Reached env remote tcpPort devices number) :
    ∃ port ∈ tableOf env, vhciPort port.port = vhciPort number ∧
      attachedPortBelongsToRemote remote port = true := by
  obtain ⟨before, named, after, hsplit, hnamed, -⟩ := h
  have hshown : named ∈ shownPorts remote devices (tableOf env) :=
    hsplit ▸ List.mem_append_right _ List.mem_cons_self
  obtain ⟨port, hport, rfl, hbelongs⟩ := mem_shownPorts.mp hshown
  exact ⟨port, hport, hnamed, hbelongs⟩

/-- What `usbip port` lists, if it succeeds, are ports that the kernel has. -/
def Lists (env : Environment) (ports : List AttachedUsbPort) : Prop :=
  ∀ m listed, readPortTable (env m portCall) = .ok listed → listed ⊆ ports

/-- What the remote exports, as far as it says so. -/
def exported (env : Environment) (remote : Text) (tcpPort : UInt16) : List RemoteUsbDevice :=
  unwrapOrDefault (listing env remote tcpPort)

end Client
end Lusbip
