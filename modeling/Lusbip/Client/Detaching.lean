import Lusbip.Client.Recovery

/-!
# What an attach detaches

Before it attaches a device the client detaches the ports that hold it from an earlier run. A port
is the device's own if it was attached for its bus id; the VID:PID is for ports whose bus id or host
is not known. The rule in the code takes the VID:PID for a sign of identity also where the bus id is
known and another one, and so the two adapters of one kind that hang on one server get in each
other's way.
-/

namespace Lusbip
namespace Client

open Lib
open Lib.Program

variable {port : AttachedUsbPort} {ports : List AttachedUsbPort} {target : AttachTarget}
  {busId : Text} {env : Environment} {n : Nat}

/-- The port has the VID:PID of the target. -/
def AttachedUsbPort.LooksLike (port : AttachedUsbPort) (target : AttachTarget) : Prop :=
  ∃ v ∈ port.vidPid, target.HasVidPid v

/-- The port is the target's own: its host and bus id are the target's, or one of them is not known
    and its VID:PID is the target's. -/
def AttachedUsbPort.IsTarget (port : AttachedUsbPort) (target : AttachTarget) (busId : Text) :
    Prop :=
  (port.remoteHost = some target.remoteHost ∧ port.remoteBusId = some busId) ∨
    (port.remoteHost = some target.remoteHost ∧ port.remoteBusId = none ∧ port.LooksLike target) ∨
    (port.remoteHost = none ∧ port.LooksLike target)

/-- The port was attached for another bus id of the target's host, and its device is of the same
    kind. -/
def AttachedUsbPort.IsTwin (port : AttachedUsbPort) (target : AttachTarget) (busId : Text) : Prop :=
  port.remoteHost = some target.remoteHost ∧ (∃ other ∈ port.remoteBusId, other ≠ busId) ∧
    port.LooksLike target

/-- What is selected is the target's own, or a twin of it. -/
theorem shouldDetach_iff_isTarget_or_isTwin (hbus : target.busId = some busId) :
    shouldDetach port target = true ↔ port.IsTarget target busId ∨ port.IsTwin target busId := by
  rw [shouldDetach_iff hbus, AttachedUsbPort.IsTarget, AttachedUsbPort.IsTwin,
    AttachedUsbPort.LooksLike]
  cases hown : port.remoteBusId with
  | none => simp
  | some own =>
    by_cases heq : own = busId
    · simp [heq]
    · simp [heq]
      exact or_comm

theorem AttachedUsbPort.IsTwin.not_isTarget (h : port.IsTwin target busId) :
    ¬ port.IsTarget target busId := by
  obtain ⟨hhost, ⟨other, hother, hne⟩, -⟩ := h
  rintro (⟨-, hown⟩ | ⟨-, hown, -⟩ | ⟨hnone, -⟩)
  · exact hne (Option.some.inj (hother.symm.trans hown))
  · exact nomatch hother.symm.trans hown
  · exact nomatch hhost.symm.trans hnone

/-- The rule selects exactly the ports of the target. -/
def SelectsTarget (ports : List AttachedUsbPort) (target : AttachTarget) (busId : Text) : Prop :=
  ∀ port ∈ ports, shouldDetach port target = true ↔ port.IsTarget target busId

theorem selectsTarget_iff (hbus : target.busId = some busId) :
    SelectsTarget ports target busId ↔ ∀ port ∈ ports, ¬ port.IsTwin target busId := by
  refine forall₂_congr fun port _ => ?_
  rw [shouldDetach_iff_isTarget_or_isTwin hbus]
  constructor
  · intro h htwin
    exact htwin.not_isTarget (h.mp (Or.inr htwin))
  · intro h
    exact or_iff_left h

/-- A port whose host and bus id are known, and not both the target's, is somebody else's. -/
theorem AttachedUsbPort.IsTarget.known {host own : Text} (h : port.IsTarget target busId)
    (hhost : port.remoteHost = some host) (hown : port.remoteBusId = some own) :
    host = target.remoteHost ∧ own = busId := by
  rcases h with ⟨hh, hb⟩ | ⟨-, hb, -⟩ | ⟨hh, -⟩
  · exact ⟨Option.some.inj (hhost.symm.trans hh), Option.some.inj (hown.symm.trans hb)⟩
  · exact nomatch hown.symm.trans hb
  · exact nomatch hhost.symm.trans hh

/-! ## The commands that attach -/

/-- What is detached are ports of the target. -/
def OnlyTarget (ports : List AttachedUsbPort) (target : AttachTarget) (busId : Text)
    (events : List (Event Call.Answer)) : Prop :=
  ∀ e ∈ events, ∀ p, e.1.Detaches p → ∃ port ∈ ports, port.port = p ∧ port.IsTarget target busId

theorem onlyTarget_append {es fs : List (Event Call.Answer)} :
    OnlyTarget ports target busId (es ++ fs) ↔
      OnlyTarget ports target busId es ∧ OnlyTarget ports target busId fs := by
  simp only [OnlyTarget, List.mem_append, or_imp, forall_and]

theorem NoDetach.onlyTarget {es : List (Event Call.Answer)} (h : NoDetach es) :
    OnlyTarget ports target busId es :=
  fun e he p hp => absurd hp (h e he p)

theorem onlyTarget_autoDetach (h : SelectsTarget ports target busId)
    (htable : readPortTable (env n portCall) = .ok ports) :
    OnlyTarget ports target busId (events env n (autoDetachMatchingPorts target)) := by
  obtain ⟨hevents, hresult⟩ := resilient_of_ok htable
  rw [autoDetachMatchingPorts, events_bind, hevents, hresult, onlyTarget_append]
  constructor
  · refine NoDetach.onlyTarget fun e he => ?_
    rw [List.mem_singleton.mp he]
    exact harmless_portCall
  · intro e he p hp
    obtain ⟨q, hq, hcall⟩ := (calls_detachAll _).events env _ e he
    rw [hcall] at hp
    obtain ⟨port, hport, rfl⟩ := List.mem_map.mp hq
    obtain ⟨hmem, hshould⟩ := List.mem_filter.mp hport
    exact ⟨port, hmem, eq_of_detaches_detachCall hp, (h port hmem).mp hshould⟩

/-- What follows the detaches of an attach is harmless. -/
theorem onlyTarget_makeRoom {α : Type} {f : Unit → Command (Except Text α)}
    (h : SelectsTarget ports target busId)
    (htable : ∀ m, readPortTable (env m portCall) = .ok ports)
    (hf : ∀ u, (f u).Calls Call.Harmless) :
    OnlyTarget ports target busId
      (events env n ((autoDetachMatchingPorts target).andThen f)) := by
  rw [Program.andThen, events_bind, onlyTarget_append]
  refine ⟨onlyTarget_autoDetach h (htable n), NoDetach.onlyTarget ?_⟩
  cases result env n (autoDetachMatchingPorts target) with
  | ok u => exact (hf u).events env _
  | error err => exact noDetach_nil

theorem calls_attachRemoteDevice (remote : Text) (tcpPort : UInt16) (busId : Text) :
    (attachRemoteDevice remote tcpPort busId).Calls Call.Harmless :=
  calls_ask (harmless_attachCall remote tcpPort busId) _

theorem calls_selectedDevice (remote : Text) (tcpPort : UInt16) (given : Option Text) :
    (selectedDevice remote tcpPort given).Calls Call.Harmless := by
  refine (calls_queryRemoteDevices remote tcpPort).andThen fun devices => ?_
  cases given with
  | some busId => trivial
  | none =>
    change (selectRemoteDevice remote devices).Calls Call.Harmless
    unfold selectRemoteDevice
    split
    · trivial
    · refine calls_ask ?_ _
      rintro port (h | h) <;> cases h

/-- `run_attach`, for the device it comes to. -/
theorem onlyTarget_runAttach {remote : Text} {tcpPort : UInt16} {given : Option Text}
    {selected : RemoteUsbDevice} (h : SelectsTarget ports (attachTarget remote selected) busId)
    (htable : ∀ m, readPortTable (env m portCall) = .ok ports)
    (hselected : result env 1 (selectedDevice remote tcpPort given) = .ok selected) :
    OnlyTarget ports (attachTarget remote selected) busId
      (events env 0 (runAttach remote tcpPort given)) := by
  have hlock : NoDetach [⟨.acquireSessionLock remote tcpPort,
      env 0 (.acquireSessionLock remote tcpPort)⟩] := by
    intro e he port hport
    rw [List.mem_singleton.mp he] at hport
    rcases hport with hport | hport <;> cases hport
  rw [runAttach, events_call, ← List.singleton_append, onlyTarget_append]
  refine ⟨hlock.onlyTarget, ?_⟩
  cases env 0 (.acquireSessionLock remote tcpPort) with
  | error err => exact noDetach_nil.onlyTarget
  | ok u =>
    dsimp only
    rw [events_bind, onlyTarget_append]
    constructor
    · -- The device is chosen before the table is read, and choosing detaches nothing.
      rw [attachSelected, Program.andThen, events_bind, hselected, onlyTarget_append]
      refine ⟨NoDetach.onlyTarget ((calls_selectedDevice remote tcpPort given).events env 1), ?_⟩
      refine onlyTarget_makeRoom h htable fun u => ?_
      exact (calls_attachRemoteDevice remote tcpPort selected.busId).andThen fun _ =>
        calls_ask (harmless_println _) _
    · -- The lock is dropped last.
      intro e he port hport
      rw [List.mem_singleton.mp he] at hport
      rcases hport with hport | hport <;> cases hport

/-- `toggle_remote_device`, on a row without a port. -/
theorem onlyTarget_toggleRemoteDevice {remote : Text} {tcpPort : UInt16}
    {selected : RemoteUsbDeviceState}
    (h : SelectsTarget ports (attachTarget remote selected.device) busId)
    (htable : ∀ m, readPortTable (env m portCall) = .ok ports)
    (hport : selected.attachedPort = none) :
    OnlyTarget ports (attachTarget remote selected.device) busId
      (events env 0 (toggleRemoteDevice remote tcpPort selected)) := by
  rw [toggleRemoteDevice, hport]
  cases selected.occupiedBy with
  | some client => exact noDetach_nil.onlyTarget
  | none =>
    refine onlyTarget_makeRoom h htable fun u => ?_
    exact (calls_attachRemoteDevice remote tcpPort selected.device.busId).andThen fun _ => trivial

/-- **Auto-detach touches only the target's port**: the rule selects exactly the ports of the
    target, and `run_attach` and `toggle_remote_device`, reading this table, detach no others. -/
structure TouchesOnlyTarget (ports : List AttachedUsbPort) (target : AttachTarget) (busId : Text) :
    Prop where
  selects : SelectsTarget ports target busId
  known : ∀ port ∈ ports, ∀ host own, port.remoteHost = some host → port.remoteBusId = some own →
    ¬ (host = target.remoteHost ∧ own = busId) → shouldDetach port target = false
  runAttach : ∀ (env : Environment) remote tcpPort given selected,
    (∀ m, readPortTable (env m portCall) = .ok ports) →
    result env 1 (selectedDevice remote tcpPort given) = .ok selected →
    attachTarget remote selected = target →
    OnlyTarget ports target busId (events env 0 (runAttach remote tcpPort given))
  toggle : ∀ (env : Environment) remote tcpPort (selected : RemoteUsbDeviceState),
    (∀ m, readPortTable (env m portCall) = .ok ports) → selected.attachedPort = none →
    attachTarget remote selected.device = target →
    OnlyTarget ports target busId (events env 0 (toggleRemoteDevice remote tcpPort selected))

/-- **The exact condition**: no port of the table was attached for another bus id of the host and
    has the target's VID:PID. -/
theorem touchesOnlyTarget_iff (ports : List AttachedUsbPort) (target : AttachTarget) (busId : Text)
    (hbus : target.busId = some busId) :
    TouchesOnlyTarget ports target busId ↔ ∀ port ∈ ports, ¬ port.IsTwin target busId := by
  refine ⟨fun h => (selectsTarget_iff hbus).mp h.selects, fun h => ?_⟩
  have hselects : SelectsTarget ports target busId := (selectsTarget_iff hbus).mpr h
  refine ⟨hselects, fun port hport host own hhost hown hne => ?_, ?_, ?_⟩
  · rw [← Bool.not_eq_true, hselects port hport]
    exact fun htarget => hne (htarget.known hhost hown)
  · rintro env remote tcpPort given selected htable hselected rfl
    exact onlyTarget_runAttach hselects htable hselected
  · rintro env remote tcpPort selected htable hport rfl
    exact onlyTarget_toggleRemoteDevice hselects htable hport

/-! ## Two adapters of one kind -/

def adapterServer : Text := "10.10.61.72".toList

/-- Port 0 is attached for the adapter at 1-1. -/
def firstAdapterPort : AttachedUsbPort where
  port := "00".toList
  remoteHost := some adapterServer
  remoteBusId := some "1-1".toList
  vidPid := some "1a86:7523".toList

/-- The adapter at 1-2 is to be attached. -/
def secondAdapter : AttachTarget where
  remoteHost := adapterServer
  busId := some "1-2".toList
  vidPid := some "1a86:7523".toList

theorem secondAdapter_detaches_firstAdapter :
    ¬ TouchesOnlyTarget [firstAdapterPort] secondAdapter "1-2".toList := by
  intro h
  have hnot := h.known firstAdapterPort List.mem_cons_self adapterServer "1-1".toList rfl rfl
    (by decide)
  revert hnot
  decide

/-- An adapter on its own is in nobody's way. -/
theorem firstAdapter_touchesOnlyTarget :
    TouchesOnlyTarget [firstAdapterPort] { secondAdapter with busId := some "1-1".toList }
        "1-1".toList ↔
      ∀ port ∈ [firstAdapterPort],
        ¬ port.IsTwin { secondAdapter with busId := some "1-1".toList } "1-1".toList :=
  touchesOnlyTarget_iff [firstAdapterPort] { secondAdapter with busId := some "1-1".toList }
    "1-1".toList rfl

end Client
end Lusbip
