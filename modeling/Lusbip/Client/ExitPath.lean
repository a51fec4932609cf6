import Lusbip.Client.RecoveryRun
import Lusbip.Client.Rows

/-!
# Leaving with Ctrl+C

On the way out the client loads the rows once more and detaches every port they show. So what is
detached is settled by the row model: all ports that were attached from the remote, and all ports
whose origin is not known but whose VID:PID is, whether the remote exports such a device or not. And
because the listing and every single detach can end the whole, what is not reached stays attached;
so does what a table that could not be read has not shown.
-/

namespace Lusbip
namespace Client

open Lib
open Lib.Program

variable {remote : Text} {tcpPort : UInt16} {devices : List RemoteUsbDevice}
  {ports : List AttachedUsbPort} {port : AttachedUsbPort} {env env' : Environment} {n : Nat}

/-- The loop of `detach_attached_remote_devices_on_exit`. -/
def detachEachOnce (detached : List Text) : List Text → Command (Except Text Unit)
  | [] => .ret (.ok ())
  | port :: ports =>
      if detached.any fun seen => seen == port then detachEachOnce detached ports
      else (detachPort port).andThen fun _ => detachEachOnce (detached ++ [port]) ports

def detachAttachedRemoteDevicesOnExit (remote : Text) (tcpPort : UInt16) :
    Command (Except Text Unit) :=
  (loadRemoteDeviceStates remote tcpPort).andThen fun states =>
    detachEachOnce [] (states.filterMap (·.attachedPort))

/-! ## What the loop comes to -/

/-- A number that was seen is skipped, so each is detached where it stands first. -/
theorem detachEachOnce_eq (detached numbers : List Text) :
    detachEachOnce detached numbers
      = detachAll (numbers.filter fun number => number ∉ detached).eraseDups := by
  induction numbers generalizing detached with
  | nil => rfl
  | cons number numbers ih =>
    by_cases hseen : number ∈ detached
    · have hany : (detached.any fun seen => seen == number) = true := by simpa using hseen
      rw [detachEachOnce, if_pos hany, ih, List.filter_cons_of_neg (by simpa using hseen)]
    · -- The number is detached here, and is one of those that were seen from then on.
      have hrest : numbers.filter (fun p => p ∉ detached ++ [number])
          = (numbers.filter fun p => p ∉ detached).filter fun p => !p == number := by
        rw [List.filter_filter]
        refine List.filter_congr fun p _ => ?_
        simp [and_comm, beq_eq_decide]
      have hany : ¬ (detached.any fun seen => seen == number) = true := by simpa using hseen
      rw [detachEachOnce, if_neg hany, List.filter_cons_of_pos (by simpa using hseen),
        List.eraseDups_cons, detachAll, ← hrest]
      congr 1
      funext _
      exact ih _

/-- The ports the rows show, each where it is shown first. -/
def shownPorts (remote : Text) (devices : List RemoteUsbDevice) (ports : List AttachedUsbPort) :
    List Text :=
  ((remoteDeviceStates remote devices ports).filterMap (·.attachedPort)).eraseDups

theorem attachedPorts_applyRemoteOccupancy (states : List RemoteUsbDeviceState)
    (occupancy : Text → Option Text) :
    (applyRemoteOccupancy states occupancy).filterMap (·.attachedPort)
      = states.filterMap (·.attachedPort) := by
  rw [applyRemoteOccupancy, List.filterMap_map]
  congr 1
  funext state
  rw [Function.comp_apply]
  split <;> rfl

/-- A device takes ports of the remote only. -/
theorem FirstMatch.belongs {device : RemoteUsbDevice} (h : FirstMatch remote ports device port) :
    attachedPortBelongsToRemote remote port = true := by
  obtain ⟨-, -, -, hmatch, -⟩ := h
  have hhost : (attachTarget remote device).remoteHost = remote := rfl
  rw [shouldDetach_iff rfl, hhost] at hmatch
  simp only [attachedPortBelongsToRemote, Bool.or_eq_true, Bool.and_eq_true, decide_eq_true_eq,
    Option.isNone_iff_eq_none, Option.isSome_iff_exists]
  rcases hmatch with ⟨hown, -⟩ | ⟨hnone, v, hv, -⟩
  · exact Or.inl hown
  · exact Or.inr ⟨hnone, v, hv⟩

/-- **What is shown is what belongs to the remote**, with a device of its own or without. -/
theorem mem_shownPorts {number : Text} :
    number ∈ shownPorts remote devices ports ↔
      ∃ port ∈ ports, port.port = number ∧ attachedPortBelongsToRemote remote port = true := by
  rw [shownPorts, List.mem_eraseDups, List.mem_filterMap]
  constructor
  · rintro ⟨row, hrow, hattached⟩
    rw [remoteDeviceStates_eq] at hrow
    rcases List.mem_append.mp hrow with hrow | hrow
    · obtain ⟨device, -, rfl⟩ := List.mem_map.mp hrow
      obtain ⟨port, hmatch, hnumber⟩ := attachedPort_deviceState_iff.mp hattached
      exact ⟨port, hmatch.mem, hnumber, hmatch.belongs⟩
    · obtain ⟨port, hport, rfl⟩ := List.mem_map.mp hrow
      obtain ⟨hmem, hleft⟩ := List.mem_filter.mp hport
      rw [leftover, Bool.and_eq_true] at hleft
      exact ⟨port, hmem, Option.some.inj hattached, hleft.2⟩
  · rintro ⟨port, hport, rfl, hbelongs⟩
    obtain ⟨row, hrow, hattached⟩ := List.countP_pos_iff.mp (shown_pos hport hbelongs)
    exact ⟨row, hrow, of_decide_eq_true hattached⟩

/-! ## The run of the exit path -/

/-- What the remote lists when it is asked first. -/
def listing (env : Environment) (remote : Text) (tcpPort : UInt16) :
    Except Text (List RemoteUsbDevice) :=
  readDeviceList (env 0 (listCall remote tcpPort))

/-- The port table as the client gets it, after the listing. -/
def tableOf (env : Environment) : List AttachedUsbPort :=
  result env 1 queryAttachedPortsResilient

/-- What is called before the first detach of a port that is shown. -/
def lookingCalls (env : Environment) (remote : Text) (tcpPort : UInt16) :
    List (Event Call.Answer) :=
  ⟨listCall remote tcpPort, env 0 (listCall remote tcpPort)⟩
    :: (events env 1 queryAttachedPortsResilient
      ++ events env (1 + (events env 1 queryAttachedPortsResilient).length)
        (queryRemoteOccupancy remote tcpPort))

def callsBefore (env : Environment) (remote : Text) (tcpPort : UInt16) : Nat :=
  (lookingCalls env remote tcpPort).length

/-- Without a listing, the table is not even read. -/
theorem exit_of_error {err : Text} (h : listing env remote tcpPort = .error err) :
    events env 0 (detachAttachedRemoteDevicesOnExit remote tcpPort)
        = [⟨listCall remote tcpPort, env 0 (listCall remote tcpPort)⟩] ∧
      result env 0 (detachAttachedRemoteDevicesOnExit remote tcpPort) = .error err := by
  have hresult : result env 0 (queryRemoteDevices remote tcpPort) = .error err := h
  simp only [detachAttachedRemoteDevicesOnExit, loadRemoteDeviceStates, Program.andThen,
    events_bind, result_bind, hresult]
  exact ⟨rfl, rfl⟩

/-- With one, what is shown is detached after the table and the occupancy have been read. -/
theorem exit_of_ok (h : listing env remote tcpPort = .ok devices) :
    events env 0 (detachAttachedRemoteDevicesOnExit remote tcpPort)
        = lookingCalls env remote tcpPort
          ++ events env (callsBefore env remote tcpPort)
            (detachAll (shownPorts remote devices (tableOf env))) ∧
      result env 0 (detachAttachedRemoteDevicesOnExit remote tcpPort)
        = result env (callsBefore env remote tcpPort)
            (detachAll (shownPorts remote devices (tableOf env))) := by
  have hresult : result env 0 (queryRemoteDevices remote tcpPort) = .ok devices := h
  have hlist : events env 0 (queryRemoteDevices remote tcpPort)
      = [⟨listCall remote tcpPort, env 0 (listCall remote tcpPort)⟩] := rfl
  simp only [detachAttachedRemoteDevicesOnExit, loadRemoteDeviceStates, Program.andThen,
    events_bind, result_bind, hresult, hlist, events_ret, result_ret,
    attachedPorts_applyRemoteOccupancy, detachEachOnce_eq, List.append_nil, List.length_append,
    List.length_singleton, List.not_mem_nil, not_false_eq_true, decide_true, List.filter_true,
    Nat.zero_add]
  have hcalls : callsBefore env remote tcpPort
      = 1 + (events env 1 queryAttachedPortsResilient).length
        + (events env (1 + (events env 1 queryAttachedPortsResilient).length)
          (queryRemoteOccupancy remote tcpPort)).length := by
    rw [callsBefore, lookingCalls, List.length_cons, List.length_append]
    omega
  rw [hcalls, Nat.add_assoc]
  refine ⟨?_, rfl⟩
  simp only [lookingCalls, shownPorts, tableOf, List.cons_append, List.nil_append,
    List.append_assoc]

/-! ## Detaching one after the other -/

theorem detachAll_cons_of_succeeds {number : Text} (numbers : List Text)
    (h : DetachSucceeds env n number) :
    events env n (detachAll (number :: numbers))
        = ⟨detachCall number, env n (detachCall number)⟩ :: events env (n + 1) (detachAll numbers) ∧
      result env n (detachAll (number :: numbers)) = result env (n + 1) (detachAll numbers) := by
  cases hread : readDetach number (env n (detachCall number)) with
  | error err =>
    rw [DetachSucceeds, hread] at h
    cases h
  | ok u =>
    have hresult : result env n (detachPort number) = .ok u := hread
    rw [detachAll, Program.andThen, events_bind, result_bind, hresult]
    exact ⟨rfl, rfl⟩

theorem detachAll_cons_of_fails {number : Text} (numbers : List Text)
    (h : ¬ DetachSucceeds env n number) :
    events env n (detachAll (number :: numbers))
        = [⟨detachCall number, env n (detachCall number)⟩] ∧
      result env n (detachAll (number :: numbers)) ≠ .ok () := by
  cases hread : readDetach number (env n (detachCall number)) with
  | error err =>
    have hresult : result env n (detachPort number) = .error err := hread
    rw [detachAll, Program.andThen, events_bind, result_bind, hresult]
    refine ⟨rfl, fun h => ?_⟩
    cases h
  | ok u =>
    refine absurd ?_ h
    rw [DetachSucceeds, hread]
    rfl

/-- **A port is reached exactly where every detach before its own works.** -/
theorem attempted_iff {number : Text} (numbers : List Text) (n : Nat) :
    (∃ e ∈ events env n (detachAll numbers), e.1 = detachCall number) ↔
      ∃ before after, numbers = before ++ number :: after ∧
        ∀ i other, before[i]? = some other → DetachSucceeds env (n + i) other := by
  induction numbers generalizing n with
  | nil =>
    refine iff_of_false ?_ ?_
    · rintro ⟨e, he, -⟩
      cases he
    · rintro ⟨before, after, h, -⟩
      cases before <;> cases h
  | cons first numbers ih =>
    by_cases hfirst : first = number
    · subst hfirst
      refine iff_of_true ?_ ⟨[], numbers, rfl, fun i other h => by simp at h⟩
      by_cases h : DetachSucceeds env n first
      · rw [(detachAll_cons_of_succeeds numbers h).1]
        exact ⟨_, List.mem_cons_self, rfl⟩
      · rw [(detachAll_cons_of_fails numbers h).1]
        exact ⟨_, List.mem_cons_self, rfl⟩
    · have hne : detachCall first ≠ detachCall number := fun h => hfirst (detachCall_inj h)
      by_cases h : DetachSucceeds env n first
      · -- The detach works, and what comes before the port has grown by one.
        rw [(detachAll_cons_of_succeeds numbers h).1]
        simp only [List.mem_cons, or_and_right, exists_or, exists_eq_left, hne, false_or]
        rw [ih (n + 1)]
        constructor
        · rintro ⟨before, after, rfl, hbefore⟩
          refine ⟨first :: before, after, rfl, fun i other hi => ?_⟩
          cases i with
          | zero => exact Option.some.inj hi ▸ h
          | succ i => exact Nat.add_right_comm n 1 i ▸ hbefore i other hi
        · rintro ⟨before, after, heq, hbefore⟩
          cases before with
          | nil => exact absurd (List.cons.inj heq).1 hfirst
          | cons head before =>
            obtain ⟨rfl, rfl⟩ := List.cons.inj heq
            exact ⟨before, after, rfl, fun i other hi =>
              Nat.add_right_comm n 1 i ▸ hbefore (i + 1) other hi⟩
      · rw [(detachAll_cons_of_fails numbers h).1]
        refine iff_of_false ?_ ?_
        · rintro ⟨e, he, hcall⟩
          rw [List.mem_singleton.mp he] at hcall
          exact hne hcall
        · rintro ⟨before, after, heq, hbefore⟩
          cases before with
          | nil => exact hfirst (List.cons.inj heq).1
          | cons head before =>
            obtain ⟨rfl, -⟩ := List.cons.inj heq
            exact h (hbefore 0 first rfl)

/-- If all ends well, every single detach worked. -/
theorem detached_of_ok {numbers : List Text} {number : Text}
    (h : result env n (detachAll numbers) = .ok ()) (hmem : number ∈ numbers) :
    ∃ answer, ⟨detachCall number, answer⟩ ∈ events env n (detachAll numbers) ∧
      isOk (readDetach number answer) = true := by
  induction numbers generalizing n with
  | nil => cases hmem
  | cons first numbers ih =>
    by_cases hfirst : DetachSucceeds env n first
    · obtain ⟨hevents, hresult⟩ := detachAll_cons_of_succeeds numbers hfirst
      rw [hevents]
      rcases List.mem_cons.mp hmem with rfl | hmem
      · exact ⟨_, List.mem_cons_self, hfirst⟩
      · obtain ⟨answer, hmem, hok⟩ := ih (hresult ▸ h) hmem
        exact ⟨answer, List.mem_cons_of_mem _ hmem, hok⟩
    · exact absurd h (detachAll_cons_of_fails numbers hfirst).2

/-! ## Whether every port of the remote is reached -/

/-- Of the ports that the kernel has, every one that is known to be attached from the remote is to be
    detached, and where the exit ends well, it is. -/
structure LeavesNone (remote : Text) (ports : List AttachedUsbPort)
    (events : List (Event Call.Answer)) (result : Except Text Unit) : Prop where
  attempted : ∀ port ∈ ports, port.remoteHost = some remote → Tried events port.port
  gone : result = .ok () → ∀ port ∈ ports, port.remoteHost = some remote →
    Detached events port.port

/-- The loop comes to the port: the rows show it, and the detach of every port that they show before
    it works. -/
def Reached (env : Environment) (remote : Text) (tcpPort : UInt16) (devices : List RemoteUsbDevice)
    (number : Text) : Prop :=
  ∃ before named after, shownPorts remote devices (tableOf env) = before ++ named :: after ∧
    vhciPort named = vhciPort number ∧
    ∀ i other, before[i]? = some other →
      DetachSucceeds env (callsBefore env remote tcpPort + i) other

/-- The detach of a port that the rows show fails. -/
def LoopFails (env : Environment) (remote : Text) (tcpPort : UInt16)
    (devices : List RemoteUsbDevice) : Prop :=
  ∃ i number, (shownPorts remote devices (tableOf env))[i]? = some number ∧
    ¬ DetachSucceeds env (callsBefore env remote tcpPort + i) number

/-- What it takes that a port is seen to: there is a listing, and either the loop comes to the port,
    or the table could not be read at once, and the recovery has detached the port or has at least
    tried to, and the loop does not end well. -/
def SeenTo (env : Environment) (remote : Text) (tcpPort : UInt16) (number : Text) : Prop :=
  ∃ devices, listing env remote tcpPort = .ok devices ∧
    (Reached env remote tcpPort devices number ∨
      GetsDetached env number 3 (takenForStale env 1) ∨
      (ComesTo env number 3 (takenForStale env 1) ∧ LoopFails env remote tcpPort devices))

theorem tried_detachAll_iff {numbers : List Text} {number : Text} :
    Tried (events env n (detachAll numbers)) number ↔
      ∃ before named after, numbers = before ++ named :: after ∧ vhciPort named = vhciPort number ∧
        ∀ i other, before[i]? = some other → DetachSucceeds env (n + i) other := by
  constructor
  · rintro ⟨e, he, named, hnamed, hdetach⟩
    obtain ⟨shown, -, hcall⟩ := (calls_detachAll numbers).events env n e he
    rw [hcall] at hdetach
    obtain rfl := eq_of_detaches_detachCall hdetach
    obtain ⟨before, after, hsplit, hbefore⟩ := (attempted_iff numbers n).mp ⟨e, he, hcall⟩
    exact ⟨before, shown, after, hsplit, hnamed, hbefore⟩
  · rintro ⟨before, named, after, hsplit, hnamed, hbefore⟩
    obtain ⟨e, he, hcall⟩ := (attempted_iff numbers n).mpr ⟨before, after, hsplit, hbefore⟩
    exact ⟨e, he, named, hnamed, hcall ▸ detaches_detachCall named⟩

/-- The loop ends well exactly if every single detach works. -/
theorem detachAll_ok_iff {numbers : List Text} :
    result env n (detachAll numbers) = .ok () ↔
      ∀ i number, numbers[i]? = some number → DetachSucceeds env (n + i) number := by
  induction numbers generalizing n with
  | nil => exact iff_of_true rfl fun i number h => by simp at h
  | cons first numbers ih =>
    by_cases hfirst : DetachSucceeds env n first
    · rw [(detachAll_cons_of_succeeds numbers hfirst).2, ih]
      constructor
      · intro h i number hi
        cases i with
        | zero => exact Option.some.inj hi ▸ hfirst
        | succ i => exact Nat.add_right_comm n 1 i ▸ h i number hi
      · intro h i number hi
        have hnext := h (i + 1) number hi
        rwa [← Nat.add_assoc, Nat.add_right_comm] at hnext
    · refine iff_of_false (detachAll_cons_of_fails numbers hfirst).2 fun h => ?_
      exact hfirst (h 0 first rfl)

/-- A loop that ends well has detached what it has come to. -/
theorem detached_of_tried {numbers : List Text} {number : Text}
    (hok : result env n (detachAll numbers) = .ok ())
    (h : Tried (events env n (detachAll numbers)) number) :
    Detached (events env n (detachAll numbers)) number := by
  obtain ⟨e, he, named, hnamed, hdetach⟩ := h
  obtain ⟨shown, hshown, hcall⟩ := (calls_detachAll numbers).events env n e he
  rw [hcall] at hdetach
  obtain rfl := eq_of_detaches_detachCall hdetach
  obtain ⟨answer, hmem, hread⟩ := detached_of_ok hok hshown
  exact ⟨_, hmem, shown, hnamed, Or.inl ⟨answer, rfl, hread⟩⟩

/-- A port is tried by the recovery or by the loop, and by nothing else. -/
theorem tried_exit_iff (h : listing env remote tcpPort = .ok devices) {number : Text} :
    Tried (events env 0 (detachAttachedRemoteDevicesOnExit remote tcpPort)) number ↔
      ComesTo env number 3 (takenForStale env 1) ∨ Reached env remote tcpPort devices number := by
  have hlist : ¬ Tried [⟨listCall remote tcpPort, env 0 (listCall remote tcpPort)⟩] number :=
    not_tried_of_noDetach fun e he => by
      rw [List.mem_singleton.mp he]
      exact harmless_listCall remote tcpPort
  have hoccupancy : ∀ m, ¬ Tried (events env m (queryRemoteOccupancy remote tcpPort)) number :=
    fun m => not_tried_of_noDetach
      ((calls_queryRemoteOccupancy harmless_readOccupancy remote tcpPort).events env m)
  rw [(exit_of_ok h).1, lookingCalls, ← List.singleton_append, tried_append, tried_append,
    tried_append, or_iff_right hlist, or_iff_left (hoccupancy _), resilient_iff.1,
    tried_detachAll_iff, Reached]

theorem detached_exit_iff (h : listing env remote tcpPort = .ok devices) {number : Text} :
    Detached (events env 0 (detachAttachedRemoteDevicesOnExit remote tcpPort)) number ↔
      GetsDetached env number 3 (takenForStale env 1) ∨
        Detached (events env (callsBefore env remote tcpPort)
          (detachAll (shownPorts remote devices (tableOf env)))) number := by
  have hlist : ¬ Detached [⟨listCall remote tcpPort, env 0 (listCall remote tcpPort)⟩] number :=
    fun hdetached => not_tried_of_noDetach (fun e he => by
      rw [List.mem_singleton.mp he]
      exact harmless_listCall remote tcpPort) hdetached.tried
  have hoccupancy : ∀ m, ¬ Detached (events env m (queryRemoteOccupancy remote tcpPort)) number :=
    fun m hdetached => not_tried_of_noDetach
      ((calls_queryRemoteOccupancy harmless_readOccupancy remote tcpPort).events env m)
      hdetached.tried
  rw [(exit_of_ok h).1, lookingCalls, ← List.singleton_append, detached_append, detached_append,
    detached_append, or_iff_right hlist, or_iff_left (hoccupancy _), resilient_iff.2]

theorem exit_ok_iff (h : listing env remote tcpPort = .ok devices) :
    result env 0 (detachAttachedRemoteDevicesOnExit remote tcpPort) = .ok () ↔
      ¬ LoopFails env remote tcpPort devices := by
  rw [(exit_of_ok h).2, detachAll_ok_iff, LoopFails]
  push Not
  rfl

/-- A port is seen to exactly if it is tried, and detached where the exit ends well. -/
theorem seenTo_iff {number : Text} :
    SeenTo env remote tcpPort number ↔
      Tried (events env 0 (detachAttachedRemoteDevicesOnExit remote tcpPort)) number ∧
        (result env 0 (detachAttachedRemoteDevicesOnExit remote tcpPort) = .ok () →
          Detached (events env 0 (detachAttachedRemoteDevicesOnExit remote tcpPort)) number) := by
  cases h : listing env remote tcpPort with
  | error err =>
    -- Without a listing nothing is tried at all.
    refine iff_of_false ?_ ?_
    · rintro ⟨devices, hdevices, -⟩
      exact nomatch hdevices.symm.trans h
    · rw [(exit_of_error h).1]
      rintro ⟨htried, -⟩
      refine not_tried_of_noDetach (fun e he => ?_) htried
      rw [List.mem_singleton.mp he]
      exact harmless_listCall remote tcpPort
  | ok devices =>
    have hseen : SeenTo env remote tcpPort number ↔
        Reached env remote tcpPort devices number ∨
          GetsDetached env number 3 (takenForStale env 1) ∨
          (ComesTo env number 3 (takenForStale env 1) ∧ LoopFails env remote tcpPort devices) := by
      constructor
      · rintro ⟨devices', hdevices, hseen⟩
        obtain rfl := Except.ok.inj (hdevices.symm.trans h)
        exact hseen
      · exact fun hseen => ⟨devices, h, hseen⟩
    rw [hseen, tried_exit_iff h, detached_exit_iff h, exit_ok_iff h]
    constructor
    · rintro (hreached | hdetached | ⟨htried, hfails⟩)
      · -- Where the loop ends well, it detaches whatever it comes to.
        refine ⟨Or.inr hreached, fun hok => Or.inr (detached_of_tried ?_ ?_)⟩
        · rw [← (exit_of_ok h).2]
          exact (exit_ok_iff h).mpr hok
        · exact tried_detachAll_iff.mpr hreached
      · refine ⟨Or.inl ?_, fun _ => Or.inl hdetached⟩
        exact tried_detachEach_iff.mp (detached_detachEach_iff.mpr hdetached).tried
      · exact ⟨Or.inl htried, fun hok => absurd hfails hok⟩
    · rintro ⟨htried, hgone⟩
      -- Only a loop that ends well can have the exit return Ok.
      by_cases hfails : LoopFails env remote tcpPort devices
      · rcases htried with htried | hreached
        · exact Or.inr (Or.inr ⟨htried, hfails⟩)
        · exact Or.inl hreached
      · rcases hgone hfails with hdetached | hdetached
        · exact Or.inr (Or.inl hdetached)
        · exact Or.inl (tried_detachAll_iff.mp hdetached.tried)

/-- **Quitting attempts every port of the remote, and ends well only when they are gone, exactly
    where every one of these ports is seen to.** -/
theorem exit_leavesNone_iff (env : Environment) (remote : Text) (tcpPort : UInt16)
    (ports : List AttachedUsbPort) :
    LeavesNone remote ports (events env 0 (detachAttachedRemoteDevicesOnExit remote tcpPort))
        (result env 0 (detachAttachedRemoteDevicesOnExit remote tcpPort)) ↔
      ∀ port ∈ ports, port.remoteHost = some remote → SeenTo env remote tcpPort port.port := by
  constructor
  · intro h port hport hhost
    exact seenTo_iff.mpr ⟨h.attempted port hport hhost, fun hok => h.gone hok port hport hhost⟩
  · intro h
    refine ⟨fun port hport hhost => ?_, fun hok port hport hhost => ?_⟩
    · exact (seenTo_iff.mp (h port hport hhost)).1
    · exact (seenTo_iff.mp (h port hport hhost)).2 hok

/-- The outside when the client quits: what `usbip list` and `usbip port` print, and that every
    other command works. -/
def quitting (list ports : Except Text Output) : Environment := fun _ c =>
  match c with
  | .run program args =>
      if program ≠ "usbip".toList then .ok { success := true, stdout := [], stderr := [] }
      else if args = ["port".toList] then ports
      else list
  | .runInteractive _ _ => .ok true
  | .readVhciStatus => .error []
  | .readOccupancy _ => .error []
  | .selectOne _ _ _ => .error []
  | .acquireSessionLock _ _ => .ok ()
  | .dropSessionLock _ _ => ()
  | .println _ => ()

/-- The server cannot be reached, and port 0 is attached from it. -/
def serverGone : Environment :=
  quitting (.error "connection refused".toList)
    (.ok
      { success := true
        stdout := "Port 00: <Port in Use>\n 1-1 -> usbip://10.10.61.72:3240/1-1\n".toList
        stderr := [] })

/-- The port that is attached from it. -/
def portOfServer : AttachedUsbPort :=
  { port := "00".toList, remoteHost := some adapterServer, remoteBusId := some "1-1".toList }

theorem serverGone_leaves_port :
    ¬ LeavesNone adapterServer [portOfServer]
        (events serverGone 0 (detachAttachedRemoteDevicesOnExit adapterServer 3240))
        (result serverGone 0 (detachAttachedRemoteDevicesOnExit adapterServer 3240)) := by
  intro h
  have hlisting : listing serverGone adapterServer 3240
      = .error ("Failed to execute usbip list: ".toList ++ "connection refused".toList) := rfl
  have htried := h.attempted portOfServer List.mem_cons_self rfl
  rw [(exit_of_error hlisting).1] at htried
  refine not_tried_of_noDetach (fun e he => ?_) htried
  rw [List.mem_singleton.mp he]
  exact harmless_listCall adapterServer 3240

end Client
end Lusbip
