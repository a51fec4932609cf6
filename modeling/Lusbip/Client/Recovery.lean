import Lusbip.Client.Commands

/-!
# What looking at the ports does to them

The helper that reads the port table for everybody, the commands that only look included, does not
give up when `usbip port` fails: it takes every port the kernel's status file shows for a stale one,
detaches it, and tries again. Whether a command that only looks leaves the ports alone depends on
the first answer it gets, and on nothing else.
-/

namespace Lusbip
namespace Client

open Lib
open Lib.Program

/-- What the calls of a run are answered. -/
abbrev Environment := Env Call.Answer

variable {α β : Type} {env : Environment} {n : Nat}

/-! ## Calls that detach -/

/-- The call is to detach the port: through `usbip`, or through the kernel's file. -/
def Call.Detaches (c : Call) (port : Text) : Prop := c = detachCall port ∨ c = directDetachCall port

def Call.Harmless (c : Call) : Prop := ∀ port, ¬ c.Detaches port

/-- A run that detaches nothing. -/
def NoDetach (events : List (Event Call.Answer)) : Prop := ∀ e ∈ events, e.1.Harmless

theorem detaches_detachCall (port : Text) : (detachCall port).Detaches port := Or.inl rfl

theorem detachCall_inj {p q : Text} (h : detachCall p = detachCall q) : p = q := by
  have hargs := (Call.run.inj h).2
  simpa using hargs

/-- A `usbip detach` is to detach the port it names. -/
theorem eq_of_detaches_detachCall {p q : Text} (h : (detachCall p).Detaches q) : p = q := by
  rcases h with h | h
  · exact detachCall_inj h
  · cases h

theorem directDetachCall_inj {p q : Text} (h : directDetachCall p = directDetachCall q) : p = q := by
  have hargs := (Call.runInteractive.inj h).2
  simpa using hargs

theorem eq_of_detaches_directDetachCall {p q : Text} (h : (directDetachCall p).Detaches q) :
    p = q := by
  rcases h with h | h
  · cases h
  · exact directDetachCall_inj h

theorem harmless_run_usbip (args : List Text) : (Call.run "usbip".toList args).Harmless := by
  rintro port (h | h)
  · exact absurd (Call.run.inj h).1 (by decide)
  · cases h

theorem harmless_portCall : portCall.Harmless := harmless_run_usbip _

theorem harmless_listCall (remote : Text) (tcpPort : UInt16) : (listCall remote tcpPort).Harmless :=
  harmless_run_usbip _

theorem harmless_attachCall (remote : Text) (tcpPort : UInt16) (busId : Text) :
    (attachCall remote tcpPort busId).Harmless := by
  rintro port (h | h)
  · have hargs := (Call.run.inj h).2
    have hlen := congrArg List.length hargs
    simp at hlen
  · cases h

theorem harmless_println (line : Text) : (Call.println line).Harmless := by
  rintro port (h | h) <;> cases h

theorem harmless_readVhciStatus : Call.readVhciStatus.Harmless := by
  rintro port (h | h) <;> cases h

theorem harmless_readOccupancy (addr : Text) : (Call.readOccupancy addr).Harmless := by
  rintro port (h | h) <;> cases h

theorem calls_ask {allowed : Call → Prop} {c : Call} (h : allowed c) (f : c.Answer → α) :
    (ask c f).Calls allowed := ⟨h, fun _ => trivial⟩

theorem calls_detachPort {allowed : Call → Prop} {port : Text} (h : allowed (detachCall port)) :
    (detachPort port).Calls allowed := ⟨h, fun _ => trivial⟩

/-- Only the given ports are detached, through `usbip` or through the kernel's file. -/
theorem calls_detachEach {allowed : Call → Prop} {ports : List Text}
    (hdetach : ∀ port ∈ ports, allowed (detachCall port))
    (hdirect : ∀ port ∈ ports, ∀ number, normalizedVhciPort port = .ok number →
      allowed (directDetachCall number)) : (detachEach ports).Calls allowed := by
  induction ports with
  | nil => trivial
  | cons port ports ih =>
    obtain ⟨hport, hports⟩ := List.forall_mem_cons.mp hdetach
    obtain ⟨hwrite, hwrites⟩ := List.forall_mem_cons.mp hdirect
    refine (calls_detachPort hport).bind fun r => ?_
    cases r with
    | ok u => exact ih hports hwrites
    | error err =>
      refine Calls.andThen ?_ fun _ => ih hports hwrites
      unfold directVhciDetachQuiet
      split
      · trivial
      · rename_i number hnumber
        exact calls_ask (hwrite number hnumber) _

/-- The read of the port table makes four kinds of calls. -/
theorem calls_resilient {allowed : Call → Prop} (hport : allowed portCall)
    (hstatus : allowed .readVhciStatus) (hdetach : ∀ port, allowed (detachCall port))
    (hdirect : ∀ port number, normalizedVhciPort port = .ok number →
      allowed (directDetachCall number)) : queryAttachedPortsResilient.Calls allowed := by
  refine (calls_ask hport _).bind fun r => ?_
  cases r with
  | ok ports => trivial
  | error err =>
    have hrecovery : detachStaleVhciPortsQuiet.Calls allowed :=
      ⟨hstatus, fun _ => calls_detachEach (fun port _ => hdetach port) fun port _ => hdirect port⟩
    exact hrecovery.bind fun _ => (calls_ask hport _).bind fun _ => trivial

theorem calls_printAll (lines : List Text) : (printAll lines).Calls Call.Harmless := by
  induction lines with
  | nil => trivial
  | cons line lines ih => exact ⟨harmless_println line, fun _ => ih⟩

theorem calls_queryRemoteDevices (remote : Text) (tcpPort : UInt16) :
    (queryRemoteDevices remote tcpPort).Calls Call.Harmless :=
  calls_ask (harmless_listCall remote tcpPort) _

theorem calls_queryRemoteOccupancy {allowed : Call → Prop}
    (h : ∀ addr, allowed (.readOccupancy addr)) (remote : Text) (tcpPort : UInt16) :
    (queryRemoteOccupancy remote tcpPort).Calls allowed := by
  unfold queryRemoteOccupancy
  split
  · exact calls_ask (h _) _
  · trivial

theorem calls_cachedStates {allowed : Call → Prop} (h : ∀ addr, allowed (.readOccupancy addr))
    (remote : Text) (tcpPort : UInt16) (ports : List AttachedUsbPort)
    (cachedDevices : List RemoteUsbDevice) :
    (cachedStates remote tcpPort ports cachedDevices).Calls allowed :=
  (calls_queryRemoteOccupancy h remote tcpPort).bind fun _ => trivial

theorem noDetach_nil : NoDetach [] := by
  intro e he
  cases he

theorem noDetach_append {es fs : List (Event Call.Answer)} :
    NoDetach (es ++ fs) ↔ NoDetach es ∧ NoDetach fs := by
  simp only [NoDetach, List.mem_append, or_imp, forall_and]

/-- Where the second part of a run is harmless, the first decides. -/
theorem noDetach_bind_iff {m : Command α} {f : α → Command β}
    (hf : ∀ a, (f a).Calls Call.Harmless) :
    NoDetach (events env n (m.bind f)) ↔ NoDetach (events env n m) := by
  rw [events_bind, noDetach_append]
  exact and_iff_left ((hf _).events env _)

/-! ## The recovery -/

/-- The read of the port table that starts with call `n` detaches nothing: `usbip port` succeeds at
    once, or the status file shows no port. -/
def QuietAt (env : Environment) (n : Nat) : Prop :=
  isOk (readPortTable (env n portCall)) ∨ staleVhciPorts (env (n + 1) .readVhciStatus) = []

theorem detachEach_detaches (env : Environment) (n : Nat) (port : Text) (ports : List Text) :
    ∃ more, events env n (detachEach (port :: ports))
      = ⟨detachCall port, env n (detachCall port)⟩ :: more := ⟨_, rfl⟩

/-- A table that is read at once is all there is to a read. -/
theorem resilient_of_ok {ports : List AttachedUsbPort}
    (h : readPortTable (env n portCall) = .ok ports) :
    events env n queryAttachedPortsResilient = [⟨portCall, env n portCall⟩] ∧
      result env n queryAttachedPortsResilient = ports := by
  have hresult : result env n queryAttachedPorts = .ok ports := h
  rw [queryAttachedPortsResilient, events_bind, result_bind, hresult]
  exact ⟨rfl, rfl⟩

/-- A read that fails looks for stale ports before it tries again. -/
theorem resilient_of_error {err : Text} (h : readPortTable (env n portCall) = .error err) :
    ∃ m, events env n queryAttachedPortsResilient
      = ⟨portCall, env n portCall⟩ :: ⟨.readVhciStatus, env (n + 1) .readVhciStatus⟩
        :: (events env (n + 2) (detachEach (staleVhciPorts (env (n + 1) .readVhciStatus)))
          ++ [⟨portCall, env m portCall⟩]) := by
  have hresult : result env n queryAttachedPorts = .error err := h
  rw [queryAttachedPortsResilient, events_bind, hresult, events_bind]
  exact ⟨_, rfl⟩

/-- Whatever has happened before, the table is what `usbip port` printed last. -/
theorem result_resilient (env : Environment) (n : Nat) :
    ∃ m, result env n queryAttachedPortsResilient =
      unwrapOrDefault (readPortTable (env m portCall)) := by
  cases h : readPortTable (env n portCall) with
  | ok ports => exact ⟨n, by rw [(resilient_of_ok h).2, h]; rfl⟩
  | error err =>
    have hresult : result env n queryAttachedPorts = .error err := h
    rw [queryAttachedPortsResilient, result_bind, hresult, result_bind]
    exact ⟨_, rfl⟩

theorem quietAt_iff_of_error {err : Text} (h : readPortTable (env n portCall) = .error err) :
    QuietAt env n ↔ staleVhciPorts (env (n + 1) .readVhciStatus) = [] := by
  have hfirst : ¬ isOk (readPortTable (env n portCall)) = true := by
    rw [h]
    exact Bool.false_ne_true
  rw [QuietAt, or_iff_right hfirst]

theorem noDetach_resilient_iff :
    NoDetach (events env n queryAttachedPortsResilient) ↔ QuietAt env n := by
  cases h : readPortTable (env n portCall) with
  | ok ports =>
    rw [(resilient_of_ok h).1]
    refine iff_of_true ?_ (Or.inl (by rw [h]; rfl))
    intro e he
    rw [List.mem_singleton.mp he]
    exact harmless_portCall
  | error err =>
    obtain ⟨m, hevents⟩ := resilient_of_error h
    rw [hevents]
    rw [quietAt_iff_of_error h]
    cases hstale : staleVhciPorts (env (n + 1) .readVhciStatus) with
    | nil =>
      refine iff_of_true ?_ rfl
      intro e he
      simp only [detachEach, events_ret, List.nil_append, List.mem_cons, List.not_mem_nil,
        or_false] at he
      rcases he with rfl | rfl | rfl
      · exact harmless_portCall
      · exact harmless_readVhciStatus
      · exact harmless_portCall
    | cons port ports =>
      refine iff_of_false (fun hno => ?_) (List.cons_ne_nil _ _)
      obtain ⟨more, hmore⟩ := detachEach_detaches env (n + 2) port ports
      refine hno ⟨detachCall port, env (n + 2) (detachCall port)⟩ ?_ port (detaches_detachCall port)
      rw [hmore]
      exact List.mem_cons_of_mem _ (List.mem_cons_of_mem _ List.mem_cons_self)

/-! ## The commands that look -/

theorem noDetach_runStatus_iff (remote : Option Text) (tcpPort : UInt16) :
    NoDetach (events env n (runStatus remote tcpPort)) ↔ QuietAt env n := by
  rw [← noDetach_resilient_iff]
  refine noDetach_bind_iff fun ports => (calls_printAll _).bind fun _ => ?_
  cases remote with
  | none => trivial
  | some remote =>
    refine (calls_printAll _).bind fun _ => (calls_queryRemoteDevices remote tcpPort).andThen ?_
    exact fun devices => (calls_printAll _).bind fun _ => trivial

theorem noDetach_loadRemoteDeviceStates_iff (remote : Text) (tcpPort : UInt16) :
    NoDetach (events env n (loadRemoteDeviceStates remote tcpPort)) ↔
      isOk (readDeviceList (env n (listCall remote tcpPort))) = false ∨ QuietAt env (n + 1) := by
  have hlist : NoDetach (events env n (queryRemoteDevices remote tcpPort)) :=
    (calls_queryRemoteDevices remote tcpPort).events env n
  rw [loadRemoteDeviceStates, Program.andThen, events_bind, noDetach_append, and_iff_right hlist]
  cases h : readDeviceList (env n (listCall remote tcpPort)) with
  | error err =>
    have hresult : result env n (queryRemoteDevices remote tcpPort) = .error err := h
    rw [hresult]
    exact iff_of_true noDetach_nil (Or.inl rfl)
  | ok devices =>
    have hresult : result env n (queryRemoteDevices remote tcpPort) = .ok devices := h
    rw [hresult, or_iff_right (fun h => nomatch h), ← noDetach_resilient_iff]
    exact noDetach_bind_iff fun ports =>
      (calls_queryRemoteOccupancy harmless_readOccupancy remote tcpPort).bind fun _ => trivial

theorem noDetach_loadRemoteDeviceStatesCached_iff (remote : Text) (tcpPort : UInt16)
    (cachedDevices : List RemoteUsbDevice) :
    NoDetach (events env n (loadRemoteDeviceStatesCached remote tcpPort cachedDevices)) ↔
      QuietAt env n := by
  rw [← noDetach_resilient_iff]
  refine noDetach_bind_iff fun ports => ?_
  split
  · refine (calls_queryRemoteDevices remote tcpPort).bind fun r => ?_
    cases r with
    | ok devices => exact calls_cachedStates harmless_readOccupancy remote tcpPort ports devices
    | error err =>
      dsimp only
      split
      · exact calls_cachedStates harmless_readOccupancy remote tcpPort ports cachedDevices
      · trivial
  · exact calls_cachedStates harmless_readOccupancy remote tcpPort ports cachedDevices

/-! ## Making room for an attach -/

/-- Every detach is of a port that the rule selects from a table read before it. -/
def Justified (target : AttachTarget) (events : List (Event Call.Answer)) : Prop :=
  ∀ before e after port, events = before ++ e :: after → e.1.Detaches port →
    ∃ answer ports, ⟨portCall, answer⟩ ∈ before ∧ readPortTable answer = .ok ports ∧
      port ∈ portsToDetach ports target

theorem calls_detachAll (ports : List Text) :
    (detachAll ports).Calls fun c => ∃ port ∈ ports, c = detachCall port := by
  suffices ∀ all : List Text, (∀ port ∈ ports, port ∈ all) →
      (detachAll ports).Calls fun c => ∃ port ∈ all, c = detachCall port from
    this ports fun _ h => h
  intro all
  induction ports with
  | nil => exact fun _ => trivial
  | cons port ports ih =>
    intro hall
    have hport : port ∈ all := hall port List.mem_cons_self
    have hdetach : (detachPort port).Calls fun c => ∃ port ∈ all, c = detachCall port :=
      calls_detachPort ⟨port, hport, rfl⟩
    exact hdetach.andThen fun _ => ih fun p hp => hall p (List.mem_cons_of_mem port hp)

/-- Before a detach stand all the calls of a part that detaches nothing. -/
theorem prefix_of_detach {looks detaches before after : List (Event Call.Answer)}
    {e : Event Call.Answer} {port : Text} (hlooks : NoDetach looks)
    (heq : looks ++ detaches = before ++ e :: after) (hport : e.1.Detaches port) :
    looks <+: before := by
  rcases List.append_eq_append_iff.mp heq with ⟨more, rfl, -⟩ | ⟨more, rfl, hmore⟩
  · exact List.prefix_append looks more
  · cases more with
    | nil => exact ⟨[], by rw [List.append_nil, List.append_nil]⟩
    | cons d more =>
      obtain ⟨rfl, -⟩ := List.cons.inj hmore
      exact absurd hport (hlooks e (List.mem_append_right _ List.mem_cons_self) port)

/-- Harmless calls first, a read of the table among them, and then what the table selects. -/
theorem justified_append {target : AttachTarget} {looks detaches : List (Event Call.Answer)}
    {answer : portCall.Answer} {ports : List AttachedUsbPort} (hlooks : NoDetach looks)
    (hread : ⟨portCall, answer⟩ ∈ looks) (htable : readPortTable answer = .ok ports)
    (hdetaches : ∀ e ∈ detaches, ∃ port ∈ portsToDetach ports target, e.1 = detachCall port) :
    Justified target (looks ++ detaches) := by
  intro before e after port heq hport
  refine ⟨answer, ports, (prefix_of_detach hlooks heq hport).subset hread, htable, ?_⟩
  have he : e ∈ looks ++ detaches := heq ▸ List.mem_append_right _ List.mem_cons_self
  rcases List.mem_append.mp he with he | he
  · exact absurd hport (hlooks e he port)
  · obtain ⟨p, hp, hcall⟩ := hdetaches e he
    rw [hcall] at hport
    exact eq_of_detaches_detachCall hport ▸ hp

theorem justified_of_noDetach {target : AttachTarget} {events : List (Event Call.Answer)}
    (h : NoDetach events) : Justified target events := by
  intro before e after port heq hport
  have he : e ∈ events := heq ▸ List.mem_append_right _ List.mem_cons_self
  exact absurd hport (h e he port)

theorem justified_autoDetach_of_ok {ports : List AttachedUsbPort} (target : AttachTarget)
    (h : readPortTable (env n portCall) = .ok ports) :
    Justified target (events env n (autoDetachMatchingPorts target)) := by
  obtain ⟨hevents, hresult⟩ := resilient_of_ok h
  rw [autoDetachMatchingPorts, events_bind, hevents, hresult]
  refine justified_append (fun e he => ?_) List.mem_cons_self h ?_
  · rw [List.mem_singleton.mp he]
    exact harmless_portCall
  · exact (calls_detachAll _).events env _

/-- A read that fails, with nothing to take for stale: the table is read again. -/
theorem resilient_of_error_nil {err : Text} (h : readPortTable (env n portCall) = .error err)
    (hstale : staleVhciPorts (env (n + 1) .readVhciStatus) = []) :
    events env n queryAttachedPortsResilient
        = [⟨portCall, env n portCall⟩, ⟨.readVhciStatus, env (n + 1) .readVhciStatus⟩,
          ⟨portCall, env (n + 2) portCall⟩] ∧
      result env n queryAttachedPortsResilient
        = unwrapOrDefault (readPortTable (env (n + 2) portCall)) := by
  have hresult : result env n queryAttachedPorts = .error err := h
  have hrecovery : events env (n + 1) detachStaleVhciPortsQuiet
      = [⟨.readVhciStatus, env (n + 1) .readVhciStatus⟩] := by
    rw [detachStaleVhciPortsQuiet, events_call, hstale]
    rfl
  have hlen : (events env n queryAttachedPorts).length = 1 := rfl
  simp only [queryAttachedPortsResilient, events_bind, result_bind, hresult, hlen, hrecovery]
  exact ⟨rfl, rfl⟩

theorem justified_autoDetach_iff (target : AttachTarget) :
    Justified target (events env n (autoDetachMatchingPorts target)) ↔ QuietAt env n := by
  cases h : readPortTable (env n portCall) with
  | ok ports =>
    exact iff_of_true (justified_autoDetach_of_ok target h) (Or.inl (by rw [h]; rfl))
  | error err =>
    rw [quietAt_iff_of_error h]
    cases hstale : staleVhciPorts (env (n + 1) .readVhciStatus) with
    | nil =>
      refine iff_of_true ?_ rfl
      have hquiet : NoDetach (events env n queryAttachedPortsResilient) :=
        noDetach_resilient_iff.mpr (Or.inr hstale)
      obtain ⟨hevents, hresult⟩ := resilient_of_error_nil h hstale
      rw [autoDetachMatchingPorts, events_bind, hresult]
      cases hagain : readPortTable (env (n + 2) portCall) with
      | ok ports =>
        refine justified_append hquiet ?_ hagain ((calls_detachAll _).events env _)
        rw [hevents]
        exact List.mem_cons_of_mem _ (List.mem_cons_of_mem _ List.mem_cons_self)
      | error err =>
        exact justified_of_noDetach (noDetach_append.mpr ⟨hquiet, noDetach_nil⟩)
    | cons port ports =>
      -- The first stale port is detached while no table has been read.
      refine iff_of_false (fun hj => ?_) (List.cons_ne_nil _ _)
      obtain ⟨m, hevents⟩ := resilient_of_error h
      obtain ⟨more, hmore⟩ := detachEach_detaches env (n + 2) port ports
      rw [hstale, hmore] at hevents
      obtain ⟨answer, table, hread, htable, -⟩ :=
        hj [⟨portCall, env n portCall⟩, ⟨.readVhciStatus, env (n + 1) .readVhciStatus⟩]
          ⟨detachCall port, env (n + 2) (detachCall port)⟩ _ port
          (by rw [autoDetachMatchingPorts, events_bind, hevents]; rfl) (detaches_detachCall port)
      simp only [List.mem_cons, List.not_mem_nil, or_false] at hread
      rcases hread with hread | hread
      · cases hread
        rw [h] at htable
        cases htable
      · cases hread

/-- **Looking detaches nothing, and an attach detaches what is in its way, exactly where the first
    read of the port table succeeds or finds no port to take for stale.** -/
theorem looking_detaches_nothing_iff (env : Environment) :
    (∀ remote tcpPort, NoDetach (events env 0 (runStatus remote tcpPort)) ↔ QuietAt env 0) ∧
      (∀ remote tcpPort, NoDetach (events env 0 (loadRemoteDeviceStates remote tcpPort)) ↔
        isOk (readDeviceList (env 0 (listCall remote tcpPort))) = false ∨ QuietAt env 1) ∧
      (∀ remote tcpPort cachedDevices,
        NoDetach (events env 0 (loadRemoteDeviceStatesCached remote tcpPort cachedDevices)) ↔
          QuietAt env 0) ∧
      ∀ target, Justified target (events env 0 (autoDetachMatchingPorts target)) ↔ QuietAt env 0 :=
  ⟨noDetach_runStatus_iff, noDetach_loadRemoteDeviceStates_iff,
    noDetach_loadRemoteDeviceStatesCached_iff, justified_autoDetach_iff⟩

/-- `usbip port` times out once, while a device is attached to port 0. -/
def portTimesOut : Environment := fun n c =>
  match c with
  | .run program _ =>
      if n = 0 then .error (program ++ " timed out after 20 seconds".toList)
      else .ok { success := true, stdout := [], stderr := [] }
  | .runInteractive _ _ => .ok true
  | .readVhciStatus =>
      .ok ("hub port sta spd dev      sockfd local_busid\n".toList
        ++ "hs  0000 006 003 00010002 000003 1-2\n".toList)
  | .readOccupancy _ => .error []
  | .selectOne _ _ _ => .error []
  | .acquireSessionLock _ _ => .ok ()
  | .dropSessionLock _ _ => ()
  | .println _ => ()

theorem status_detaches : ¬ NoDetach (events portTimesOut 0 (runStatus none 3240)) := by
  rw [noDetach_runStatus_iff]
  rintro (h | h)
  · cases h
  · revert h
    decide

end Client
end Lusbip
