import Lusbip.Lib.History
import Lusbip.Client.ExitPath
import Lusbip.Client.Agent
import Lusbip.Tui.Provenance

/-!
# The list of the remote ports

`run_remote_control_tui` is `run_action_list` with three closures: one loads the rows, with a cache of
the devices behind a lock, one carries out what the space bar asks for, one leaves. Here they run
beside the list, against an outside that answers as it likes, and `log` keeps what they did.

A row says what is to be done with it by its label alone. The label was written when the row was
loaded, may have been toggled since, and is read when its turn comes.
-/

namespace Lusbip
namespace Client

open Lib
open Lib.Fields
open Lib.Program
open Lib.Transition
open Agent (TuiItem rowItem)
open Tui (ActionList Move)

/-! ## What is told of an error -/

/-- The text has the part somewhere. -/
def mentions (part text : Text) : Bool := (splitOnce part text).isSome

/-- The first line that is not blank. -/
def firstErrorLine (error : Text) : Option Text :=
  ((lines error).map (trim isWhitespace)).find? fun line => line ≠ []

/-- What the user is told of an error: a hint at what can be done about it, where the error is a
    known one. -/
def friendlyClientError (error remote : Text) (tcpPort : UInt16) : Text :=
  let normalized := toAsciiLowercase error
  let doctor := "lusbip doctor --remote ".toList ++ remote ++ " --tcp-port ".toList
    ++ decimal tcpPort.toNat ++ " --fix".toList
  if mentions "sudo:".toList normalized || mentions "interactive authentication".toList normalized
      || mentions "a password is required".toList normalized then
    "Cần quyền sudo. Chạy `sudo -v`, sau đó chạy `".toList ++ doctor ++ "`.".toList
  else if mentions "open vhci_driver".toList normalized || mentions "vhci".toList normalized
      || mentions "list imported devices".toList normalized
      || mentions "udev_device_new_from_subsystem_sysname".toList normalized then
    "Client chưa sẵn sàng USB/IP VHCI. Chạy `".toList ++ doctor ++ "`.".toList
  else if mentions "failed to execute usbip".toList normalized
      || mentions "no such file".toList normalized then
    "Thiếu công cụ usbip trên client. Chạy `".toList ++ doctor ++ "`.".toList
  else if mentions "could not connect".toList normalized
      || mentions "connection refused".toList normalized then
    "Không kết nối được server ".toList ++ remote ++ ":".toList ++ decimal tcpPort.toNat
      ++ ". Kiểm tra server hoặc chạy `".toList ++ doctor ++ "`.".toList
  else
    (firstErrorLine error).getD
      ("Lỗi client. Chạy `".toList ++ doctor ++ "` để kiểm tra.".toList)

/-! ## The closures -/

variable (remote : Text) (tcpPort : UInt16)

/-- The rows of the states, or what is told of the error. -/
def rowsOfStates : Except Text (List RemoteUsbDeviceState) → Except Text (List TuiItem)
  | .ok states => .ok (states.map rowItem)
  | .error err => .error (friendlyClientError err remote tcpPort)

/-- The port that a label names, up to the first blank. -/
def portOfLabel (label : Text) : Option Text :=
  (stripPrefix "[x] port ".toList label).bind fun rest => (words rest).head?

/-- A message stays as it is, and an error is put into plain words. -/
def friendly : Except Text Text → Except Text Text
  | .ok message => .ok message
  | .error err => .error (friendlyClientError err remote tcpPort)

/-- What becomes of a detach by the label. -/
def detachMessage (port : Text) : Except Text Unit → Except Text Text
  | .ok _ => .ok ("Detached USB/IP port ".toList ++ port)
  | .error err => .error (friendlyClientError err remote tcpPort)

/-- The selected row is looked up again. -/
def toggleLoaded (item : TuiItem) (cachedDevices : List RemoteUsbDevice) :
    Except Text (List RemoteUsbDeviceState) →
      Command (Except Text Text × List RemoteUsbDevice)
  | .error err => .ret (.error (friendlyClientError err remote tcpPort), cachedDevices)
  | .ok states =>
      match states.find? fun state => state.device.busId = item.id with
      | none => .ret (.error "Selected USB device is no longer available".toList, cachedDevices)
      | some selected =>
          (toggleRemoteDevice remote tcpPort selected).bind fun result =>
            .ret (friendly remote tcpPort result, cachedDevices)

/-- The closure for the space bar. -/
def activateItem (item : TuiItem) (cachedDevices : List RemoteUsbDevice) :
    Command (Except Text Text × List RemoteUsbDevice) :=
  match portOfLabel item.label with
  | some port =>
      (detachPort port).bind fun result => .ret (detachMessage remote tcpPort port result, cachedDevices)
  | none =>
      (loadRemoteDeviceStatesCached remote tcpPort cachedDevices).bind fun (states, cachedDevices) =>
        toggleLoaded remote tcpPort item cachedDevices states

/-! ## What the closures call -/

section

variable {remote : Text} {tcpPort : UInt16} {allowed : Call → Prop}

/-- Only a number gets into the script. -/
theorem exists_of_normalizedVhciPort {port number : Text} (h : normalizedVhciPort port = .ok number) :
    ∃ n < 65536, number = decimal n := by
  unfold normalizedVhciPort at h
  split at h
  · rename_i n hn
    cases h
    exact ⟨n, lt_of_parseUnsigned hn, rfl⟩
  · cases h

theorem calls_queryAttachedPortsResilient (hport : allowed portCall)
    (hstatus : allowed .readVhciStatus) (hdetach : ∀ port, allowed (detachCall port))
    (hdirect : ∀ n < 65536, allowed (directDetachCall (decimal n))) :
    queryAttachedPortsResilient.Calls allowed := by
  refine calls_resilient hport hstatus hdetach fun port number hnumber => ?_
  obtain ⟨n, hn, rfl⟩ := exists_of_normalizedVhciPort hnumber
  exact hdirect n hn

theorem calls_detachAll_of_allowed (hdetach : ∀ port, allowed (detachCall port))
    (ports : List Text) : (detachAll ports).Calls allowed :=
  (calls_detachAll ports).imp fun _ ⟨port, _, hport⟩ => hport ▸ hdetach port

variable (hports : queryAttachedPortsResilient.Calls allowed)

include hports

theorem calls_loadCached (hlist : allowed (listCall remote tcpPort))
    (hoccupancy : ∀ addr, allowed (.readOccupancy addr)) (cachedDevices : List RemoteUsbDevice) :
    (loadRemoteDeviceStatesCached remote tcpPort cachedDevices).Calls allowed := by
  refine hports.bind fun ports => ?_
  have hcached : ∀ devices, (cachedStates remote tcpPort ports devices).Calls allowed :=
    calls_cachedStates hoccupancy remote tcpPort ports
  split
  · refine Calls.bind (calls_ask hlist _) fun devices => ?_
    cases devices with
    | ok devices => exact hcached devices
    | error err =>
      dsimp only
      split
      · exact hcached cachedDevices
      · trivial
  · exact hcached cachedDevices

theorem calls_toggleRemoteDevice (hdetach : ∀ port, allowed (detachCall port))
    (selected : RemoteUsbDeviceState)
    (hattach : allowed (attachCall remote tcpPort selected.device.busId)) :
    (toggleRemoteDevice remote tcpPort selected).Calls allowed := by
  unfold toggleRemoteDevice
  split
  · exact (calls_detachPort (hdetach _)).andThen fun _ => trivial
  · trivial
  · have hroom : (autoDetachMatchingPorts (attachTarget remote selected.device)).Calls allowed :=
      hports.bind fun _ => calls_detachAll_of_allowed hdetach _
    exact hroom.andThen fun _ => Calls.andThen (calls_ask hattach _) fun _ => trivial

/-- The space bar attaches the device of its row, if it attaches one. -/
theorem calls_activateItem (hlist : allowed (listCall remote tcpPort))
    (hoccupancy : ∀ addr, allowed (.readOccupancy addr))
    (hdetach : ∀ port, allowed (detachCall port)) (item : TuiItem)
    (hattach : allowed (attachCall remote tcpPort item.id))
    (cachedDevices : List RemoteUsbDevice) :
    (activateItem remote tcpPort item cachedDevices).Calls allowed := by
  unfold activateItem
  split
  · exact (calls_detachPort (hdetach _)).bind fun _ => trivial
  · refine (calls_loadCached hports hlist hoccupancy cachedDevices).bind fun loaded => ?_
    obtain ⟨states, devices⟩ := loaded
    show (toggleLoaded remote tcpPort item devices states).Calls _
    unfold toggleLoaded
    split
    · trivial
    · split
      · trivial
      · rename_i selected hfind
        have hid : selected.device.busId = item.id := by simpa using List.find?_some hfind
        rw [← hid] at hattach
        exact (calls_toggleRemoteDevice hports hdetach selected hattach).bind fun _ => trivial

end

/-! ## The list and its closures -/

/-- What a closure has done: the rows it has loaded, or the calls of an action with their answers.
    -/
inductive Entry where
  | loaded (states : List RemoteUsbDeviceState)
  | activated (item : TuiItem) (events : List (Event Call.Answer))

/-- The list on the screen, with the cache of its closures. -/
structure RemoteControl where
  list : ActionList
  cachedDevices : List RemoteUsbDevice
  /-- What the closures have done, the oldest first. -/
  log : List Entry

namespace RemoteControl

/-- What happens next: the list makes a move of its own, or a thread carries out a closure. -/
inductive Action where
  | move (move : Move)
  /-- The thread of the refreshes loads the rows. -/
  | load (env : Environment)
  /-- The thread of the actions carries one out. -/
  | activate (env : Environment)

/-- The rows, if they could be loaded. -/
def statesOf : Except Text (List RemoteUsbDeviceState) → List RemoteUsbDeviceState
  | .ok states => states
  | .error _ => []

/-- The list before its first round; the first rows are loaded before there are threads. -/
def start (env : Environment) : Option RemoteControl :=
  match result env 0 (loadRemoteDeviceStatesCached remote tcpPort []) with
  | (.ok states, cachedDevices) =>
      some
        { list := .start (states.map rowItem)
          cachedDevices
          log := [.loaded states] }
  | (.error _, _) => none

/-- The moves of the list that bring the result of a closure are made by the closure itself. -/
def step (s : RemoteControl) : Action → Option RemoteControl
  | .move move =>
      match move with
      | .loaded _ | .activated _ => none
      | move => (s.list.step move).map fun list => { s with list }
  | .load env =>
      let (states, cachedDevices) :=
        result env 0 (loadRemoteDeviceStatesCached remote tcpPort s.cachedDevices)
      (s.list.step (.loaded (rowsOfStates remote tcpPort states))).map fun list =>
        { list, cachedDevices, log := s.log ++ [.loaded (statesOf states)] }
  | .activate env =>
      match s.list.actionThread with
      | .working action =>
          let program := activateItem remote tcpPort action.item s.cachedDevices
          let (message, cachedDevices) := result env 0 program
          (s.list.step (.activated message)).map fun list =>
            { list
              cachedDevices
              log := s.log ++ [.activated action.item (events env 0 program)] }
      | _ => none

/-! ## Rows and the labels they may have -/

variable {remote : Text} {tcpPort : UInt16}

/-- The states that have been loaded so far. -/
def loadedStates (log : List Entry) : List RemoteUsbDeviceState :=
  log.flatMap fun
    | .loaded states => states
    | .activated _ _ => []

/-- A row as it was loaded, or toggled: then its label names no port. -/
def Plausible (log : List Entry) (item : TuiItem) : Prop :=
  (∃ state ∈ loadedStates log, item = rowItem state) ∨
    ("[x] | ".toList <+: item.label ∨ "[ ] | ".toList <+: item.label)

theorem Plausible.append {log : List Entry} {item : TuiItem} (h : Plausible log item)
    (entry : Entry) : Plausible (log ++ [entry]) item := by
  refine h.imp_left fun ⟨state, hstate, heq⟩ => ⟨state, ?_, heq⟩
  unfold loadedStates at hstate ⊢
  rw [List.flatMap_append]
  exact List.mem_append_left _ hstate

theorem label_attached {state : RemoteUsbDeviceState} {port : Text}
    (h : state.attachedPort = some port) :
    (rowItem state).label = "[x] port ".toList ++ (port ++ (" | ".toList ++ (state.device.busId ++
      (" | ".toList ++ state.device.description)))) := by
  show formatRemoteDeviceState state = _
  unfold formatRemoteDeviceState
  rw [h]
  simp only [List.append_assoc]

theorem label_locked {state : RemoteUsbDeviceState} {client : Text}
    (h : state.attachedPort = none) (ho : state.occupiedBy = some client) :
    ∃ rest, (rowItem state).label = "[!] locked by ".toList ++ rest := by
  show ∃ rest, formatRemoteDeviceState state = _
  unfold formatRemoteDeviceState
  rw [h, ho]
  dsimp only
  rw [List.append_assoc, List.append_assoc, List.append_assoc, List.append_assoc]
  exact ⟨_, rfl⟩

theorem label_free {state : RemoteUsbDeviceState} (h : state.attachedPort = none)
    (ho : state.occupiedBy = none) : ∃ rest, (rowItem state).label = "[ ] | ".toList ++ rest := by
  show ∃ rest, formatRemoteDeviceState state = _
  unfold formatRemoteDeviceState
  rw [h, ho]
  dsimp only
  rw [List.append_assoc, List.append_assoc, List.append_assoc]
  exact ⟨_, rfl⟩

theorem toggle_free (rest : Text) (actionWasAttach : Bool) :
    "[x] | ".toList <+: Tui.optimisticToggleLabel ("[ ] | ".toList ++ rest) actionWasAttach ∨
      "[ ] | ".toList <+: Tui.optimisticToggleLabel ("[ ] | ".toList ++ rest) actionWasAttach := by
  cases actionWasAttach with
  | true => exact Or.inl ⟨rest, rfl⟩
  | false => exact Or.inr ⟨rest, rfl⟩

theorem toggle_taken (rest : Text) (actionWasAttach : Bool) :
    "[x] | ".toList <+: Tui.optimisticToggleLabel ("[x] | ".toList ++ rest) actionWasAttach ∨
      "[ ] | ".toList <+: Tui.optimisticToggleLabel ("[x] | ".toList ++ rest) actionWasAttach := by
  cases actionWasAttach with
  | true => exact Or.inl ⟨rest, rfl⟩
  | false => exact Or.inr ⟨rest, rfl⟩

/-- A label with a port loses it when it is toggled. -/
theorem toggle_attached (rest : Text) (actionWasAttach : Bool) :
    Tui.optimisticToggleLabel ("[x] port ".toList ++ rest) actionWasAttach =
        "[x] port ".toList ++ rest ∨
      "[ ] | ".toList <+:
        Tui.optimisticToggleLabel ("[x] port ".toList ++ rest) actionWasAttach := by
  cases actionWasAttach with
  | true => exact Or.inl rfl
  | false =>
    refine Or.inr ?_
    unfold Tui.optimisticToggleLabel
    rw [if_neg Bool.false_ne_true, stripPrefix_append]
    exact List.prefix_append _ _

/-- A lock is nothing that an action changes. -/
theorem toggle_locked (rest : Text) (actionWasAttach : Bool) :
    Tui.optimisticToggleLabel ("[!] locked by ".toList ++ rest) actionWasAttach =
      "[!] locked by ".toList ++ rest := by
  cases actionWasAttach with
  | true => rfl
  | false => rfl

/-- **Toggling makes no label that names a port.** -/
theorem plausible_closed (log : List Entry) : ActionList.Closed (Plausible log) := by
  rintro actionWasAttach item (⟨state, hstate, rfl⟩ | hlabel)
  · have hsame : Tui.optimisticToggleLabel (rowItem state).label actionWasAttach =
        (rowItem state).label → Plausible log (Tui.toggled actionWasAttach (rowItem state)) := by
      intro heq
      refine Or.inl ⟨state, hstate, ?_⟩
      unfold Tui.toggled
      rw [heq]
    cases hport : state.attachedPort with
    | some port =>
      have hlabel := label_attached hport
      rcases toggle_attached (port ++ (" | ".toList ++ (state.device.busId ++
        (" | ".toList ++ state.device.description)))) actionWasAttach with heq | hfree
      · exact hsame (by rw [hlabel]; exact heq)
      · refine Or.inr (Or.inr ?_)
        show _ <+: Tui.optimisticToggleLabel (rowItem state).label actionWasAttach
        rw [hlabel]
        exact hfree
    | none =>
      cases hclient : state.occupiedBy with
      | some client =>
        obtain ⟨rest, hlabel⟩ := label_locked hport hclient
        exact hsame (by rw [hlabel]; exact toggle_locked rest actionWasAttach)
      | none =>
        obtain ⟨rest, hlabel⟩ := label_free hport hclient
        refine Or.inr ?_
        show _ <+: Tui.optimisticToggleLabel (rowItem state).label actionWasAttach ∨ _
        rw [Tui.toggled, hlabel]
        exact toggle_free rest actionWasAttach
  · refine Or.inr ?_
    show _ <+: Tui.optimisticToggleLabel item.label actionWasAttach ∨
      _ <+: Tui.optimisticToggleLabel item.label actionWasAttach
    rcases hlabel with ⟨rest, hrest⟩ | ⟨rest, hrest⟩
    · rw [← hrest]
      exact toggle_taken rest actionWasAttach
    · rw [← hrest]
      exact toggle_free rest actionWasAttach

/-! ## What a label names -/

/-- A number as `usbip` prints it: one word. -/
structure IsWord (t : Text) : Prop where
  solid : Solid t
  nonempty : t ≠ []

instance (t : Text) : Decidable (IsWord t) :=
  have : Decidable (∀ c ∈ t, isWhitespace c = false) :=
    List.decidableBAll (fun c => isWhitespace c = false) t
  decidable_of_iff ((∀ c ∈ t, isWhitespace c = false) ∧ t ≠ [])
    ⟨fun h => ⟨h.1, h.2⟩, fun h => ⟨h.solid, h.nonempty⟩⟩

theorem wordsFrom_append_blank {word t : Text} (h : Solid t) (hne : word ++ t ≠ []) (rest : Text) :
    wordsFrom word (t ++ ' ' :: rest) = (word ++ t) :: wordsFrom [] rest := by
  induction t generalizing word with
  | nil =>
    rw [List.append_nil] at hne
    rw [List.nil_append, wordsFrom, if_pos (by decide), if_neg hne, List.append_nil]
    rfl
  | cons c t ih =>
    rw [List.cons_append, wordsFrom, h c List.mem_cons_self, if_neg Bool.false_ne_true,
      ih (fun d hd => h d (List.mem_cons_of_mem c hd)) (by simp), List.append_assoc,
      List.singleton_append]

theorem IsWord.words_append {t : Text} (h : IsWord t) (rest : Text) :
    words (t ++ ' ' :: rest) = t :: words rest :=
  @wordsFrom_append_blank [] t h.solid h.nonempty rest

/-- **The port of a label is that of a state which was loaded** for this row. -/
theorem Plausible.port {log : List Entry} {item : TuiItem} (h : Plausible log item)
    (hwords : ∀ state ∈ loadedStates log, ∀ port ∈ state.attachedPort, IsWord port) {port : Text}
    (hport : portOfLabel item.label = some port) :
    ∃ state ∈ loadedStates log, item = rowItem state ∧ state.attachedPort = some port := by
  rcases h with ⟨state, hstate, rfl⟩ | ⟨rest, hrest⟩ | ⟨rest, hrest⟩
  · refine ⟨state, hstate, rfl, ?_⟩
    cases hattached : state.attachedPort with
    | some attached =>
      rw [portOfLabel, label_attached hattached, stripPrefix_append, Option.bind_some] at hport
      have hword := hwords state hstate attached hattached
      have hhead := hword.words_append ("| ".toList ++ (state.device.busId ++
        (" | ".toList ++ state.device.description)))
      have hlabel : attached ++ (" | ".toList ++ (state.device.busId ++
          (" | ".toList ++ state.device.description))) =
          attached ++ ' ' :: ("| ".toList ++ (state.device.busId ++
            (" | ".toList ++ state.device.description))) := rfl
      rw [hlabel, hhead] at hport
      exact hport
    | none =>
      cases hclient : state.occupiedBy with
      | some client =>
        obtain ⟨rest, hlabel⟩ := label_locked hattached hclient
        rw [portOfLabel, hlabel] at hport
        cases hport
      | none =>
        obtain ⟨rest, hlabel⟩ := label_free hattached hclient
        rw [portOfLabel, hlabel] at hport
        cases hport
  · rw [portOfLabel, ← hrest] at hport
    cases hport
  · rw [portOfLabel, ← hrest] at hport
    cases hport

/-! ## What is attached -/

/-- If the call attaches something, it attaches the device. -/
def AttachesOnly (remote : Text) (tcpPort : UInt16) (busId : Text) (c : Call) : Prop :=
  ∀ remote' tcpPort' busId', c = attachCall remote' tcpPort' busId' →
    c = attachCall remote tcpPort busId

variable {busId : Text}

theorem attachesOnly_of_ne {c : Call} (h : ∀ r t b, c ≠ attachCall r t b) :
    AttachesOnly remote tcpPort busId c := fun r t b heq => absurd heq (h r t b)

theorem attachesOnly_usbip (args : List Text) :
    AttachesOnly remote tcpPort busId (.run "usbip".toList args) :=
  attachesOnly_of_ne fun _ _ _ h => absurd (Call.run.inj h).1 (by decide)

theorem attachesOnly_detachCall (port : Text) :
    AttachesOnly remote tcpPort busId (detachCall port) := by
  refine attachesOnly_of_ne fun _ _ _ h => ?_
  have hlen := congrArg List.length (Call.run.inj h).2
  simp at hlen

theorem attachesOnly_directDetachCall (port : Text) :
    AttachesOnly remote tcpPort busId (directDetachCall port) :=
  attachesOnly_of_ne fun _ _ _ h => nomatch h

theorem attachesOnly_readOccupancy (addr : Text) :
    AttachesOnly remote tcpPort busId (.readOccupancy addr) :=
  attachesOnly_of_ne fun _ _ _ h => nomatch h

theorem attachesOnly_attachCall :
    AttachesOnly remote tcpPort busId (attachCall remote tcpPort busId) := fun _ _ _ _ => rfl

theorem attachesOnly_activateItem (item : TuiItem) (cachedDevices : List RemoteUsbDevice) :
    (activateItem remote tcpPort item cachedDevices).Calls
      (AttachesOnly remote tcpPort item.id) := by
  refine calls_activateItem ?_ (attachesOnly_usbip _) attachesOnly_readOccupancy
    attachesOnly_detachCall item attachesOnly_attachCall cachedDevices
  exact calls_queryAttachedPortsResilient (attachesOnly_usbip _)
    (attachesOnly_of_ne fun _ _ _ h => nomatch h) attachesOnly_detachCall
    fun _ _ => attachesOnly_directDetachCall _

/-! ## Runs -/

/-- What is done for a row, in view of what was loaded before. -/
structure ActsOnRow (remote : Text) (tcpPort : UInt16) (before : List Entry) (item : TuiItem)
    (events : List (Event Call.Answer)) : Prop where
  /-- A port that the label names is detached, nothing else is called, and the port was loaded as
      that of the row. -/
  detaches : ∀ port, portOfLabel item.label = some port →
    events.map (·.1) = [detachCall port] ∧
      ∃ state ∈ loadedStates before, item = rowItem state ∧ state.attachedPort = some port
  /-- Only the device of the row is attached. -/
  attaches : ∀ e ∈ events, AttachesOnly remote tcpPort item.id e.1

/-- Every activation in the log does what its row shows. -/
def Obeyed (remote : Text) (tcpPort : UInt16) (before : List Entry) : Entry → Prop
  | .loaded _ => True
  | .activated item events => ActsOnRow remote tcpPort before item events

/-- `usbip` numbers the ports by words. -/
def NumbersWords (log : List Entry) : Prop :=
  ∀ state ∈ loadedStates log, ∀ port ∈ state.attachedPort, IsWord port

instance (log : List Entry) : Decidable (NumbersWords log) :=
  inferInstanceAs (Decidable (∀ state ∈ loadedStates log, ∀ port ∈ state.attachedPort, _))

theorem loadedStates_append (log log' : List Entry) :
    loadedStates (log ++ log') = loadedStates log ++ loadedStates log' := List.flatMap_append

theorem NumbersWords.of_append {log log' : List Entry} (h : NumbersWords (log ++ log')) :
    NumbersWords log := fun state hstate => h state (by
  rw [loadedStates_append]
  exact List.mem_append_left _ hstate)

theorem actsOnRow {log : List Entry} {item : TuiItem} (hitem : Plausible log item)
    (hwords : NumbersWords log) (env : Environment) (cachedDevices : List RemoteUsbDevice) :
    ActsOnRow remote tcpPort log item
      (events env 0 (activateItem remote tcpPort item cachedDevices)) where
  detaches port hport := by
    refine ⟨?_, hitem.port hwords hport⟩
    unfold activateItem
    rw [hport]
    rfl
  attaches := (attachesOnly_activateItem item cachedDevices).events env 0

/-- What every state of a run is: the rows are those of a state that was loaded, and the actions are
    what their rows allowed. -/
structure Kept (remote : Text) (tcpPort : UInt16) (s : RemoteControl) : Prop where
  rows : s.list.Holds (Plausible s.log)
  obeyed : NumbersWords s.log → Ruled (Obeyed remote tcpPort) s.log

theorem plausible_loaded {log : List Entry} {states : List RemoteUsbDeviceState} :
    ∀ item ∈ states.map rowItem, Plausible (log ++ [.loaded states]) item := by
  intro item hitem
  obtain ⟨state, hstate, rfl⟩ := List.mem_map.mp hitem
  refine Or.inl ⟨state, ?_, rfl⟩
  rw [loadedStates_append]
  exact List.mem_append_right _ (List.mem_flatMap.mpr ⟨_, List.mem_singleton_self _, hstate⟩)

variable {s t : RemoteControl}

theorem kept_start {env : Environment} (h : start remote tcpPort env = some s) :
    Kept remote tcpPort s := by
  unfold start at h
  split at h
  · cases h
    refine ⟨ActionList.holds_start (@plausible_loaded [] _), fun _ => ?_⟩
    exact Ruled.snoc ruled_nil trivial
  · cases h

theorem Kept.step (h : Kept remote tcpPort s) {action : Action}
    (hs : step remote tcpPort s action = some t) : Kept remote tcpPort t := by
  unfold RemoteControl.step at hs
  cases action with
  | move move =>
    dsimp only at hs
    split at hs
    · cases hs
    · cases hs
    -- A move of the list alone adds no row, so what is plausible stays so.
    · rename_i hloaded hactivated
      obtain ⟨list, hlist, rfl⟩ := Option.map_eq_some_iff.mp hs
      have hmove : ActionList.Move.Loads (Plausible s.log) move := by
        unfold ActionList.Move.Loads
        split
        · rename_i items
          exact absurd rfl (hloaded (.ok items))
        · trivial
      exact ⟨h.rows.step (plausible_closed s.log) hmove hlist, h.obeyed⟩
  | load env =>
    dsimp only at hs
    obtain ⟨list, hlist, rfl⟩ := Option.map_eq_some_iff.mp hs
    -- The log grows by this load, and what was plausible before is so still.
    have hmore := h.rows.imp fun item hitem => hitem.append
      (.loaded (statesOf (result env 0 (loadRemoteDeviceStatesCached remote tcpPort
        s.cachedDevices)).1))
    refine ⟨hmore.step (plausible_closed _) ?_ hlist, fun hwords => ?_⟩
    · cases (result env 0 (loadRemoteDeviceStatesCached remote tcpPort s.cachedDevices)).1 with
      | ok states => exact plausible_loaded
      | error err => trivial
    · exact (h.obeyed hwords.of_append).snoc trivial
  | activate env =>
    dsimp only at hs
    split at hs
    · rename_i action hthread
      obtain ⟨list, hlist, rfl⟩ := Option.map_eq_some_iff.mp hs
      -- The row that is acted on has been loaded before.
      have hitem : Plausible s.log action.item := by
        refine h.rows.actions action ?_
        simp [ActionList.unfinished, ActionList.underway, Tui.Thread.jobs, hthread]
      have hmore := h.rows.imp fun item hitem => hitem.append
        (.activated action.item
          (events env 0 (activateItem remote tcpPort action.item s.cachedDevices)))
      refine ⟨hmore.step (plausible_closed _) ?_ hlist, fun hwords => ?_⟩
      · trivial
      · exact (h.obeyed hwords.of_append).snoc (actsOnRow hitem hwords.of_append env _)
    · cases hs

/-- **The space bar does what the row shows.** In every run of the list, whatever is answered and
    however the threads take turns: an activation of a row that shows a port makes one call, to
    detach that port, and the port was loaded for this very row; and no activation attaches another
    device than its row's. -/
theorem activations_obey_rows {env : Environment} {s₀ : RemoteControl} {actions : List Action}
    (hstart : start remote tcpPort env = some s₀)
    (hrun : run (step remote tcpPort) s₀ actions = some s) (hwords : NumbersWords s.log) :
    Ruled (Obeyed remote tcpPort) s.log :=
  (invariant_of_run (fun _ _ _ hk hs => Kept.step hk hs) (kept_start hstart) hrun).obeyed hwords

/-- The adapter is exported, and attached at port 0. -/
def adapterAttached : Environment :=
  quitting
    (.ok
      { success := true
        stdout := "1-1: Silicon Labs : CP210x UART Bridge (10c4:ea60)\n".toList
        stderr := [] })
    (.ok
      { success := true
        stdout := "Port 00: <Port in Use>\n 1-1 -> usbip://10.10.61.72:3240/1-1\n".toList
        stderr := [] })

/-- The row of the adapter is drawn, and the space bar is pressed. -/
def pressSpace : List Action :=
  [.move .result, .move .snapshot, .move (.draw false (.ok ())),
    .move (.event (.key { code := .char ' ' })), .move .takeAction, .activate adapterAttached]

theorem adapterAttached_starts :
    (start adapterServer 3240 adapterAttached).isSome = true := by
  decide +kernel

theorem pressSpace_runs :
    (run (step adapterServer 3240)
      ((start adapterServer 3240 adapterAttached).get adapterAttached_starts)
      pressSpace).isSome = true := by
  decide +kernel

theorem pressSpace_obeys_row :
    Ruled (Obeyed adapterServer 3240)
      ((run (step adapterServer 3240)
        ((start adapterServer 3240 adapterAttached).get adapterAttached_starts)
        pressSpace).get pressSpace_runs).log :=
  activations_obey_rows (Option.some_get adapterAttached_starts).symm
    (Option.some_get pressSpace_runs).symm (by decide +kernel)

end RemoteControl
end Client
end Lusbip
