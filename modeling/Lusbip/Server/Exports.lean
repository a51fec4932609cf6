import Mathlib.Logic.Function.Basic
import Lusbip.Lib.Transition
import Lusbip.Server.Listing

/-!
# The two lists, lock by lock

`available_devices` and `used_devices` have a lock each. `release` and the first half of the
synchronisation hold both; `occupy` takes one after the other, and between the two the device
is in neither list, in the hands of a task. The device list reads the lists one after the
other, too. Here every section under a lock is a step, and the tasks of any number of
connections and the synchronisation take them in any order.

What is plugged in and shared is fixed, and no task panics. A connection is a number; one that
is not there yet is one that has not sent anything.

The state carries two histories that no step reads: the bus ids that have been exported so far,
and the device lists that were sent.
-/

namespace Lusbip

namespace Inventory

/-! ## The two sections of `occupy` -/

/-- Under the lock of the available devices. -/
def takeAvailable (inv : Inventory) (busId : String) : Option (UsbDevice × Inventory) :=
  (inv.available.find? fun d => d.busId = busId).map fun device =>
    (prepareDeviceForImport device,
      { inv with available := inv.available.eraseP fun d => d.busId = busId })

/-- Under the lock of the used devices. -/
def insertUsed (inv : Inventory) (device : UsbDevice) : Inventory :=
  { inv with
    used :=
      if inv.used.any fun d => d.busId = device.busId then inv.used else inv.used ++ [device] }

variable {inv inv' : Inventory} {d : UsbDevice} {busId x : String}

theorem mem_busIds_release_available :
    x ∈ busIds (inv.release d).available ↔ x ∈ busIds inv.available ∨ x = d.busId := by
  rw [mem_busIds, mem_busIds]
  constructor
  · rintro ⟨e, he, rfl⟩
    rcases mem_release_available.mp he with he | ⟨rfl, -⟩
    · exact Or.inl ⟨e, he, rfl⟩
    · exact Or.inr rfl
  · rintro (⟨e, he, rfl⟩ | rfl)
    · exact ⟨e, mem_release_available.mpr (Or.inl he), rfl⟩
    · by_cases h : ∃ a ∈ inv.available, a.busId = d.busId
      · obtain ⟨a, ha, hab⟩ := h
        exact ⟨a, mem_release_available.mpr (Or.inl ha), hab⟩
      · exact ⟨d, mem_release_available.mpr (Or.inr ⟨rfl, fun a ha hab => h ⟨a, ha, hab⟩⟩), rfl⟩

theorem mem_busIds_release_used :
    x ∈ busIds (inv.release d).used ↔ x ∈ busIds inv.used ∧ x ≠ d.busId := by
  simp only [mem_busIds, mem_release_used]
  constructor
  · rintro ⟨e, ⟨he, hne⟩, rfl⟩
    exact ⟨⟨e, he, rfl⟩, hne⟩
  · rintro ⟨⟨e, he, rfl⟩, hne⟩
    exact ⟨e, ⟨he, hne⟩, rfl⟩

/-- The first section takes a device of that bus id, and loses no other one. -/
structure Taken (inv : Inventory) (busId : String) (d : UsbDevice) (inv' : Inventory) : Prop where
  busId_eq : d.busId = busId
  mem : d ∈ inv.available
  used : inv'.used = inv.used
  subset : ∀ e ∈ inv'.available, e ∈ inv.available
  kept : ∀ x ∈ busIds inv.available, x = busId ∨ x ∈ busIds inv'.available

theorem taken_of_takeAvailable (h : inv.takeAvailable busId = some (d, inv')) :
    Taken inv busId d inv' := by
  obtain ⟨e, hf, heq⟩ := Option.map_eq_some_iff.mp h
  cases heq
  have hbus : e.busId = busId := by simpa using List.find?_some hf
  refine ⟨hbus, List.mem_of_find?_eq_some hf, rfl, fun e he => List.mem_of_mem_eraseP he,
    fun x hx => ?_⟩
  obtain ⟨a, ha, rfl⟩ := mem_busIds.mp hx
  by_cases hab : a.busId = busId
  · exact Or.inl hab
  · have hmem : a ∈ inv.available.eraseP fun d => d.busId = busId :=
      (List.mem_eraseP_of_neg (by simpa using hab)).mpr ha
    exact Or.inr (mem_busIds.mpr ⟨a, hmem, rfl⟩)

theorem mem_busIds_insertUsed :
    x ∈ busIds (inv.insertUsed d).used ↔ x ∈ busIds inv.used ∨ x = d.busId := by
  unfold insertUsed
  dsimp only
  split
  · rename_i hany
    obtain ⟨u, hu, hub⟩ := List.any_eq_true.mp hany
    refine (or_iff_left_of_imp ?_).symm
    rintro rfl
    exact mem_busIds.mpr ⟨u, hu, of_decide_eq_true hub⟩
  · rw [busIds, List.map_append, List.mem_append, List.map_singleton, List.mem_singleton]
    rfl

theorem mem_busIds_retain {devices : List UsbDevice} {current : List String} :
    x ∈ busIds (dedupDevicesByBusId (devices.filter fun d => d.busId ∈ current)) ↔
      x ∈ busIds devices ∧ x ∈ current := by
  rw [dedupDevicesByBusId, mem_busIds_dedupFrom, and_iff_left List.not_mem_nil]
  simp only [mem_busIds, List.mem_filter, decide_eq_true_iff]
  constructor
  · rintro ⟨e, ⟨he, hcur⟩, rfl⟩
    exact ⟨⟨e, he, rfl⟩, hcur⟩
  · rintro ⟨⟨e, he, rfl⟩, hcur⟩
    exact ⟨e, ⟨he, hcur⟩, rfl⟩

end Inventory

namespace Exports

open Lib.Transition

/-! ## Tasks -/

/-- Where the task of a connection is, and what it has in its hands there. -/
inductive Phase where
  /-- Waiting for a command, or serving one that touches neither list. -/
  | idle
  /-- `handle_op_req_import` is about to release the previous device. -/
  | releasing (busId : String) (device : UsbDevice)
  /-- `occupy` is about to look for the device. -/
  | occupying (busId : String)
  /-- `occupy` has taken the device, and not the second lock. -/
  | inserting (device : UsbDevice)
  /-- A reply is being written. -/
  | replying
  /-- The device has been taken out of `imported_device` to be released. -/
  | returning (device : UsbDevice) (last : Bool)
  /-- The device list has read the available devices. The second list is history: what was
      exported at that moment. -/
  | listing (available : List UsbDevice) (exported : List String)
  /-- The device list has also read the occupancy map. -/
  | merging (available : List UsbDevice) (exported : List String)
      (occupancy : String → Option String)
  | ended

/-- The task of a connection, with the device that it has imported. -/
structure Task where
  imported : Option UsbDevice := none
  phase : Phase := .idle

namespace Task

/-- The device the task answers for: imported, or on its way from or to a list. -/
def kept : Task → Option UsbDevice
  | ⟨_, .releasing _ device⟩ => some device
  | ⟨_, .occupying _⟩ => none
  | ⟨_, .inserting device⟩ => some device
  | ⟨_, .returning device _⟩ => some device
  | ⟨_, .ended⟩ => none
  | ⟨imported, _⟩ => imported

/-- The start of an import: a well-formed bus id has the previous device released first, an
    ill-formed one is an error, and the error arm of `handler` drops the device. -/
def beginImport (busid : List UInt8) (imported : Option UsbDevice) : Task :=
  match parseBusId busid, imported with
  | some busId, some device => ⟨none, .releasing busId device⟩
  | some busId, none => ⟨none, .occupying busId⟩
  | none, some device => ⟨none, .returning device false⟩
  | none, none => ⟨none, .idle⟩

/-- `handler` has returned or is about to: whatever is imported is given up. -/
def leave : Option UsbDevice → Task
  | some device => ⟨none, .returning device true⟩
  | none => ⟨none, .ended⟩

end Task

/-- A device list that was sent: what was exported when it was asked for, the snapshots and
    the reply. -/
structure Answer where
  exported : List String
  available : List UsbDevice
  occupancy : String → Option String
  used : List UsbDevice
  response : UsbIpResponse

/-- The lists of the server, its tasks, and the synchronisation. -/
structure World where
  inventory : Inventory := {}
  tasks : Nat → Task := fun _ => {}
  /-- The devices that the synchronisation is opening between its two sections. -/
  syncing : Option (List DeviceInfo) := none
  /-- History: the bus ids that have been exported so far. -/
  exported : List String := []
  /-- History: the device lists that were sent. -/
  answers : List Answer := []

/-- What happens next: a task or the synchronisation goes on by one locked section. -/
inductive Action where
  /-- A client's `OP_REQ_IMPORT` is dispatched. -/
  | importRequest (connection : Nat) (busid : List UInt8)
  /-- A client's `OP_REQ_DEVLIST` is dispatched, and the available devices are read. -/
  | devlistRequest (connection : Nat)
  /-- The device list reads the occupancy map. -/
  | readOccupancy (connection : Nat) (occupancy : String → Option String)
  /-- The task goes through its next section. -/
  | advance (connection : Nat)
  /-- The reply cannot be written. -/
  | replyFails (connection : Nat)
  /-- The stream ends, is ill-formed, or another write fails. -/
  | disconnect (connection : Nat)
  | syncRetain
  | syncAppend (opens : DeviceInfo → Option OpenedDevice)

namespace World

/-- The task of a connection goes on. -/
def setTask (s : World) (c : Nat) (task : Task) : World :=
  { s with tasks := Function.update s.tasks c task }

/-- The lists are changed. -/
def withInventory (s : World) (inv : Inventory) : World := { s with inventory := inv }

end World

/-- The bus ids of the devices that are plugged in and shared. -/
def currentBusIds (filter : DeviceInfo → Bool) (plugged : List DeviceInfo) : List String :=
  (Inventory.shared filter plugged).map hostExportBusId

/-- One section of a task that is not waiting for its client. -/
def advance (prof : Profile) (s : World) (c : Nat) : Option World :=
  match s.tasks c with
  | ⟨imported, .replying⟩ => some (s.setTask c ⟨imported, .idle⟩)
  | ⟨_, .releasing busId device⟩ =>
      some ((s.withInventory (s.inventory.release device)).setTask c ⟨none, .occupying busId⟩)
  | ⟨_, .occupying busId⟩ =>
      match s.inventory.takeAvailable busId with
      | some (device, inv) => some ((s.withInventory inv).setTask c ⟨none, .inserting device⟩)
      -- The import fails, after the previous device has been released.
      | none => some (s.setTask c ⟨none, .replying⟩)
  | ⟨_, .inserting device⟩ =>
      some ((s.withInventory (s.inventory.insertUsed device)).setTask c ⟨some device, .replying⟩)
  | ⟨_, .returning device last⟩ =>
      some ((s.withInventory (s.inventory.release device)).setTask c
        ⟨none, if last then .ended else .idle⟩)
  | ⟨imported, .merging available exported occupancy⟩ =>
      match Listing.handleOpReqDevlistWithOccupancy prof available occupancy s.inventory.used with
      | .ok response =>
          some
            { s.setTask c ⟨imported, .replying⟩ with
              answers := s.answers ++
                [{ exported, available, occupancy, used := s.inventory.used, response }] }
      -- `new_string` has panicked: the task is gone and sends nothing.
      | .error _ => none
  | _ => none

/-- Tasks and synchronisation go on in any order. `plugged` is what the host lists at every
    synchronisation. -/
def step (prof : Profile) (filter : DeviceInfo → Bool) (plugged : List DeviceInfo) (s : World) :
    Action → Option World
  | .importRequest c busid =>
      match s.tasks c with
      | ⟨imported, .idle⟩ => some (s.setTask c (.beginImport busid imported))
      | _ => none
  | .devlistRequest c =>
      match s.tasks c with
      | ⟨imported, .idle⟩ =>
          some (s.setTask c ⟨imported, .listing s.inventory.available s.exported⟩)
      | _ => none
  | .readOccupancy c occupancy =>
      match s.tasks c with
      | ⟨imported, .listing available exported⟩ =>
          some (s.setTask c ⟨imported, .merging available exported occupancy⟩)
      | _ => none
  | .advance c => advance prof s c
  | .replyFails c =>
      match s.tasks c with
      | ⟨imported, .replying⟩ => some (s.setTask c (.leave imported))
      | _ => none
  | .disconnect c =>
      match s.tasks c with
      | ⟨imported, .idle⟩ => some (s.setTask c (.leave imported))
      | _ => none
  | .syncRetain =>
      match s.syncing with
      | none =>
          -- Both lists are filtered under both locks; what neither knows is opened afterwards.
          let (inv, knownBusIds) := s.inventory.syncRetain (currentBusIds filter plugged)
          some
            { s with
              inventory := inv
              syncing := some (Inventory.newInfos (Inventory.shared filter plugged) knownBusIds) }
      | some _ => none
  | .syncAppend opens =>
      match s.syncing with
      | some infos =>
          match withNusbDevices prof opens infos with
          | .ok new =>
              some
                { s with
                  inventory := { s.inventory with available := s.inventory.available ++ new }
                  syncing := none
                  exported := s.exported ++ busIds new }
          -- A panic ends the synchronisation for good.
          | .error _ => none
      | none => none

/-- The devices the server starts with, opened from what is plugged in and shared. -/
structure Initial (filter : DeviceInfo → Bool) (plugged : List DeviceInfo) where
  devices : List UsbDevice
  plugged : ∀ busId ∈ busIds devices, busId ∈ currentBusIds filter plugged

/-- The devices of the start are available, and nobody does anything. -/
def init {filter : DeviceInfo → Bool} {plugged : List DeviceInfo}
    (initial : Initial filter plugged) : World where
  inventory := { available := initial.devices }
  exported := busIds initial.devices

/-! ## In whose hands a device is -/

/-- Some task has a device of that bus id in the given hand. -/
def InHands (hand : Task → Option UsbDevice) (tasks : Nat → Task) (busId : String) : Prop :=
  ∃ c d, hand (tasks c) = some d ∧ d.busId = busId

/-- The device is between the two sections of `occupy`. -/
def Task.inserting : Task → Option UsbDevice
  | ⟨_, .inserting device⟩ => some device
  | _ => none

/-- What was exported when the device list was asked for. -/
def Task.since : Task → List String
  | ⟨_, .listing _ exported⟩ => exported
  | ⟨_, .merging _ exported _⟩ => exported
  | _ => []

/-- **Exported**: available, imported by a connection, or on the way from one to the other. -/
def Exported (s : World) (busId : String) : Prop :=
  busId ∈ busIds s.inventory.available ∨ InHands Task.kept s.tasks busId

section InHands

variable {hand : Task → Option UsbDevice} {tasks : Nat → Task} {c : Nat} {task : Task}
  {d : UsbDevice} {x : String}

theorem inHands_update (h : hand task = hand (tasks c)) :
    InHands hand (Function.update tasks c task) x ↔ InHands hand tasks x := by
  have hsame : ∀ c', hand (Function.update tasks c task c') = hand (tasks c') := by
    intro c'
    by_cases hc : c' = c
    · rw [hc, Function.update_self, h]
    · rw [Function.update_of_ne hc]
  simp only [InHands, hsame]

/-- A task takes a device in its empty hand. -/
theorem inHands_take (task : Task) (hold : hand (tasks c) = none) (hnew : hand task = some d) :
    InHands hand (Function.update tasks c task) x ↔ InHands hand tasks x ∨ x = d.busId := by
  constructor
  · rintro ⟨c', e, he, rfl⟩
    by_cases hc : c' = c
    · rw [hc, Function.update_self, hnew] at he
      cases he
      exact Or.inr rfl
    · rw [Function.update_of_ne hc] at he
      exact Or.inl ⟨c', e, he, rfl⟩
  · rintro (⟨c', e, he, rfl⟩ | rfl)
    · have hc : c' ≠ c := by
        rintro rfl
        rw [hold] at he
        cases he
      exact ⟨c', e, by rw [Function.update_of_ne hc, he], rfl⟩
    · exact ⟨c, d, by rw [Function.update_self, hnew], rfl⟩

/-- A task opens its hand: nobody else loses what he has. -/
theorem inHands_of_open (task : Task) (hold : hand (tasks c) = some d) (h : InHands hand tasks x) :
    InHands hand (Function.update tasks c task) x ∨ x = d.busId := by
  obtain ⟨c', e, he, rfl⟩ := h
  by_cases hc : c' = c
  · rw [hc, hold] at he
    cases he
    exact Or.inr rfl
  · exact Or.inl ⟨c', e, by rw [Function.update_of_ne hc, he], rfl⟩

theorem inHands_of_opened (hnew : hand task = none)
    (h : InHands hand (Function.update tasks c task) x) : InHands hand tasks x := by
  obtain ⟨c', e, he, rfl⟩ := h
  by_cases hc : c' = c
  · rw [hc, Function.update_self, hnew] at he
    cases he
  · rw [Function.update_of_ne hc] at he
    exact ⟨c', e, he, rfl⟩

end InHands

/-! ## What a step can do -/

variable {prof : Profile} {filter : DeviceInfo → Bool} {plugged : List DeviceInfo} {s t : World}
  {a : Action} {x : String}

/-- What an action can come to. -/
inductive Effect (prof : Profile) (filter : DeviceInfo → Bool) (plugged : List DeviceInfo)
    (s : World) (a : Action) : World → Prop where
  /-- A task goes on with what it has. -/
  | moves {c : Nat} {task : Task} (hk : task.kept = (s.tasks c).kept)
      (hi : (s.tasks c).inserting = none) (hi' : task.inserting = none)
      (hs : ∀ x ∈ task.since, x ∈ s.exported ∨ x ∈ (s.tasks c).since) :
      Effect prof filter plugged s a (s.setTask c task)
  | releases {c : Nat} {d : UsbDevice} {task : Task} (ha : a = .advance c)
      (hp : (∃ busId, (s.tasks c).phase = .releasing busId d) ∨
        ∃ last, (s.tasks c).phase = .returning d last)
      (hd : (s.tasks c).kept = some d)
      (hi : (s.tasks c).inserting = none) (hk : task.kept = none) (hi' : task.inserting = none)
      (hs : task.since = []) :
      Effect prof filter plugged s a
        ((s.withInventory (s.inventory.release d)).setTask c task)
  | takes {c : Nat} {busId : String} {d : UsbDevice} {inv : Inventory}
      (hk : (s.tasks c).kept = none) (hi : (s.tasks c).inserting = none)
      (ht : s.inventory.takeAvailable busId = some (d, inv)) :
      Effect prof filter plugged s a ((s.withInventory inv).setTask c ⟨none, .inserting d⟩)
  | inserts {c : Nat} {d : UsbDevice} (hk : (s.tasks c).kept = some d)
      (hi : (s.tasks c).inserting = some d) :
      Effect prof filter plugged s a
        ((s.withInventory (s.inventory.insertUsed d)).setTask c ⟨some d, .replying⟩)
  /-- A device list is sent. -/
  | answers {c : Nat} {imported : Option UsbDevice} {available : List UsbDevice}
      {exported : List String} {occupancy : String → Option String} {response : UsbIpResponse}
      (ha : a = .advance c) (hc : s.tasks c = ⟨imported, .merging available exported occupancy⟩)
      (hr : Listing.handleOpReqDevlistWithOccupancy prof available occupancy s.inventory.used =
        .ok response) :
      Effect prof filter plugged s a
        { s.setTask c ⟨imported, .replying⟩ with
          answers := s.answers ++
            [{ exported, available, occupancy, used := s.inventory.used, response }] }
  | retains (ha : a = .syncRetain) (hs : s.syncing = none) :
      Effect prof filter plugged s a
        { s with
          inventory := (s.inventory.syncRetain (currentBusIds filter plugged)).1
          syncing := some (Inventory.newInfos (Inventory.shared filter plugged)
            (s.inventory.syncRetain (currentBusIds filter plugged)).2) }
  | appends {infos : List DeviceInfo} {opens : DeviceInfo → Option OpenedDevice}
      {new : List UsbDevice} (ha : a = .syncAppend opens) (hs : s.syncing = some infos)
      (hn : withNusbDevices prof opens infos = .ok new) :
      Effect prof filter plugged s a
        { s with
          inventory := { s.inventory with available := s.inventory.available ++ new }
          syncing := none
          exported := s.exported ++ busIds new }

theorem Task.kept_beginImport (busid : List UInt8) (imported : Option UsbDevice) :
    (beginImport busid imported).kept = imported := by
  unfold beginImport
  cases parseBusId busid <;> cases imported <;> rfl

theorem Task.inserting_beginImport (busid : List UInt8) (imported : Option UsbDevice) :
    (beginImport busid imported).inserting = none := by
  unfold beginImport
  cases parseBusId busid <;> cases imported <;> rfl

theorem Task.since_beginImport (busid : List UInt8) (imported : Option UsbDevice) :
    (beginImport busid imported).since = [] := by
  unfold beginImport
  cases parseBusId busid <;> cases imported <;> rfl

theorem effect_beginImport {c : Nat} {imported : Option UsbDevice} {busid : List UInt8}
    (hc : s.tasks c = ⟨imported, .idle⟩) :
    Effect prof filter plugged s a (s.setTask c (.beginImport busid imported)) := by
  refine .moves ?_ ?_ (Task.inserting_beginImport busid imported) fun x hx => ?_
  · rw [Task.kept_beginImport, hc]
    rfl
  · rw [hc]
    rfl
  · rw [Task.since_beginImport] at hx
    exact absurd hx List.not_mem_nil

theorem effect_leave {c : Nat} {imported : Option UsbDevice} (hk : (s.tasks c).kept = imported)
    (hi : (s.tasks c).inserting = none) :
    Effect prof filter plugged s a (s.setTask c (.leave imported)) := by
  cases imported with
  | none => exact .moves hk.symm hi rfl fun x hx => absurd hx List.not_mem_nil
  | some device => exact .moves hk.symm hi rfl fun x hx => absurd hx List.not_mem_nil

theorem effect_advance {c : Nat} (ha : a = .advance c) (h : advance prof s c = some t) :
    Effect prof filter plugged s a t := by
  unfold advance at h
  cases hc : s.tasks c with
  | mk imported phase =>
    rw [hc] at h
    cases phase with
    | idle => cases h
    | releasing busId device =>
      cases h
      exact .releases ha (Or.inl ⟨busId, by rw [hc]⟩) (by rw [hc]; rfl) (by rw [hc]; rfl) rfl rfl rfl
    | occupying busId =>
      dsimp only at h
      cases ht : s.inventory.takeAvailable busId with
      | none =>
        rw [ht] at h
        cases h
        exact .moves (by rw [hc]; rfl) (by rw [hc]; rfl) rfl fun x hx =>
          absurd hx List.not_mem_nil
      | some taken =>
        obtain ⟨device, inv⟩ := taken
        rw [ht] at h
        cases h
        exact .takes (by rw [hc]; rfl) (by rw [hc]; rfl) ht
    | inserting device =>
      cases h
      exact .inserts (by rw [hc]; rfl) (by rw [hc]; rfl)
    | replying =>
      cases h
      exact .moves (by rw [hc]; rfl) (by rw [hc]; rfl) rfl fun x hx => absurd hx List.not_mem_nil
    | returning device last =>
      cases h
      have hp : ∃ last, (s.tasks c).phase = .returning device last := ⟨last, by rw [hc]⟩
      cases last with
      | false => exact .releases ha (Or.inr hp) (by rw [hc]; rfl) (by rw [hc]; rfl) rfl rfl rfl
      | true => exact .releases ha (Or.inr hp) (by rw [hc]; rfl) (by rw [hc]; rfl) rfl rfl rfl
    | listing available exported => cases h
    | merging available exported occupancy =>
      dsimp only at h
      split at h
      · rename_i response hr
        cases h
        exact .answers ha hc hr
      · cases h
    | ended => cases h

/-- Every step has one of these effects. -/
theorem step_effect (h : step prof filter plugged s a = some t) :
    Effect prof filter plugged s a t := by
  unfold step at h
  cases a with
  | importRequest c busid =>
    dsimp only at h
    split at h
    · rename_i imported hc
      cases h
      exact effect_beginImport hc
    · cases h
  | devlistRequest c =>
    dsimp only at h
    split at h
    · rename_i imported hc
      cases h
      exact .moves (by rw [hc]; rfl) (by rw [hc]; rfl) rfl fun x hx => Or.inl hx
    · cases h
  | readOccupancy c occupancy =>
    dsimp only at h
    split at h
    · rename_i imported available exported hc
      cases h
      exact .moves (by rw [hc]; rfl) (by rw [hc]; rfl) rfl fun x hx => Or.inr (by rw [hc]; exact hx)
    · cases h
  | advance c => exact effect_advance rfl h
  | replyFails c =>
    dsimp only at h
    split at h
    · rename_i imported hc
      cases h
      exact effect_leave (by rw [hc]; rfl) (by rw [hc]; rfl)
    · cases h
  | disconnect c =>
    dsimp only at h
    split at h
    · rename_i imported hc
      cases h
      exact effect_leave (by rw [hc]; rfl) (by rw [hc]; rfl)
    · cases h
  | syncRetain =>
    dsimp only at h
    split at h
    · rename_i hs
      cases h
      exact .retains rfl hs
    · cases h
  | syncAppend opens =>
    dsimp only at h
    split at h
    · rename_i infos hs
      split at h
      · rename_i new hn
        cases h
        exact .appends rfl hs hn
      · cases h
    · cases h

end Exports
end Lusbip
