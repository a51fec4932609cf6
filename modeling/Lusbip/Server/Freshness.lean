import Lusbip.Server.Conservation
import Lusbip.Server.Ownership

/-!
# Entries of devices that are gone

Devices are plugged in and out while connections import and give back, lock by lock, and while the
synchronisation lists the host, sorts out the lists under the locks and opens what is new. It knows
a device by its bus id alone: an entry stays if something is plugged in at its port, and then what
is plugged in there is not opened. So an entry outlives its device if another one takes the port
before the synchronisation looks, or if a connection gives the entry back after it has looked.
-/

namespace Lusbip
namespace Freshness

open Lib.Transition
open Exports (Task currentBusIds)

structure World where
  /-- The lists, the tasks of the connections, and what the synchronisation is opening. -/
  server : Exports.World := {}
  /-- What is plugged in, in the order the host lists it. -/
  plugged : List DeviceInfo := []
  nextPlug : Nat := 0
  /-- What the synchronisation has listed, until it has the locks. -/
  listed : Option (List DeviceInfo) := none
  /-- History: nothing was plugged in or out since the synchronisation began. -/
  calm : Bool := false
  /-- History: the last step is the end of a synchronisation that was calm. -/
  returned : Bool := false

inductive Action where
  /-- A device is plugged in; it gets a handle of its own. -/
  | plug (info : DeviceInfo)
  | unplug (device : Device)
  /-- A synchronisation begins: it lists the host. -/
  | list
  /-- It has both locks. -/
  | retain
  /-- It has opened the new devices, appends them and returns. -/
  | append (opens : DeviceInfo → Option OpenedDevice)
  /-- A connection moves. -/
  | serve (a : Exports.Action)

/-- The synchronisation's own sections. -/
def isSync : Exports.Action → Bool
  | .syncRetain => true
  | .syncAppend _ => true
  | _ => false

def step (prof : Profile) (filter : DeviceInfo → Bool) (s : World) : Action → Option World
  | .plug info =>
      -- A bus id names a port, which takes one device at a time.
      if hostExportBusId info ∈ s.plugged.map hostExportBusId then none
      else
        some
          { s with
            plugged := s.plugged ++ [{ info with device := ⟨s.nextPlug⟩ }]
            nextPlug := s.nextPlug + 1
            calm := false
            returned := false }
  | .unplug device =>
      some
        { s with
          plugged := s.plugged.filter fun info => info.device ≠ device
          calm := false
          returned := false }
  | .list =>
      match s.listed, s.server.syncing with
      | none, none => some { s with listed := some s.plugged, calm := true, returned := false }
      | _, _ => none
  | .retain =>
      match s.listed with
      | some infos =>
          (Exports.step prof filter infos s.server .syncRetain).map fun server =>
            { s with server, listed := none, returned := false }
      | none => none
  | .append opens =>
      (Exports.step prof filter [] s.server (.syncAppend opens)).map fun server =>
        { s with server, returned := s.calm }
  | .serve a =>
      if isSync a then none
      else
        (Exports.step prof filter [] s.server a).map fun server =>
          { s with server, returned := false }

/-- The server starts empty: what it finds at its start it opens as a synchronisation does. -/
def init : World := {}

/-- The device a handle was opened on is plugged in. -/
def Present (s : World) (d : UsbDevice) : Prop :=
  ∃ info ∈ s.plugged, d.deviceHandler = some info.device

/-- **Fresh**: the entry was opened from the device that is plugged in at its bus id. -/
def Fresh (s : World) (d : UsbDevice) : Prop :=
  ∃ info ∈ s.plugged, hostExportBusId info = d.busId ∧ d.deviceHandler = some info.device

/-- After a synchronisation during which nothing was plugged in or out, every entry is fresh. -/
def SyncedFresh (s : World) : Prop :=
  s.returned = true → ∀ d ∈ s.server.inventory.available, Fresh s d

/-- The device a task is about to give back. -/
def givesBack : Task → Option UsbDevice
  | ⟨_, .releasing _ device⟩ => some device
  | ⟨_, .returning device _⟩ => some device
  | _ => none

/-- The step gives the device back. -/
def GivesBack (server : Exports.World) (a : Exports.Action) (d : UsbDevice) : Prop :=
  ∃ c, a = .advance c ∧ givesBack (server.tasks c) = some d

/-- A calm synchronisation finds no entry under a bus id of its listing whose device is gone, and
    none is given back to it before it is over, unless the bus id is available anyway. -/
def MeetsNoStale (filter : DeviceInfo → Bool) (s : World) : Action → Prop
  | .retain => s.calm = true → ∀ infos ∈ s.listed, ∀ d ∈ s.server.inventory.available,
      d.busId ∈ currentBusIds filter infos → Present s d
  | .serve a => s.calm = true → s.server.syncing ≠ none → ∀ d, GivesBack s.server a d →
      Present s d ∨ d.busId ∈ busIds s.server.inventory.available
  | _ => True

/-! ## What connections do to the entries -/

/-- The entry stands somewhere in the server. -/
def Known (server : Exports.World) (d : UsbDevice) : Prop :=
  d ∈ server.inventory.available ∨ d ∈ server.inventory.used ∨
    ∃ c, (server.tasks c).kept = some d

/-- Connections make no entry, leave the synchronisation alone, and what they add to the available
    devices they give back. -/
structure Served (s : Exports.World) (a : Exports.Action) (t : Exports.World) : Prop where
  syncing : t.syncing = s.syncing
  known : ∀ d, Known t d → Known s d
  available : ∀ d ∈ t.inventory.available, d ∈ s.inventory.available ∨
    (GivesBack s a d ∧ d.busId ∉ busIds s.inventory.available)

variable {prof : Profile} {filter : DeviceInfo → Bool} {listed : List DeviceInfo}
  {s t : Exports.World} {a : Exports.Action} {c : Nat}

theorem kept_update {task : Task} {d : UsbDevice}
    (htask : ∀ d, task.kept = some d → Known s d) {c' : Nat}
    (h : (Function.update s.tasks c task c').kept = some d) : Known s d := by
  by_cases hc : c' = c
  · rw [hc, Function.update_self] at h
    exact htask d h
  · rw [Function.update_of_ne hc] at h
    exact Or.inr (Or.inr ⟨c', h⟩)

/-- A task goes on, with what it has or without. -/
theorem served_setTask {task : Task}
    (hkept : ∀ d, task.kept = some d → (s.tasks c).kept = some d) :
    Served s a (s.setTask c task) where
  syncing := rfl
  known d h := by
    rcases h with h | h | ⟨c', h⟩
    · exact Or.inl h
    · exact Or.inr (Or.inl h)
    · exact kept_update (fun d hd => Or.inr (Or.inr ⟨c, hkept d hd⟩)) h
  available d hd := Or.inl hd

theorem kept_of_givesBack {task : Task} {d : UsbDevice} (h : givesBack task = some d) :
    task.kept = some d := by
  obtain ⟨imported, phase⟩ := task
  cases phase <;> first | exact h | cases h

/-- A task gives its device back. -/
theorem served_release {d : UsbDevice} {task : Task} (ha : a = .advance c)
    (hd : givesBack (s.tasks c) = some d) (hkept : task.kept = none) :
    Served s a ((s.withInventory (s.inventory.release d)).setTask c task) where
  syncing := rfl
  known e h := by
    have hknown : Known s d := Or.inr (Or.inr ⟨c, kept_of_givesBack hd⟩)
    rcases h with h | h | ⟨c', h⟩
    · rcases Inventory.mem_release_available.mp h with h | ⟨rfl, -⟩
      · exact Or.inl h
      · exact hknown
    · exact Or.inr (Or.inl (Inventory.mem_release_used.mp h).1)
    · exact kept_update (fun d hd => nomatch hkept.symm.trans hd) h
  available e he := by
    rcases Inventory.mem_release_available.mp he with he | ⟨rfl, hno⟩
    · exact Or.inl he
    · refine Or.inr ⟨⟨c, ha, hd⟩, fun hmem => ?_⟩
      obtain ⟨e', he', hbus⟩ := mem_busIds.mp hmem
      exact hno e' he' hbus

theorem givesBack_of_phase {task : Task} {d : UsbDevice}
    (h : (∃ busId, task.phase = .releasing busId d) ∨ ∃ last, task.phase = .returning d last) :
    givesBack task = some d := by
  obtain ⟨imported, phase⟩ := task
  rcases h with ⟨busId, rfl⟩ | ⟨last, rfl⟩
  · rfl
  · rfl

/-- **What connections do to the entries.** -/
theorem served_of_step (ha : isSync a = false)
    (h : Exports.step prof filter listed s a = some t) : Served s a t := by
  cases Exports.step_effect h with
  | moves hk hi hi' hs => exact served_setTask fun d hd => hk ▸ hd
  | releases hadvance hp hd hi hk hi' hs =>
    exact served_release hadvance (givesBack_of_phase hp) hk
  | @takes c busId device inv hk hi htake =>
    -- The entry leaves the pool for the task.
    have ht := Inventory.taken_of_takeAvailable htake
    refine ⟨rfl, fun d hd => ?_, fun d hd => Or.inl (ht.subset d hd)⟩
    rcases hd with hd | hd | ⟨c', hd⟩
    · exact Or.inl (ht.subset d hd)
    · refine Or.inr (Or.inl ?_)
      rw [← ht.used]
      exact hd
    · refine kept_update (fun d hd => ?_) hd
      obtain rfl := Option.some.inj hd
      exact Or.inl ht.mem
  | @inserts c device hk hi =>
    have hdevice : Known s device := Or.inr (Or.inr ⟨c, hk⟩)
    refine ⟨rfl, fun d hd => ?_, fun d hd => Or.inl hd⟩
    rcases hd with hd | hd | ⟨c', hd⟩
    · exact Or.inl hd
    · change d ∈ (s.inventory.insertUsed device).used at hd
      unfold Inventory.insertUsed at hd
      dsimp only at hd
      split at hd
      · exact Or.inr (Or.inl hd)
      · rcases List.mem_append.mp hd with hd | hd
        · exact Or.inr (Or.inl hd)
        · exact List.mem_singleton.mp hd ▸ hdevice
    · refine kept_update (fun d hd => ?_) hd
      exact Option.some.inj hd ▸ hdevice
  | @answers c imported available exported occupancy response hadvance hc hr =>
    have hserved : Served s a (s.setTask c ⟨imported, .replying⟩) :=
      served_setTask fun d hd => by rw [hc]; exact hd
    exact ⟨hserved.syncing, hserved.known, hserved.available⟩
  | retains hsync hs =>
    subst hsync
    cases ha
  | appends hsync hs hn =>
    subst hsync
    cases ha

/-! ## The invariant -/

/-- A handle is of a device that was plugged in once, and if it still is, then at that bus id. -/
structure OpenedAt (w : World) (device : Device) (busId : String) : Prop where
  plugged_in : device.plug < w.nextPlug
  port : ∀ info ∈ w.plugged, info.device = device → hostExportBusId info = busId

/-- An entry has a handle, of a device at its bus id. -/
def Entry (w : World) (d : UsbDevice) : Prop :=
  ∃ device, d.deviceHandler = some device ∧ OpenedAt w device d.busId

/-- What the synchronisation has in its hands, listed or about to be opened. -/
def InSync (w : World) (info : DeviceInfo) : Prop :=
  (∃ infos ∈ w.listed, info ∈ infos) ∨ ∃ infos ∈ w.server.syncing, info ∈ infos

structure Inv (w : World) : Prop where
  plugs : ∀ info ∈ w.plugged, info.device.plug < w.nextPlug
  devices : (w.plugged.map (·.device)).Nodup
  entries : ∀ d, Known w.server d → Entry w d
  infos : ∀ info, InSync w info → OpenedAt w info.device (hostExportBusId info)
  /-- A calm synchronisation has listed what is plugged in. -/
  calmListed : w.calm = true → ∀ infos ∈ w.listed, infos = w.plugged
  calmSyncing : w.calm = true → ∀ infos ∈ w.server.syncing,
    (∀ info ∈ infos, info ∈ w.plugged) ∧ ∀ d ∈ w.server.inventory.available, Present w d
  returned : w.returned = true → ∀ d ∈ w.server.inventory.available, Present w d

variable {w w' : World}

theorem inv_init : Inv init where
  plugs := List.forall_mem_nil _
  devices := List.nodup_nil
  entries d h := by
    rcases h with h | h | ⟨c, h⟩ <;> cases h
  infos info h := by
    rcases h with ⟨infos, h, -⟩ | ⟨infos, h, -⟩ <;> cases h
  calmListed _ infos h := by cases h
  calmSyncing _ infos h := by cases h
  returned h := by cases h

/-- An entry whose device is plugged in is fresh: the device is at the entry's bus id. -/
theorem Inv.fresh (h : Inv w) {d : UsbDevice} (hd : Known w.server d) (hp : Present w d) :
    Fresh w d := by
  obtain ⟨info, hinfo, hdevice⟩ := hp
  obtain ⟨device, hhandler, hat⟩ := h.entries d hd
  have heq : info.device = device := Option.some.inj (hdevice.symm.trans hhandler)
  exact ⟨info, hinfo, hat.port info hinfo heq, hdevice⟩

theorem Inv.openedAt (h : Inv w) {info : DeviceInfo} (hinfo : info ∈ w.plugged) :
    OpenedAt w info.device (hostExportBusId info) where
  plugged_in := h.plugs info hinfo
  port info' hinfo' heq := by rw [List.inj_on_of_nodup_map h.devices hinfo' hinfo heq]

/-- A new device is none that was known. -/
theorem OpenedAt.plug {device : Device} {busId : String} (h : OpenedAt w device busId)
    (info : DeviceInfo) (hplugged : w'.plugged = w.plugged ++ [{ info with device := ⟨w.nextPlug⟩ }])
    (hnext : w'.nextPlug = w.nextPlug + 1) : OpenedAt w' device busId where
  plugged_in := by
    rw [hnext]
    exact Nat.lt_succ_of_lt h.plugged_in
  port info' hinfo' heq := by
    rw [hplugged] at hinfo'
    rcases List.mem_append.mp hinfo' with hinfo' | hinfo'
    · exact h.port info' hinfo' heq
    · -- Its number is the next one, and the device was plugged in before.
      rw [List.mem_singleton.mp hinfo'] at heq
      have hlt := h.plugged_in
      rw [← heq] at hlt
      exact absurd hlt (Nat.lt_irrefl _)

theorem OpenedAt.unplug {device : Device} {busId : String} (h : OpenedAt w device busId)
    (hplugged : ∀ info ∈ w'.plugged, info ∈ w.plugged) (hnext : w'.nextPlug = w.nextPlug) :
    OpenedAt w' device busId where
  plugged_in := hnext ▸ h.plugged_in
  port info hinfo heq := h.port info (hplugged info hinfo) heq

theorem Entry.unplug {d : UsbDevice} (h : Entry w d)
    (hplugged : ∀ info ∈ w'.plugged, info ∈ w.plugged) (hnext : w'.nextPlug = w.nextPlug) :
    Entry w' d := by
  obtain ⟨device, hhandler, hat⟩ := h
  exact ⟨device, hhandler, hat.unplug hplugged hnext⟩

theorem Inv.plug (h : Inv w) (info : DeviceInfo) :
    Inv
      { w with
        plugged := w.plugged ++ [{ info with device := ⟨w.nextPlug⟩ }]
        nextPlug := w.nextPlug + 1
        calm := false
        returned := false } where
  plugs i hi := by
    rcases List.mem_append.mp hi with hi | hi
    · exact Nat.lt_succ_of_lt (h.plugs i hi)
    · rw [List.mem_singleton.mp hi]
      exact Nat.lt_succ_self _
  devices := by
    rw [List.map_append]
    refine List.nodup_append.mpr ⟨h.devices, List.nodup_singleton _, ?_⟩
    intro device hdevice device' hdevice' heq
    obtain ⟨i, hi, rfl⟩ := List.mem_map.mp hdevice
    rw [List.mem_singleton.mp hdevice'] at heq
    have hlt := h.plugs i hi
    rw [heq] at hlt
    exact Nat.lt_irrefl _ hlt
  entries d hd := by
    obtain ⟨device, hhandler, hat⟩ := h.entries d hd
    exact ⟨device, hhandler, hat.plug info rfl rfl⟩
  infos i hi := (h.infos i hi).plug info rfl rfl
  calmListed hc := by cases hc
  calmSyncing hc := by cases hc
  returned hr := by cases hr

theorem Inv.unplug (h : Inv w) (device : Device) :
    Inv
      { w with
        plugged := w.plugged.filter fun info => info.device ≠ device
        calm := false
        returned := false } where
  plugs info hinfo := h.plugs info (List.mem_of_mem_filter hinfo)
  devices := h.devices.sublist (List.filter_sublist.map _)
  entries d hd := (h.entries d hd).unplug (fun _ hi => List.mem_of_mem_filter hi) rfl
  infos i hi := (h.infos i hi).unplug (fun _ hi => List.mem_of_mem_filter hi) rfl
  calmListed hc := by cases hc
  calmSyncing hc := by cases hc
  returned hr := by cases hr

theorem Inv.list (h : Inv w) (hsyncing : w.server.syncing = none) :
    Inv { w with listed := some w.plugged, calm := true, returned := false } where
  plugs := h.plugs
  devices := h.devices
  entries d hd := (h.entries d hd).unplug (fun _ hi => hi) rfl
  infos i hi := by
    rcases hi with ⟨infos, hinfos, hi⟩ | ⟨infos, hinfos, -⟩
    · obtain rfl := Option.some.inj hinfos
      exact (h.openedAt hi).unplug (fun _ hi => hi) rfl
    · exact nomatch hsyncing.symm.trans hinfos
  calmListed _ infos hinfos := (Option.some.inj hinfos).symm
  calmSyncing _ infos hinfos := nomatch hsyncing.symm.trans hinfos
  returned hr := by cases hr

/-- The section under both locks keeps entries of listed bus ids, and makes none. -/
theorem Inv.retain (h : Inv w) {infos : List DeviceInfo} (hlisted : w.listed = some infos)
    {server : Exports.World}
    (hstep : Exports.step prof filter infos w.server .syncRetain = some server)
    (hmeets : MeetsNoStale filter w .retain) :
    Inv { w with server, listed := none, returned := false } := by
  -- What the section does, said of the world as a whole.
  have hserver : server =
      { w.server with
        inventory := (w.server.inventory.syncRetain (currentBusIds filter infos)).1
        syncing := some (Inventory.newInfos (Inventory.shared filter infos)
          (w.server.inventory.syncRetain (currentBusIds filter infos)).2) } := by
    unfold Exports.step at hstep
    dsimp only at hstep
    split at hstep
    · exact (Option.some.inj hstep).symm
    · cases hstep
  have havail : ∀ d ∈ server.inventory.available,
      d ∈ w.server.inventory.available ∧ d.busId ∈ currentBusIds filter infos := by
    intro d hd
    rw [hserver] at hd
    obtain ⟨hmem, hbus⟩ := List.mem_filter.mp (mem_of_mem_dedupFrom hd)
    exact ⟨hmem, of_decide_eq_true hbus⟩
  have hnew : ∀ infos' ∈ server.syncing, ∀ info ∈ infos', info ∈ infos := by
    intro infos' hinfos' info hinfo
    rw [hserver] at hinfos'
    obtain rfl := Option.some.inj hinfos'
    exact (Inventory.mem_shared.mp (List.mem_of_mem_filter hinfo)).1
  refine ⟨h.plugs, h.devices, ?_, ?_, ?_, ?_, ?_⟩
  · intro d hd
    have hknown : Known w.server d := by
      rcases hd with hd | hd | ⟨c, hd⟩
      · exact Or.inl (havail d hd).1
      · rw [hserver] at hd
        exact Or.inr (Or.inl (List.mem_of_mem_filter (mem_of_mem_dedupFrom hd)))
      · rw [hserver] at hd
        exact Or.inr (Or.inr ⟨c, hd⟩)
    exact (h.entries d hknown).unplug (fun _ hi => hi) rfl
  · intro info hinfo
    rcases hinfo with ⟨infos', hinfos', -⟩ | ⟨infos', hinfos', hinfo⟩
    · cases hinfos'
    · have hmem := hnew infos' hinfos' info hinfo
      exact (h.infos info (Or.inl ⟨infos, hlisted, hmem⟩)).unplug (fun _ hi => hi) rfl
  · intro _ infos' hinfos'
    cases hinfos'
  · intro hcalm infos' hinfos'
    refine ⟨fun info hinfo => ?_, fun d hd => ?_⟩
    · -- Nothing has come or gone since, so the listing is what is plugged in.
      rw [← h.calmListed hcalm infos hlisted]
      exact hnew infos' hinfos' info hinfo
    · exact hmeets hcalm infos hlisted d (havail d hd).1 (havail d hd).2
  · intro hr
    cases hr

/-- What was opened is appended. -/
theorem Inv.append (h : Inv w) {opens : DeviceInfo → Option OpenedDevice} {server : Exports.World}
    (hstep : Exports.step prof filter listed w.server (.syncAppend opens) = some server) :
    Inv { w with server, returned := w.calm } := by
  unfold Exports.step at hstep
  dsimp only at hstep
  split at hstep
  · rename_i infos hsyncing
    split at hstep
    · rename_i new hnew
      obtain rfl := Option.some.inj hstep
      have hopened := (withNusbDevices_openedFrom hnew).1
      -- What was kept was checked under the locks, and the rest is opened from the listing.
      have hpresent : w.calm = true → ∀ d ∈ w.server.inventory.available ++ new,
          Present w d := by
        intro hcalm d hd
        obtain ⟨hinfos, havail⟩ := h.calmSyncing hcalm infos hsyncing
        rcases List.mem_append.mp hd with hd | hd
        · exact havail d hd
        · obtain ⟨info, hinfo, hfrom⟩ := hopened d hd
          exact ⟨info, hinfos info hinfo, hfrom.device⟩
      refine ⟨h.plugs, h.devices, ?_, ?_, h.calmListed, ?_, hpresent⟩
      · intro d hd
        rcases hd with hd | hd | hd
        · rcases List.mem_append.mp hd with hd | hd
          · exact (h.entries d (Or.inl hd)).unplug (fun _ hi => hi) rfl
          · obtain ⟨info, hinfo, hfrom⟩ := hopened d hd
            have hat := h.infos info (Or.inr ⟨infos, hsyncing, hinfo⟩)
            refine ⟨info.device, hfrom.device, ?_⟩
            rw [hfrom.busId]
            exact hat.unplug (fun _ hi => hi) rfl
        · exact (h.entries d (Or.inr (Or.inl hd))).unplug (fun _ hi => hi) rfl
        · exact (h.entries d (Or.inr (Or.inr hd))).unplug (fun _ hi => hi) rfl
      · intro info hinfo
        rcases hinfo with hinfo | ⟨infos', hinfos', -⟩
        · exact (h.infos info (Or.inl hinfo)).unplug (fun _ hi => hi) rfl
        · cases hinfos'
      · intro _ infos' hinfos'
        cases hinfos'
    · cases hstep
  · cases hstep

/-- A connection moves; what it gives back to a calm synchronisation is not stale. -/
theorem Inv.serve (h : Inv w) {a : Exports.Action} {server : Exports.World}
    (hserved : Served w.server a server) (hmeets : MeetsNoStale filter w (.serve a)) :
    Inv { w with server, returned := false } where
  plugs := h.plugs
  devices := h.devices
  entries d hd := (h.entries d (hserved.known d hd)).unplug (fun _ hi => hi) rfl
  infos info hinfo := by
    have hsync : InSync w info := hinfo.imp_right fun hi => by
      rw [hserved.syncing] at hi
      exact hi
    exact (h.infos info hsync).unplug (fun _ hi => hi) rfl
  calmListed := h.calmListed
  calmSyncing hcalm infos hinfos := by
    dsimp only at hinfos
    rw [hserved.syncing] at hinfos
    obtain ⟨hlisted, havail⟩ := h.calmSyncing hcalm infos hinfos
    refine ⟨hlisted, fun d hd => ?_⟩
    rcases hserved.available d hd with hd | ⟨hgives, hnot⟩
    · exact havail d hd
    · have hsyncing : w.server.syncing ≠ none := by
        rw [hinfos]
        exact Option.some_ne_none _
      exact (hmeets hcalm hsyncing d hgives).resolve_right hnot
  returned hr := by cases hr

theorem Inv.step {act : Action} (h : Inv w) (hmeets : MeetsNoStale filter w act)
    (hstep : step prof filter w act = some w') : Inv w' := by
  unfold Freshness.step at hstep
  cases act with
  | plug info =>
    dsimp only at hstep
    split at hstep
    · cases hstep
    · obtain rfl := Option.some.inj hstep
      exact h.plug info
  | unplug device =>
    obtain rfl := Option.some.inj hstep
    exact h.unplug device
  | list =>
    dsimp only at hstep
    split at hstep
    · rename_i hlisted hsyncing
      obtain rfl := Option.some.inj hstep
      exact h.list hsyncing
    · cases hstep
  | retain =>
    dsimp only at hstep
    split at hstep
    · rename_i infos hlisted
      obtain ⟨server, hserver, rfl⟩ := Option.map_eq_some_iff.mp hstep
      exact h.retain hlisted hserver hmeets
    · cases hstep
  | append opens =>
    obtain ⟨server, hserver, rfl⟩ := Option.map_eq_some_iff.mp hstep
    exact h.append hserver
  | serve a =>
    dsimp only at hstep
    split at hstep
    · cases hstep
    · rename_i hsync
      obtain ⟨server, hserver, rfl⟩ := Option.map_eq_some_iff.mp hstep
      exact h.serve (served_of_step (Bool.eq_false_of_not_eq_true hsync) hserver) hmeets

/-- **Exported entries are fresh**, after every synchronisation during which nothing was plugged in
    or out, in every run in which no such synchronisation meets an entry of a listed bus id whose
    device is gone. -/
theorem fresh_of_meetsNoStale (prof : Profile) (filter : DeviceInfo → Bool) (acts : List Action)
    (h : Along (step prof filter) (MeetsNoStale filter) init acts) :
    Throughout (step prof filter) SyncedFresh init acts := by
  refine throughout_of_along (I := Inv) (fun w act w' hI hmeets hstep => hI.step hmeets hstep)
    (fun w hI hreturned d hd => ?_) inv_init h
  exact hI.fresh (Or.inl hd) (hI.returned hreturned d hd)

open Ownership (stick openAll)

/-- A synchronisation finds a stick. -/
def plugThenSync : List Action := [.plug (stick 1), .list, .retain, .append openAll]

theorem plugThenSync_fresh :
    Throughout (step .release fun _ => true) SyncedFresh init plugThenSync := by
  refine fresh_of_meetsNoStale .release (fun _ => true) plugThenSync ?_
  intro t ht
  obtain rfl := Option.some.inj ht
  refine ⟨trivial, fun t ht => ?_⟩
  obtain rfl := Option.some.inj ht
  refine ⟨trivial, fun t ht => ⟨?_, fun t ht => ⟨trivial, trivial⟩⟩⟩
  intro _ infos _ d hd
  cases hd

/-- The stick is pulled out and another one is put in its place, before the next
    synchronisation. -/
def replugThenSync : List Action :=
  plugThenSync ++ [.unplug ⟨0⟩, .plug (stick 2), .list, .retain, .append openAll]

/-- **The entry of the first stick stands for the second one.** -/
theorem replugThenSync_not_fresh :
    ¬ Throughout (step .release fun _ => true) SyncedFresh init replugThenSync := by
  have hrun : ((run (step .release fun _ => true) init replugThenSync).any fun t =>
      t.returned && t.server.inventory.available.any fun d =>
        t.plugged.all fun info => decide (d.deviceHandler ≠ some info.device)) = true := by
    decide +kernel
  obtain ⟨t, ht, hend⟩ := (Option.any_eq_true _ _).mp hrun
  obtain ⟨hreturned, hend⟩ := Bool.and_eq_true_iff.mp hend
  obtain ⟨d, hd, hstale⟩ := List.any_eq_true.mp hend
  intro hfresh
  obtain ⟨info, hinfo, -, hdevice⟩ := hfresh.of_run ht hreturned d hd
  exact of_decide_eq_true (List.all_eq_true.mp hstale info hinfo) hdevice

end Freshness
end Lusbip
