import Mathlib.Data.List.Nodup
import Lusbip.Server.HostDevices
import Lusbip.Usb.Protocol

/-!
# The inventory

`available_devices` and `used_devices`, and the operations that move devices between them.
Everything here identifies a device by its bus id. `Tidy` is what the operations keep: no
bus id stands twice in the inventory, in one list or across the two.
-/

namespace Lusbip

structure Inventory where
  available : List UsbDevice := []
  used : List UsbDevice := []
  deriving DecidableEq, Repr

/-- The bus ids of a list of devices. -/
def busIds (devices : List UsbDevice) : List String := devices.map (·.busId)

theorem mem_busIds {devices : List UsbDevice} {busId : String} :
    busId ∈ busIds devices ↔ ∃ d ∈ devices, d.busId = busId := List.mem_map

theorem mem_busIds_append {ds es : List UsbDevice} {busId : String} :
    busId ∈ busIds (ds ++ es) ↔ busId ∈ busIds ds ∨ busId ∈ busIds es := by
  rw [busIds, List.map_append, List.mem_append]
  rfl

/-- `prepare_device_for_import` -/
def prepareDeviceForImport (device : UsbDevice) : UsbDevice := device

/-- The devices whose bus id is not in `seen`, the first of each. -/
def dedupFrom (seen : List String) : List UsbDevice → List UsbDevice
  | [] => []
  | d :: ds =>
      if d.busId ∈ seen then dedupFrom seen ds else d :: dedupFrom (d.busId :: seen) ds

theorem mem_busIds_dedupFrom {seen : List String} {devices : List UsbDevice} {busId : String} :
    busId ∈ busIds (dedupFrom seen devices) ↔ busId ∈ busIds devices ∧ busId ∉ seen := by
  induction devices generalizing seen with
  | nil => exact iff_of_false List.not_mem_nil fun h => List.not_mem_nil h.1
  | cons d ds ih =>
    rw [dedupFrom]
    split
    · rename_i hseen
      rw [ih]
      constructor
      · rintro ⟨hmem, hnot⟩
        exact ⟨List.mem_cons_of_mem _ hmem, hnot⟩
      · rintro ⟨hmem, hnot⟩
        rcases List.mem_cons.mp hmem with rfl | hmem
        · exact absurd hseen hnot
        · exact ⟨hmem, hnot⟩
    · rename_i hseen
      show busId ∈ d.busId :: busIds (dedupFrom _ ds) ↔ busId ∈ d.busId :: busIds ds ∧ _
      rw [List.mem_cons, List.mem_cons, ih, List.mem_cons, not_or]
      constructor
      · rintro (rfl | ⟨hmem, -, hnot⟩)
        · exact ⟨Or.inl rfl, hseen⟩
        · exact ⟨Or.inr hmem, hnot⟩
      · rintro ⟨rfl | hmem, hnot⟩
        · exact Or.inl rfl
        · by_cases heq : busId = d.busId
          · exact Or.inl heq
          · exact Or.inr ⟨hmem, heq, hnot⟩

theorem nodup_dedupFrom {seen : List String} {devices : List UsbDevice} :
    (busIds (dedupFrom seen devices)).Nodup := by
  induction devices generalizing seen with
  | nil => exact List.nodup_nil
  | cons d ds ih =>
    rw [dedupFrom]
    split
    · exact ih
    · refine List.nodup_cons.mpr ⟨fun hmem => ?_, ih⟩
      exact (mem_busIds_dedupFrom.mp hmem).2 List.mem_cons_self

theorem mem_of_mem_dedupFrom {seen : List String} {devices : List UsbDevice} {d : UsbDevice}
    (h : d ∈ dedupFrom seen devices) : d ∈ devices := by
  induction devices generalizing seen with
  | nil => exact h
  | cons e ds ih =>
    rw [dedupFrom] at h
    split at h
    · exact List.mem_cons_of_mem e (ih h)
    · rcases List.mem_cons.mp h with rfl | h
      · exact List.mem_cons_self
      · exact List.mem_cons_of_mem e (ih h)

/-- `dedup_devices_by_bus_id` -/
def dedupDevicesByBusId (devices : List UsbDevice) : List UsbDevice := dedupFrom [] devices

/-- The bus id of an import request: the bytes before the first NUL, if they are UTF-8. -/
def parseBusId (busid : List UInt8) : Option String :=
  String.fromUTF8? ⟨(busid.takeWhile fun b => b ≠ 0).toArray⟩

namespace Inventory

/-- `UsbIpServer::occupy` -/
def occupy (inv : Inventory) (busId : String) : Outcome (UsbDevice × Inventory) :=
  match inv.available.find? fun d => d.busId = busId with
  | none => Outcome.err (.other "No available device")
  | some d =>
      let device := prepareDeviceForImport d
      .ok (device,
        { available := inv.available.eraseP fun d => d.busId = busId
          used :=
            if inv.used.any fun d => d.busId = device.busId then inv.used
            else inv.used ++ [device] })

/-- `UsbIpServer::release` -/
def release (inv : Inventory) (device : UsbDevice) : Inventory where
  available :=
    if inv.available.any fun d => d.busId = device.busId then inv.available
    else inv.available ++ [device]
  used := inv.used.filter fun d => d.busId ≠ device.busId

/-- Give back what a connection has imported. -/
def releaseImported (inv : Inventory) : Option UsbDevice → Inventory
  | some dev => inv.release dev
  | none => inv

/-- `UsbIpServer::handle_op_req_import`, on the connection's imported device. -/
def handleOpReqImport (inv : Inventory) (busid : List UInt8) (importedDevice : Option UsbDevice) :
    Outcome (UsbIpResponse × Option UsbDevice × Inventory) :=
  match parseBusId busid with
  | none => Outcome.err (.other s!"Invalid bus id: {busid}")
  | some busId =>
      let inv := inv.releaseImported importedDevice
      match inv.occupy busId with
      | .ok (dev, inv) => .ok (.opRepImportSuccess dev, some dev, inv)
      | .error _ => .ok (.opRepImportFail, none, inv)

/-! ## Synchronisation with the host

Under both locks the entries of devices that are gone are dropped; then the devices of the
host that the inventory did not know are opened, without a lock, and appended. -/

/-- What `sync_from_host_with_filter` looks at: the listed devices that are shared. -/
def shared (filter : DeviceInfo → Bool) (listed : List DeviceInfo) : List DeviceInfo :=
  (listed.filter fun info => !isUsbHubInfo info).filter filter

theorem mem_shared {filter : DeviceInfo → Bool} {listed : List DeviceInfo} {info : DeviceInfo} :
    info ∈ shared filter listed ↔
      info ∈ listed ∧ isUsbHubInfo info = false ∧ filter info = true := by
  rw [shared, List.mem_filter, List.mem_filter, Bool.not_eq_true', and_assoc]

/-- The part under the locks, and the bus ids known after it. -/
def syncRetain (inv : Inventory) (currentBusIds : List String) : Inventory × List String :=
  let inv : Inventory :=
    { available := dedupDevicesByBusId (inv.available.filter fun d => d.busId ∈ currentBusIds)
      used := dedupDevicesByBusId (inv.used.filter fun d => d.busId ∈ currentBusIds) }
  (inv, busIds (inv.available ++ inv.used))

/-- The devices that are opened. -/
def newInfos (current : List DeviceInfo) (knownBusIds : List String) : List DeviceInfo :=
  current.filter fun info => hostExportBusId info ∉ knownBusIds

/-- `UsbIpServer::sync_from_host_with_filter`, run without interruption. -/
def syncFromHost (prof : Profile) (opens : DeviceInfo → Option OpenedDevice)
    (filter : DeviceInfo → Bool) (listed : List DeviceInfo) (inv : Inventory) :
    Outcome (List String × Inventory) := do
  let current := shared filter listed
  let currentBusIds := current.map hostExportBusId
  let (inv, knownBusIds) := inv.syncRetain currentBusIds
  let newDevices ← withNusbDevices prof opens (newInfos current knownBusIds)
  .ok (currentBusIds, { inv with available := inv.available ++ newDevices })

/-! ## No bus id stands twice -/

structure Tidy (inv : Inventory) : Prop where
  available : (busIds inv.available).Nodup
  used : (busIds inv.used).Nodup
  disjoint : ∀ d ∈ inv.available, ∀ e ∈ inv.used, d.busId ≠ e.busId

variable {inv inv' : Inventory} {device d e : UsbDevice} {busId : String}

theorem tidy_empty : Tidy {} := ⟨List.nodup_nil, List.nodup_nil, fun _ h => (nomatch h)⟩

theorem mem_eraseP_iff {l : List UsbDevice} (h : (busIds l).Nodup) :
    e ∈ l.eraseP (fun d => d.busId = busId) ↔ e ∈ l ∧ e.busId ≠ busId := by
  induction l with
  | nil => simp
  | cons d l ih =>
    obtain ⟨hd, hl⟩ := List.nodup_cons.mp h
    by_cases hb : d.busId = busId
    · simp only [List.eraseP_cons, hb, decide_true, cond_true]
      constructor
      · intro he
        exact ⟨List.mem_cons_of_mem _ he, fun heb =>
          hd (List.mem_map.mpr ⟨e, he, heb.trans hb.symm⟩)⟩
      · rintro ⟨he, hne⟩
        rcases List.mem_cons.mp he with rfl | he
        · exact absurd hb hne
        · exact he
    · simp only [List.eraseP_cons, hb, decide_false, cond_false, List.mem_cons, ih hl]
      constructor
      · rintro (rfl | he)
        · exact ⟨Or.inl rfl, hb⟩
        · exact ⟨Or.inr he.1, he.2⟩
      · rintro ⟨rfl | he, hne⟩
        · exact Or.inl rfl
        · exact Or.inr ⟨he, hne⟩

/-- What a successful occupation does: the entry moves from one list to the other. -/
structure Occupied (inv : Inventory) (busId : String) (device : UsbDevice) (inv' : Inventory) :
    Prop where
  busId_eq : device.busId = busId
  mem : device ∈ inv.available
  used : inv'.used = inv.used ++ [device]
  available : ∀ e, e ∈ inv'.available ↔ e ∈ inv.available ∧ e.busId ≠ busId
  tidy : inv'.Tidy

theorem Tidy.occupy_ok (h : inv.Tidy) (ho : inv.occupy busId = .ok (device, inv')) :
    Occupied inv busId device inv' := by
  unfold occupy at ho
  cases hf : inv.available.find? fun d => d.busId = busId with
  | none =>
    rw [hf] at ho
    cases ho
  | some d =>
    rw [hf] at ho
    cases ho
    have hmem : d ∈ inv.available := List.mem_of_find?_eq_some hf
    have hbus : d.busId = busId := by simpa using List.find?_some hf
    have hfresh : (inv.used.any fun e => e.busId = d.busId) = false := by
      rw [List.any_eq_false]
      intro e he
      simpa using (h.disjoint d hmem e he).symm
    have hused : (if (inv.used.any fun e => e.busId = d.busId) = true then inv.used
        else inv.used ++ [d]) = inv.used ++ [d] := if_neg (by rw [hfresh]; decide)
    have havail : ∀ e, e ∈ inv.available.eraseP (fun d => d.busId = busId) ↔
        e ∈ inv.available ∧ e.busId ≠ busId := fun e => mem_eraseP_iff h.available
    refine ⟨hbus, hmem, hused, havail, ?_, ?_, ?_⟩
    · exact h.available.sublist (List.Sublist.map _ List.eraseP_sublist)
    · show (busIds (if _ then _ else _)).Nodup
      rw [show prepareDeviceForImport d = d from rfl, hused, busIds, List.map_append]
      refine List.nodup_append.mpr ⟨h.used, List.nodup_singleton _, ?_⟩
      intro b hb b' hb'
      obtain ⟨e, he, rfl⟩ := List.mem_map.mp hb
      rw [List.mem_singleton.mp hb']
      exact (h.disjoint d hmem e he).symm
    · intro e he u hu
      obtain ⟨hea, heb⟩ := (havail e).mp he
      rw [show prepareDeviceForImport d = d from rfl, hused] at hu
      rcases List.mem_append.mp hu with hu | hu
      · exact h.disjoint e hea u hu
      · rw [List.mem_singleton.mp hu, hbus]
        exact heb

/-! ### Release -/

theorem mem_release_used : e ∈ (inv.release d).used ↔ e ∈ inv.used ∧ e.busId ≠ d.busId := by
  simp [release]

theorem mem_release_available :
    e ∈ (inv.release d).available ↔
      e ∈ inv.available ∨ (e = d ∧ ∀ a ∈ inv.available, a.busId ≠ d.busId) := by
  unfold release
  dsimp only
  split
  · rename_i hany
    obtain ⟨a, ha, hab⟩ := List.any_eq_true.mp hany
    refine ⟨Or.inl, fun h => ?_⟩
    rcases h with h | ⟨-, hno⟩
    · exact h
    · exact absurd (of_decide_eq_true hab) (hno a ha)
  · rename_i hany
    have hno : ∀ a ∈ inv.available, a.busId ≠ d.busId := fun a ha hab =>
      hany (List.any_eq_true.mpr ⟨a, ha, decide_eq_true hab⟩)
    rw [List.mem_append, List.mem_singleton]
    exact ⟨fun h => h.imp id fun h => ⟨h, hno⟩, fun h => h.imp id And.left⟩

theorem Tidy.release (h : inv.Tidy) (d : UsbDevice) : (inv.release d).Tidy := by
  refine ⟨?_, ?_, ?_⟩
  · unfold Inventory.release
    dsimp only
    split
    · exact h.available
    · rename_i hany
      rw [busIds, List.map_append]
      refine List.nodup_append.mpr ⟨h.available, List.nodup_singleton _, ?_⟩
      intro b hb b' hb' heq
      obtain ⟨a, ha, rfl⟩ := List.mem_map.mp hb
      rw [List.mem_singleton.mp hb'] at heq
      exact hany (List.any_eq_true.mpr ⟨a, ha, decide_eq_true heq⟩)
  · exact h.used.sublist (List.Sublist.map _ List.filter_sublist)
  · intro a ha u hu
    obtain ⟨hu, hub⟩ := mem_release_used.mp hu
    rcases mem_release_available.mp ha with ha | ⟨rfl, -⟩
    · exact h.disjoint a ha u hu
    · exact hub.symm

theorem Tidy.releaseImported (h : inv.Tidy) (imported : Option UsbDevice) :
    (inv.releaseImported imported).Tidy := by
  cases imported with
  | none => exact h
  | some d => exact h.release d

/-! ### Synchronisation -/

theorem dedupFrom_eq_self {seen : List String} {l : List UsbDevice} (hl : (busIds l).Nodup)
    (hseen : ∀ d ∈ l, d.busId ∉ seen) : dedupFrom seen l = l := by
  induction l generalizing seen with
  | nil => rfl
  | cons d l ih =>
    obtain ⟨hd, hl⟩ := List.nodup_cons.mp hl
    rw [dedupFrom, if_neg (hseen d List.mem_cons_self)]
    refine congrArg (d :: ·) (ih hl fun e he hmem => ?_)
    rcases List.mem_cons.mp hmem with heq | hmem
    · exact hd (List.mem_map.mpr ⟨e, he, heq⟩)
    · exact hseen e (List.mem_cons_of_mem _ he) hmem

theorem dedup_filter (p : UsbDevice → Bool) {l : List UsbDevice} (h : (busIds l).Nodup) :
    dedupDevicesByBusId (l.filter p) = l.filter p :=
  dedupFrom_eq_self (h.sublist (List.Sublist.map _ List.filter_sublist)) fun _ _ => by simp

/-- A tidy inventory loses the entries of absent devices, and nothing to the deduplication. -/
theorem Tidy.syncRetain (h : inv.Tidy) (current : List String) :
    (inv.syncRetain current).1 =
      { available := inv.available.filter fun d => d.busId ∈ current
        used := inv.used.filter fun d => d.busId ∈ current } := by
  unfold Inventory.syncRetain
  rw [dedup_filter _ h.available, dedup_filter _ h.used]

/-- What a synchronisation does to a tidy inventory: it keeps the entries of devices that are
    listed and appends devices opened from listed ones. -/
structure Synced (filter : DeviceInfo → Bool) (listed : List DeviceInfo) (inv inv' : Inventory) :
    Prop where
  used : ∀ e, e ∈ inv'.used ↔
    e ∈ inv.used ∧ e.busId ∈ (shared filter listed).map hostExportBusId
  available : ∀ e ∈ inv'.available,
    e ∈ inv.available ∨ ∃ info ∈ shared filter listed, OpenedFrom e info
  tidy : inv'.Tidy

/-- Appending devices the lists do not know keeps them tidy. -/
theorem Tidy.append (h : inv.Tidy) {new : List UsbDevice} (hnew : (busIds new).Nodup)
    (hknown : ∀ d ∈ new, d.busId ∉ busIds (inv.available ++ inv.used)) :
    Tidy { inv with available := inv.available ++ new } := by
  have hfresh : ∀ d ∈ new, ∀ e ∈ inv.available ++ inv.used, d.busId ≠ e.busId :=
    fun d hd e he heq => hknown d hd (mem_busIds.mpr ⟨e, he, heq.symm⟩)
  refine ⟨?_, h.used, fun d hd u hu => ?_⟩
  · rw [busIds, List.map_append]
    refine List.nodup_append.mpr ⟨h.available, hnew, ?_⟩
    intro b hb b' hb' heq
    obtain ⟨e, he, rfl⟩ := List.mem_map.mp hb
    obtain ⟨d, hd, rfl⟩ := List.mem_map.mp hb'
    exact hfresh d hd e (List.mem_append_left _ he) heq.symm
  · rcases List.mem_append.mp hd with hd | hd
    · exact h.disjoint d hd u hu
    · exact hfresh d hd u (List.mem_append_right _ hu)

theorem Tidy.syncFromHost {prof : Profile} {opens : DeviceInfo → Option OpenedDevice}
    {filter : DeviceInfo → Bool} {listed : List DeviceInfo} {ids : List String} (h : inv.Tidy)
    (hlisted : (listed.map hostExportBusId).Nodup)
    (hs : inv.syncFromHost prof opens filter listed = .ok (ids, inv')) :
    Synced filter listed inv inv' := by
  obtain ⟨new, hnew, hs⟩ := Outcome.bind_eq_ok.mp hs
  cases hs
  have hretain := h.syncRetain ((shared filter listed).map hostExportBusId)
  have htidy : (inv.syncRetain ((shared filter listed).map hostExportBusId)).1.Tidy := by
    rw [hretain]
    exact ⟨h.available.sublist (List.Sublist.map _ List.filter_sublist),
      h.used.sublist (List.Sublist.map _ List.filter_sublist), fun d hd e he =>
        h.disjoint d (List.mem_of_mem_filter hd) e (List.mem_of_mem_filter he)⟩
  obtain ⟨hopened, hsub⟩ := withNusbDevices_openedFrom hnew
  have hshared : ((shared filter listed).map hostExportBusId).Nodup :=
    hlisted.sublist (List.Sublist.map _ (List.filter_sublist.trans List.filter_sublist))
  have hnewnodup : (busIds new).Nodup :=
    (hshared.sublist (List.Sublist.map _ List.filter_sublist)).sublist hsub
  have hknown : ∀ d ∈ new, d.busId ∉
      (inv.syncRetain ((shared filter listed).map hostExportBusId)).2 := by
    intro d hd
    obtain ⟨info, hinfo, ho⟩ := hopened d hd
    rw [ho.busId]
    exact of_decide_eq_true (List.mem_filter.mp hinfo).2
  refine ⟨fun e => ?_, fun e he => ?_, htidy.append hnewnodup hknown⟩
  · show e ∈ (inv.syncRetain _).1.used ↔ _
    rw [hretain, List.mem_filter, decide_eq_true_iff]
  · have he : e ∈ (inv.syncRetain ((shared filter listed).map hostExportBusId)).1.available ++ new :=
      he
    rw [hretain] at he
    rcases List.mem_append.mp he with he | he
    · exact Or.inl (List.mem_of_mem_filter he)
    · obtain ⟨info, hinfo, ho⟩ := hopened e he
      exact Or.inr ⟨info, List.mem_of_mem_filter hinfo, ho⟩

end Inventory
end Lusbip
