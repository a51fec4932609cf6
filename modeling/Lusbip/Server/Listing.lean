import Lusbip.Server.Inventory

/-!
# The device list with its occupants

`handle_op_req_devlist_with_occupancy` puts three snapshots together: the available devices,
the occupancy map and the used devices. A used device replaces whatever stands under its bus
id, and if somebody is on record for it the product string says so.

Here is what becomes of three snapshots, whenever they were taken: every bus id of the first
and of the third is listed once, and a used device is listed as it is.
-/

namespace Lusbip

/-- `unique_devices_by_bus_id` -/
def uniqueDevicesByBusId (devices : List UsbDevice) : List UsbDevice := dedupFrom [] devices

namespace Listing

/-- A used device as it is listed. `occupancy` gives the address of the peer on record. -/
def markOccupied (prof : Profile) (occupancy : String → Option String) (device : UsbDevice) :
    Outcome UsbDevice :=
  match occupancy device.busId with
  | none => .ok device
  | some peer => do
      let product := (device.stringAt device.stringProduct).getD "Unknown"
      let (i, device) ← device.newString prof s!"{product} [occupied by {peer}]"
      .ok { device with stringProduct := i }

/-- The loop over the used devices. -/
def mergeUsed (prof : Profile) (occupancy : String → Option String) :
    List UsbDevice → List UsbDevice → Outcome (List UsbDevice)
  | devices, [] => .ok devices
  | devices, device :: used => do
      let occupied ← markOccupied prof occupancy device
      mergeUsed prof occupancy
        ((devices.filter fun d => d.busId ≠ occupied.busId) ++ [occupied]) used

/-- `UsbIpServer::handle_op_req_devlist`, on its snapshot. -/
def handleOpReqDevlist (available : List UsbDevice) : UsbIpResponse :=
  .opRepDevlistOf (uniqueDevicesByBusId available)

/-- `UsbIpServer::handle_op_req_devlist_with_occupancy`, on its three snapshots. -/
def handleOpReqDevlistWithOccupancy (prof : Profile) (available : List UsbDevice)
    (occupancy : String → Option String) (used : List UsbDevice) : Outcome UsbIpResponse := do
  let devices ← mergeUsed prof occupancy available used
  .ok (.opRepDevlistOf (uniqueDevicesByBusId devices))

variable {prof : Profile} {occupancy : String → Option String} {available used devices merged :
  List UsbDevice} {device d : UsbDevice} {busId : String}

theorem mem_busIds_uniqueDevicesByBusId :
    busId ∈ busIds (uniqueDevicesByBusId devices) ↔ busId ∈ busIds devices := by
  rw [uniqueDevicesByBusId, mem_busIds_dedupFrom]
  exact and_iff_left List.not_mem_nil

/-! ## The used devices replace the available ones -/

theorem markOccupied_busId (h : markOccupied prof occupancy device = .ok d) :
    d.busId = device.busId := by
  unfold markOccupied at h
  split at h
  · cases h
    rfl
  · obtain ⟨⟨i, e⟩, hstring, h⟩ := Outcome.bind_eq_ok.mp h
    cases h
    rw [UsbDevice.newString_ok hstring]

/-- Under the bus id stands a used device, as it is listed, and nothing else. -/
def Replaced (prof : Profile) (occupancy : String → Option String) (used : List UsbDevice)
    (busId : String) (devices : List UsbDevice) : Prop :=
  ∀ d ∈ devices, d.busId = busId →
    ∃ device ∈ used, device.busId = busId ∧ markOccupied prof occupancy device = .ok d

theorem mergeUsed_cons (h : mergeUsed prof occupancy devices (device :: used) = .ok merged) :
    ∃ occupied, markOccupied prof occupancy device = .ok occupied ∧
      mergeUsed prof occupancy
        ((devices.filter fun d => d.busId ≠ occupied.busId) ++ [occupied]) used = .ok merged :=
  Outcome.bind_eq_ok.mp h

/-- One turn of the loop. -/
theorem mem_busIds_replace {occupied : UsbDevice} :
    busId ∈ busIds ((devices.filter fun d => d.busId ≠ occupied.busId) ++ [occupied]) ↔
      busId ∈ busIds devices ∨ busId = occupied.busId := by
  simp only [mem_busIds, List.mem_append, List.mem_filter, decide_eq_true_iff,
    List.mem_singleton]
  constructor
  · rintro ⟨d, ⟨hd, -⟩ | rfl, rfl⟩
    · exact Or.inl ⟨d, hd, rfl⟩
    · exact Or.inr rfl
  · rintro (⟨d, hd, rfl⟩ | rfl)
    · by_cases heq : d.busId = occupied.busId
      · exact ⟨occupied, Or.inr rfl, heq.symm⟩
      · exact ⟨d, Or.inl ⟨hd, heq⟩, rfl⟩
    · exact ⟨occupied, Or.inr rfl, rfl⟩

theorem mem_busIds_mergeUsed (h : mergeUsed prof occupancy devices used = .ok merged) :
    busId ∈ busIds merged ↔ busId ∈ busIds devices ∨ busId ∈ busIds used := by
  induction used generalizing devices with
  | nil =>
    cases h
    exact (or_iff_left List.not_mem_nil).symm
  | cons device used ih =>
    obtain ⟨occupied, hmark, h⟩ := mergeUsed_cons h
    rw [ih h, mem_busIds_replace, markOccupied_busId hmark, or_assoc]
    exact or_congr_right List.mem_cons.symm

/-- What the loop has replaced stays replaced, and it replaces what it comes to. -/
theorem replaced_mergeUsed {all : List UsbDevice} (hall : ∀ u ∈ used, u ∈ all)
    (h : mergeUsed prof occupancy devices used = .ok merged)
    (hr : busId ∈ busIds used ∨ Replaced prof occupancy all busId devices) :
    Replaced prof occupancy all busId merged := by
  induction used generalizing devices with
  | nil =>
    cases h
    exact hr.resolve_left List.not_mem_nil
  | cons device used ih =>
    obtain ⟨occupied, hmark, h⟩ := mergeUsed_cons h
    -- Whatever stood under the bus id before this turn, the rest of the loop takes over.
    refine ih (fun u hu => hall u (List.mem_cons_of_mem device hu)) h ?_
    have hbus := markOccupied_busId hmark
    by_cases heq : device.busId = busId
    · -- The turn of a device with this bus id: it is the only one left.
      refine Or.inr fun d hd hdb => ?_
      rcases List.mem_append.mp hd with hd | hd
      · have hne := of_decide_eq_true (List.mem_filter.mp hd).2
        exact absurd (hdb.trans (heq.symm.trans hbus.symm)) hne
      · rw [List.mem_singleton.mp hd]
        exact ⟨device, hall device List.mem_cons_self, heq, hmark⟩
    · rcases hr with hused | hr
      · rcases List.mem_cons.mp hused with hb | hused
        · exact absurd hb.symm heq
        · exact Or.inl hused
      · refine Or.inr fun d hd hdb => ?_
        rcases List.mem_append.mp hd with hd | hd
        · exact hr d (List.mem_of_mem_filter hd) hdb
        · rw [List.mem_singleton.mp hd, hbus] at hdb
          exact absurd hdb heq

/-! ## The reply -/

/-- What the reply says about its snapshots. -/
structure Lists (prof : Profile) (available : List UsbDevice)
    (occupancy : String → Option String) (used devices : List UsbDevice) : Prop where
  nodup : (busIds devices).Nodup
  mem : ∀ busId, busId ∈ busIds devices ↔ busId ∈ busIds available ∨ busId ∈ busIds used
  /-- A bus id that is used is listed with a used device. -/
  replaced : ∀ busId ∈ busIds used, Replaced prof occupancy used busId devices

/-- **The device list puts its snapshots together.** -/
theorem handleOpReqDevlistWithOccupancy_lists {response : UsbIpResponse}
    (h : handleOpReqDevlistWithOccupancy prof available occupancy used = .ok response) :
    ∃ devices, response = .opRepDevlistOf devices ∧
      Lists prof available occupancy used devices := by
  obtain ⟨merged, hmerged, h⟩ := Outcome.bind_eq_ok.mp h
  cases h
  refine ⟨uniqueDevicesByBusId merged, rfl, nodup_dedupFrom, fun busId => ?_, ?_⟩
  · rw [mem_busIds_uniqueDevicesByBusId, mem_busIds_mergeUsed hmerged]
  · intro busId hused d hd hdb
    have hr := replaced_mergeUsed (fun _ hu => hu) hmerged (Or.inl hused)
    exact hr d (mem_of_mem_dedupFrom hd) hdb

/-! A string that is not there to be marked ends the task; nothing here comes back as an error. -/

theorem newStringFrom_ne_err (s : String) (e : IoError) (fuel : Nat) (i : UInt8) :
    device.newStringFrom prof s fuel i ≠ .error (.err e) := by
  induction fuel generalizing i with
  | zero =>
    intro h
    cases h
  | succ fuel ih =>
    unfold UsbDevice.newStringFrom
    split
    · intro h
      cases h
    · split
      · intro h
        cases h
      · exact ih (i + 1)

theorem markOccupied_ne_err (e : IoError) :
    markOccupied prof occupancy device ≠ .error (.err e) := by
  unfold markOccupied
  split
  · exact nofun
  · refine Outcome.bind_ne_err (newStringFrom_ne_err _ e 256 1) fun _ => ?_
    exact nofun

theorem mergeUsed_ne_err (e : IoError) :
    mergeUsed prof occupancy devices used ≠ .error (.err e) := by
  induction used generalizing devices with
  | nil => exact nofun
  | cons device used ih => exact Outcome.bind_ne_err (markOccupied_ne_err e) fun _ => ih

/-- **The device list is not refused.** -/
theorem handleOpReqDevlistWithOccupancy_ne_err (e : IoError) :
    handleOpReqDevlistWithOccupancy prof available occupancy used ≠ .error (.err e) :=
  Outcome.bind_ne_err (mergeUsed_ne_err e) fun _ => nofun

end Listing
end Lusbip
