import Lusbip.Lib.Radix
import Lusbip.Server.Exports
import Lusbip.Server.Ownership

/-!
# The status page of the server

What the operator sees: a row for each device that is plugged in and passes the filter, with the
client that has it. The page asks the host and the occupancy map, and never the lists of the server;
it even has the predicates for hubs and the export bus id a second time. Here the page is compared
with what the server exports.

`DeviceInfo::bus_id`, which the filter accepts as well, is a parameter.
-/

namespace Lusbip

open Lib
open Lib.Radix

/-- What the operator has asked for: each part that is given has to match. -/
structure ServerDeviceFilter where
  vid : Option UInt16
  pid : Option UInt16
  busId : Option String
  deriving DecidableEq, Repr

/-- A hub, by its own class or by that of an interface. -/
def isUsbHub (device : DeviceInfo) : Bool :=
  device.deviceClass = 0x09 || device.interfaceClasses.any fun cls => cls = 0x09

/-- The name that the kernel has for the device, or one made of its place on the bus. -/
def exportBusId (device : DeviceInfo) : String :=
  device.fileName.getD s!"{device.busnum}-{device.deviceAddress}-0"

/-- `bus_id` may be the export bus id, or nusb's own. -/
def ServerDeviceFilter.matches (filter : ServerDeviceFilter) (nusbBusId : DeviceInfo → String)
    (device : DeviceInfo) : Bool :=
  if isUsbHub device then false
  else if filter.vid.any fun expected => device.vendorId != expected then false
  else if filter.pid.any fun expected => device.productId != expected then false
  else if filter.busId.any fun expected =>
      exportBusId device != expected && nusbBusId device != expected then false
  else true

/-- A row of the page. -/
structure SharedDeviceView where
  busId : String
  vidPid : Text
  product : String
  client : Option String
  deriving DecidableEq, Repr

/-- The row, as it is written. -/
def formatSharedDeviceRow (device : SharedDeviceView) : Text :=
  let status :=
    match device.client with
    | some client => "occupied by ".toList ++ client.toList
    | none => "available".toList
  device.busId.toList ++ " | ".toList ++ device.vidPid ++ " | ".toList ++ device.product.toList ++
    " | ".toList ++ status

/-- A row for each device that passes the filter, not yet with its client. -/
def sharedDeviceViews (nusbBusId : DeviceInfo → String) (devices : List DeviceInfo)
    (filter : ServerDeviceFilter) : List SharedDeviceView :=
  (devices.filter (filter.matches nusbBusId)).map fun device =>
    { busId := exportBusId device
      vidPid := padded 16 4 device.vendorId.toNat ++ ":".toList ++
        padded 16 4 device.productId.toNat
      product := device.productString.getD "Unknown"
      client := none }

/-- The rows of the page. -/
def statusRows (nusbBusId : DeviceInfo → String) (filter : ServerDeviceFilter)
    (occupancy : String → Option String) (devices : List DeviceInfo) : List SharedDeviceView :=
  (sharedDeviceViews nusbBusId devices filter).map fun row =>
    { row with client := occupancy row.busId }

/-- The page, from the listing of the host or what it failed with. -/
def buildServerStatus (nusbBusId : DeviceInfo → String) (addr : Text) (filter : ServerDeviceFilter)
    (occupancy : String → Option String) (listed : Except Text (List DeviceInfo)) : Text :=
  let head := "LUSBIP USB/IP server listening on ".toList ++ addr ++ "\r\n".toList ++
    "Esc: background | Ctrl+C: stop and release devices.\r\n\r\n".toList ++
    "Bus ID | VID:PID | Product | Status\r\n".toList ++
    "------------------------------------\r\n".toList
  match listed with
  | .error err =>
      head ++ "Unable to refresh USB list: ".toList ++ err ++ "\r\n".toList ++
        "(no matching USB devices currently plugged in)\r\n".toList
  | .ok devices =>
      match statusRows nusbBusId filter occupancy devices with
      | [] => head ++ "(no matching USB devices currently plugged in)\r\n".toList
      | rows => head ++ rows.flatMap fun row => formatSharedDeviceRow row ++ "\r\n".toList

/-! ## The two sides -/

variable {nusbBusId : DeviceInfo → String} {filter : ServerDeviceFilter}
  {occupancy : String → Option String} {listed : List DeviceInfo} {x : String}

theorem isUsbHub_eq (device : DeviceInfo) : isUsbHub device = isUsbHubInfo device := rfl

theorem exportBusId_eq (device : DeviceInfo) : exportBusId device = hostExportBusId device := rfl

/-- The page filters out hubs by itself, and what the synchronisation looks at is the same. -/
theorem filter_matches_eq_shared :
    listed.filter (filter.matches nusbBusId) =
      Inventory.shared (filter.matches nusbBusId) listed := by
  rw [Inventory.shared, List.filter_filter]
  refine List.filter_congr fun device _ => ?_
  cases hhub : isUsbHubInfo device with
  | false => exact (Bool.and_true _).symm
  | true =>
    have hmatches : filter.matches nusbBusId device = false :=
      if_pos ((isUsbHub_eq device).trans hhub)
    rw [hmatches]
    rfl

/-- The page has a row for each device the synchronisation looks at, in its order. -/
theorem busIds_statusRows :
    (statusRows nusbBusId filter occupancy listed).map (·.busId) =
      (Inventory.shared (filter.matches nusbBusId) listed).map hostExportBusId := by
  rw [statusRows, sharedDeviceViews, List.map_map, List.map_map, filter_matches_eq_shared]
  exact List.map_congr_left fun device _ => exportBusId_eq device

/-- Every device that was looked at is opened or ignored. -/
theorem withNusbDevices_covers {prof : Profile} {opens : DeviceInfo → Option OpenedDevice}
    {infos : List DeviceInfo} {ds : List UsbDevice}
    (h : withNusbDevices prof opens infos = .ok ds) :
    ∀ info ∈ infos, hostExportBusId info ∈ busIds ds ∨
      withNusbDevice prof opens info = .ok none := by
  induction infos generalizing ds with
  | nil => exact fun info hinfo => absurd hinfo List.not_mem_nil
  | cons info infos ih =>
    obtain ⟨d?, hd, h⟩ := Outcome.bind_eq_ok.mp h
    obtain ⟨rest, hrest, h⟩ := Outcome.bind_eq_ok.mp h
    cases h
    intro other hother
    rw [mem_busIds_append]
    rcases List.mem_cons.mp hother with rfl | hother
    · cases d? with
      | none => exact Or.inr hd
      | some d =>
        refine Or.inl (Or.inl ?_)
        rw [← (withNusbDevice_openedFrom hd).busId]
        exact List.mem_singleton_self _
    · exact (ih hrest other hother).imp_left Or.inr

/-- The rows are all on the page, one line each. -/
theorem buildServerStatus_shows (addr : Text) {row : SharedDeviceView}
    (h : row ∈ statusRows nusbBusId filter occupancy listed) :
    formatSharedDeviceRow row ++ "\r\n".toList <:+:
      buildServerStatus nusbBusId addr filter occupancy (.ok listed) := by
  obtain ⟨front, back, hrows⟩ := List.mem_iff_append.mp h
  unfold buildServerStatus
  dsimp only
  rw [hrows]
  cases hsplit : front ++ row :: back with
  | nil => exact absurd hsplit (List.append_ne_nil_of_right_ne_nil _ (List.cons_ne_nil _ _))
  | cons first rest =>
    dsimp only
    rw [← hsplit, List.flatMap_append, List.flatMap_cons]
    refine List.infix_append_of_infix_right ?_
    exact ⟨front.flatMap fun row => formatSharedDeviceRow row ++ "\r\n".toList,
      back.flatMap fun row => formatSharedDeviceRow row ++ "\r\n".toList, List.append_assoc ..⟩

/-- What is exported has a row, and a row without an export is that of a device which was
    ignored when the server tried to open it. -/
structure PageAgrees (prof : Profile) (opens : DeviceInfo → Option OpenedDevice)
    (listed : List DeviceInfo) (rows : List SharedDeviceView) (inv : Inventory) : Prop where
  shown : ∀ x ∈ busIds (inv.available ++ inv.used), x ∈ rows.map (·.busId)
  exported : ∀ x ∈ rows.map (·.busId), x ∈ busIds (inv.available ++ inv.used) ∨
    ∃ info ∈ listed, exportBusId info = x ∧ withNusbDevice prof opens info = .ok none

/-- **The page shows what is exported.** Right after a synchronisation, from whatever the lists held
    before, the bus ids on a page made from the same listing are those in the two lists of the
    server, together with those of devices it could not open. -/
theorem page_agrees {prof : Profile} {opens : DeviceInfo → Option OpenedDevice}
    (inv : Inventory) {inv' : Inventory} {ids : List String}
    (h : inv.syncFromHost prof opens (filter.matches nusbBusId) listed = .ok (ids, inv'))
    (occupancy : String → Option String) :
    PageAgrees prof opens listed (statusRows nusbBusId filter occupancy listed) inv' := by
  obtain ⟨new, hnew, h⟩ := Outcome.bind_eq_ok.mp h
  cases h
  obtain ⟨hopened, -⟩ := withNusbDevices_openedFrom hnew
  constructor
  · intro x hx
    rw [busIds_statusRows]
    rcases mem_busIds_append.mp hx with hx | hx
    · rcases mem_busIds_append.mp hx with hx | hx
      · exact (Inventory.mem_busIds_retain.mp hx).2
      · obtain ⟨d, hd, rfl⟩ := mem_busIds.mp hx
        obtain ⟨info, hinfo, hfrom⟩ := hopened d hd
        rw [hfrom.busId]
        exact List.mem_map_of_mem (List.mem_of_mem_filter hinfo)
    · exact (Inventory.mem_busIds_retain.mp hx).2
  · intro x hx
    rw [busIds_statusRows] at hx
    obtain ⟨info, hinfo, rfl⟩ := List.mem_map.mp hx
    by_cases hknown : hostExportBusId info ∈ (inv.syncRetain
        ((Inventory.shared (filter.matches nusbBusId) listed).map hostExportBusId)).2
    · refine Or.inl (mem_busIds_append.mpr ?_)
      rcases mem_busIds_append.mp hknown with hx | hx
      · exact Or.inl (mem_busIds_append.mpr (Or.inl hx))
      · exact Or.inr hx
    · have hnewInfo : info ∈ Inventory.newInfos (Inventory.shared (filter.matches nusbBusId) listed)
          (inv.syncRetain
            ((Inventory.shared (filter.matches nusbBusId) listed).map hostExportBusId)).2 :=
        List.mem_filter.mpr ⟨hinfo, decide_eq_true hknown⟩
      refine (withNusbDevices_covers hnew info hnewInfo).imp (fun hx => ?_) fun hignored => ?_
      · exact mem_busIds_append.mpr (Or.inl (mem_busIds_append.mpr (Or.inr hx)))
      · exact ⟨info, (Inventory.mem_shared.mp hinfo).1, exportBusId_eq info, hignored⟩

/-- A server of one vendor's devices, and a stick of that vendor. -/
def oneVendor : ServerDeviceFilter where
  vid := some 0x1209
  pid := none
  busId := none

theorem oneStick_agrees : ∃ inv', PageAgrees .release Ownership.openAll [Ownership.stick 1]
    (statusRows (fun _ => "1") oneVendor (fun _ => none) [Ownership.stick 1]) inv' :=
  ⟨_, page_agrees {} rfl fun _ => none⟩

end Lusbip
