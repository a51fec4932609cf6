import Lusbip.Client.ExitPath

/-!
# The rows from the cache

The screen is refreshed from a cache of the remote's devices. A refresh asks the remote only while
no row shows a port: as soon as one does, the devices that were listed last are shown until it is
gone. So what a refresh shows is right for the table of ports, and for the listing that was heard
last. What the remote exports at the moment is another thing: a device that is plugged into the
server while something is attached stays hidden, and one that is taken away stays on the screen.
-/

namespace Lusbip
namespace Client

open Lib
open Lib.Program

variable {remote : Text} {tcpPort : UInt16} {devices cache : List RemoteUsbDevice}
  {ports : List AttachedUsbPort} {env : Environment} {n : Nat}

/-- A refresh of the screen: the outside it meets, and what the remote exports at its time. The
    remote answers whenever it is asked. -/
structure Refresh (remote : Text) (tcpPort : UInt16) where
  env : Environment
  exports : List RemoteUsbDevice
  answers : ∀ n, readDeviceList (env n (listCall remote tcpPort)) = .ok exports

variable {r : Refresh remote tcpPort}

/-- The port table as the refresh reads it. -/
def Refresh.table (r : Refresh remote tcpPort) : List AttachedUsbPort :=
  result r.env 0 queryAttachedPortsResilient

/-- The rows, and the cache as it is left. -/
def Refresh.load (r : Refresh remote tcpPort) (cache : List RemoteUsbDevice) :
    Except Text (List RemoteUsbDeviceState) × List RemoteUsbDevice :=
  result r.env 0 (loadRemoteDeviceStatesCached remote tcpPort cache)

/-- The refresh asks the remote what it exports. -/
def Refresh.Asks (r : Refresh remote tcpPort) (cache : List RemoteUsbDevice) : Prop :=
  ∃ e ∈ events r.env 0 (loadRemoteDeviceStatesCached remote tcpPort cache),
    e.1 = listCall remote tcpPort

/-- The cache after refreshes, one after the other. It is empty at first. -/
def cacheAfter (history : List (Refresh remote tcpPort)) : List RemoteUsbDevice :=
  history.foldl (fun cache r => (r.load cache).2) []

theorem cacheAfter_concat (history : List (Refresh remote tcpPort)) (r : Refresh remote tcpPort) :
    cacheAfter (history ++ [r]) = (r.load (cacheAfter history)).2 := by
  rw [cacheAfter, List.foldl_append]
  rfl

/-! ## One refresh -/

theorem resilient_asks_nothing (remote : Text) (tcpPort : UInt16) :
    queryAttachedPortsResilient.Calls (· ≠ listCall remote tcpPort) := by
  have hsudo : "sudo".toList ≠ "usbip".toList := by decide
  refine calls_resilient (fun h => ?_) (fun h => by cases h)
    (fun _ h => hsudo (Call.run.inj h).1) (fun _ _ _ h => by cases h)
  have hlen := congrArg List.length (Call.run.inj h).2
  simp at hlen

theorem result_cachedStates (ports : List AttachedUsbPort) (cache : List RemoteUsbDevice) :
    ∃ occupancy, result env n (cachedStates remote tcpPort ports cache)
      = (.ok (applyRemoteOccupancy (remoteDeviceStates remote cache ports) occupancy), cache) := by
  rw [cachedStates, result_bind]
  exact ⟨_, rfl⟩

/-- No row made of the cache shows a port, be it for want of rows. -/
def Refresh.Idle (r : Refresh remote tcpPort) (cache : List RemoteUsbDevice) : Prop :=
  cache = [] ∨ ∀ row ∈ remoteDeviceStates remote cache r.table, row.attachedPort = none

/-- A refresh without a port to show asks, and shows what it is told. -/
theorem load_of_idle (h : r.Idle cache) :
    r.Asks cache ∧ ∃ occupancy, r.load cache
      = (.ok (applyRemoteOccupancy (remoteDeviceStates remote r.exports r.table) occupancy),
        r.exports) := by
  have hanswer : ∀ m, result r.env m (queryRemoteDevices remote tcpPort) = .ok r.exports :=
    r.answers
  rw [Refresh.Idle, Refresh.table] at h
  constructor
  · rw [Refresh.Asks, loadRemoteDeviceStatesCached, events_bind, if_pos h, events_bind]
    exact ⟨_, List.mem_append_right _ (List.mem_append_left _ List.mem_cons_self), rfl⟩
  · -- The old cache is overwritten before a row is made.
    rw [Refresh.load, loadRemoteDeviceStatesCached, result_bind, if_pos h, result_bind, hanswer]
    exact result_cachedStates _ r.exports

/-- A refresh with one asks nothing, and shows what was listed before. -/
theorem load_of_busy (h : ¬ r.Idle cache) :
    ¬ r.Asks cache ∧ ∃ occupancy, r.load cache
      = (.ok (applyRemoteOccupancy (remoteDeviceStates remote cache r.table) occupancy),
        cache) := by
  rw [Refresh.Idle, Refresh.table] at h
  constructor
  · rintro ⟨e, he, hcall⟩
    have hcached : (cachedStates remote tcpPort
        (result r.env 0 queryAttachedPortsResilient) cache).Calls (· ≠ listCall remote tcpPort) :=
      calls_cachedStates (fun _ h => by cases h) remote tcpPort _ cache
    rw [loadRemoteDeviceStatesCached, events_bind, if_neg h] at he
    rcases List.mem_append.mp he with he | he
    · exact (resilient_asks_nothing remote tcpPort).events r.env _ e he hcall
    · exact hcached.events r.env _ e he hcall
  · rw [Refresh.load, loadRemoteDeviceStatesCached, result_bind, if_neg h]
    exact result_cachedStates _ cache

/-! ## What rows show -/

theorem devices_applyRemoteOccupancy (states : List RemoteUsbDeviceState)
    (occupancy : Text → Option Text) :
    (applyRemoteOccupancy states occupancy).map (·.device) = states.map (·.device) := by
  rw [applyRemoteOccupancy, List.map_map]
  refine List.map_congr_left fun state _ => ?_
  rw [Function.comp_apply]
  split <;> rfl

/-- A row with the occupancy is one without it, but for the occupancy. -/
theorem mem_applyRemoteOccupancy {states : List RemoteUsbDeviceState}
    {occupancy : Text → Option Text} {row : RemoteUsbDeviceState}
    (h : row ∈ applyRemoteOccupancy states occupancy) :
    ∃ state ∈ states, row.device = state.device ∧ row.attachedPort = state.attachedPort := by
  obtain ⟨state, hstate, rfl⟩ := List.mem_map.mp h
  refine ⟨state, hstate, ?_⟩
  split <;> exact ⟨rfl, rfl⟩

/-- The rows are those of the devices and of the ports: the bus ids are the ones that
    `load_remote_device_states` shows when it meets this listing and this table, every device of
    the listing has a row, and a row without one has a port of the remote. -/
structure ShowsListing (remote : Text) (tcpPort : UInt16) (devices : List RemoteUsbDevice)
    (ports : List AttachedUsbPort) (rows : List RemoteUsbDeviceState) : Prop where
  agree : ∀ env, listing env remote tcpPort = .ok devices → tableOf env = ports →
    ∃ rows', result env 0 (loadRemoteDeviceStates remote tcpPort) = .ok rows' ∧
      rows.map (·.device.busId) = rows'.map (·.device.busId)
  listed : ∀ device ∈ devices, ∃ row ∈ rows, row.device.busId = device.busId
  nothingElse : ∀ row ∈ rows, (∃ device ∈ devices, row.device.busId = device.busId) ∨
    ∃ port ∈ ports, attachedPortBelongsToRemote remote port = true ∧
      row.attachedPort = some port.port

theorem result_loadRemoteDeviceStates (hlist : listing env remote tcpPort = .ok devices) :
    ∃ occupancy, result env 0 (loadRemoteDeviceStates remote tcpPort)
      = .ok (applyRemoteOccupancy (remoteDeviceStates remote devices (tableOf env)) occupancy) := by
  have hresult : result env 0 (queryRemoteDevices remote tcpPort) = .ok devices := hlist
  simp only [loadRemoteDeviceStates, Program.andThen, result_bind, hresult, result_ret]
  exact ⟨_, rfl⟩

theorem showsListing (remote : Text) (tcpPort : UInt16) (devices : List RemoteUsbDevice)
    (ports : List AttachedUsbPort) (occupancy : Text → Option Text) :
    ShowsListing remote tcpPort devices ports
      (applyRemoteOccupancy (remoteDeviceStates remote devices ports) occupancy) where
  agree env hlist htable := by
    obtain ⟨occupancy', hrows⟩ := result_loadRemoteDeviceStates hlist
    refine ⟨_, hrows, ?_⟩
    have hbus : ∀ rows : List RemoteUsbDeviceState,
        rows.map (·.device.busId) = (rows.map (·.device)).map (·.busId) := by
      intro rows
      rw [List.map_map]
      rfl
    rw [hbus, hbus, devices_applyRemoteOccupancy, devices_applyRemoteOccupancy, htable]
  listed device hdevice := by
    obtain ⟨d, hd, hbus⟩ := exists_uniqueFrom hdevice List.not_mem_nil
    have hdevices : d ∈ (applyRemoteOccupancy (remoteDeviceStates remote devices ports)
        occupancy).map (·.device) := by
      rw [devices_applyRemoteOccupancy]
      exact List.mem_map.mpr ⟨_, deviceState_mem hd, rfl⟩
    obtain ⟨row, hrow, rfl⟩ := List.mem_map.mp hdevices
    exact ⟨row, hrow, hbus⟩
  nothingElse row hrow := by
    obtain ⟨state, hstate, hdevice, hattached⟩ := mem_applyRemoteOccupancy hrow
    rw [hdevice, hattached]
    rw [remoteDeviceStates_eq] at hstate
    rcases List.mem_append.mp hstate with hstate | hstate
    · obtain ⟨device, hd, rfl⟩ := List.mem_map.mp hstate
      exact Or.inl ⟨device, (mem_uniqueFrom hd).1, rfl⟩
    · obtain ⟨port, hport, rfl⟩ := List.mem_map.mp hstate
      obtain ⟨hmem, hleft⟩ := List.mem_filter.mp hport
      rw [leftover, Bool.and_eq_true] at hleft
      exact Or.inr ⟨port, hmem, hleft.2, rfl⟩

/-! ## Refreshes one after the other -/

/-- The listing that was heard last, after the refreshes: `q` has asked, and nobody since. -/
structure HeardLast (history before : List (Refresh remote tcpPort)) (q : Refresh remote tcpPort)
    (after : List (Refresh remote tcpPort)) : Prop where
  split : history = before ++ q :: after
  asked : q.Asks (cacheAfter before)
  silent : ∀ earlier s later, after = earlier ++ s :: later →
    ¬ s.Asks (cacheAfter (before ++ q :: earlier))

theorem HeardLast.own {before : List (Refresh remote tcpPort)}
    (h : r.Asks (cacheAfter before)) : HeardLast (before ++ [r]) before r [] where
  split := rfl
  asked := h
  silent earlier s later heq := absurd heq.symm (by simp)

/-- A refresh that asks nothing leaves it at that. -/
theorem HeardLast.push {history before after : List (Refresh remote tcpPort)}
    {q : Refresh remote tcpPort} (h : HeardLast history before q after)
    (hr : ¬ r.Asks (cacheAfter history)) :
    HeardLast (history ++ [r]) before q (after ++ [r]) where
  split := by rw [h.split, List.append_assoc, List.cons_append]
  asked := h.asked
  silent earlier s later heq := by
    rcases List.eq_nil_or_concat' later with rfl | ⟨more, last, rfl⟩
    · -- The refresh in question is the new one.
      obtain ⟨rfl, hlast⟩ := List.append_inj' heq rfl
      obtain rfl := (List.cons.inj hlast).1
      rw [← h.split]
      exact hr
    · rw [← List.cons_append, ← List.append_assoc] at heq
      exact h.silent earlier s more (List.append_inj' heq rfl).1

/-- Unless it is new, the cache is the listing that was heard last. -/
theorem cacheAfter_eq_heard (history : List (Refresh remote tcpPort)) :
    history = [] ∨ ∃ before q after, HeardLast history before q after ∧
      cacheAfter history = q.exports := by
  induction history using List.reverseRecOn with
  | nil => exact Or.inl rfl
  | append_singleton history r ih =>
    refine Or.inr ?_
    by_cases hidle : r.Idle (cacheAfter history)
    · obtain ⟨hasks, occupancy, hload⟩ := load_of_idle hidle
      refine ⟨history, r, [], HeardLast.own hasks, ?_⟩
      rw [cacheAfter_concat, hload]
    · obtain ⟨hasks, occupancy, hload⟩ := load_of_busy hidle
      rcases ih with rfl | ⟨before, q, after, hlast, hcache⟩
      · exact absurd (Or.inl rfl) hidle
      · refine ⟨before, q, after ++ [r], hlast.push hasks, ?_⟩
        rw [cacheAfter_concat, hload]
        exact hcache

/-- A refresh that asks nothing shows a port. -/
theorem exists_attached_of_busy (h : ¬ r.Idle cache) (occupancy : Text → Option Text) :
    ∃ row ∈ applyRemoteOccupancy (remoteDeviceStates remote cache r.table) occupancy,
      row.attachedPort ≠ none := by
  rw [Refresh.Idle, not_or] at h
  push Not at h
  obtain ⟨-, state, hstate, hattached⟩ := h
  obtain ⟨number, hnumber⟩ := Option.ne_none_iff_exists'.mp hattached
  have hmem : number ∈ (remoteDeviceStates remote cache r.table).filterMap (·.attachedPort) :=
    List.mem_filterMap.mpr ⟨state, hstate, hnumber⟩
  rw [← attachedPorts_applyRemoteOccupancy _ occupancy] at hmem
  obtain ⟨row, hrow, hattached⟩ := List.mem_filterMap.mp hmem
  exact ⟨row, hrow, hattached ▸ Option.some_ne_none number⟩

/-- **The cache shows the listing that was heard last**: a refresh shows the rows for the current
    ports and the listing of the last refresh that asked. It asks itself, unless a port is in one
    of its rows. -/
theorem rows_of_lastListing (before : List (Refresh remote tcpPort))
    (r : Refresh remote tcpPort) :
    ∃ rows, (r.load (cacheAfter before)).1 = .ok rows ∧
      ∃ earlier q after, HeardLast (before ++ [r]) earlier q after ∧
        ShowsListing remote tcpPort q.exports r.table rows ∧
        ((∀ row ∈ rows, row.attachedPort = none) → q = r) := by
  by_cases hidle : r.Idle (cacheAfter before)
  · obtain ⟨hasks, occupancy, hload⟩ := load_of_idle hidle
    refine ⟨_, by rw [hload], before, r, [], HeardLast.own hasks, ?_, fun _ => rfl⟩
    exact showsListing remote tcpPort r.exports r.table occupancy
  · obtain ⟨hasks, occupancy, hload⟩ := load_of_busy hidle
    rcases cacheAfter_eq_heard before with rfl | ⟨earlier, q, after, hlast, hcache⟩
    · exact absurd (Or.inl rfl) hidle
    · refine ⟨_, by rw [hload], earlier, q, after ++ [r], hlast.push hasks, ?_, fun hnone => ?_⟩
      · rw [hcache]
        exact showsListing remote tcpPort q.exports r.table occupancy
      · obtain ⟨row, hrow, hattached⟩ := exists_attached_of_busy hidle occupancy
        exact absurd (hnone row hrow) hattached

/-! ## The listing of the moment -/

/-- A port of the remote goes by the bus id. -/
def AttachedAs (remote : Text) (ports : List AttachedUsbPort) (busId : Text) : Prop :=
  ∃ port ∈ ports, attachedPortBelongsToRemote remote port = true ∧
    (leftoverState port).device.busId = busId

/-- **The rows hide no device**: what the remote exports has a row, what is neither exported nor
    attached has none, and the bus ids are those that `load_remote_device_states` shows. -/
structure ShowsExports (r : Refresh remote tcpPort) (rows : List RemoteUsbDeviceState) : Prop where
  listed : ∀ device ∈ r.exports, ∃ row ∈ rows, row.device.busId = device.busId
  nothingElse : ∀ row ∈ rows, (∃ device ∈ r.exports, device.busId = row.device.busId) ∨
    AttachedAs remote r.table row.device.busId
  agree : ∀ env, listing env remote tcpPort = .ok r.exports → tableOf env = r.table →
    ∃ rows', result env 0 (loadRemoteDeviceStates remote tcpPort) = .ok rows' ∧
      ∀ busId, (∃ row ∈ rows, row.device.busId = busId) ↔ ∃ row ∈ rows', row.device.busId = busId

/-- A port that none of the devices takes goes by the bus id. -/
def PortLeft (remote : Text) (devices : List RemoteUsbDevice) (ports : List AttachedUsbPort)
    (busId : Text) : Prop :=
  ∃ port ∈ ports, LeftFor remote devices ports busId port

/-- The bus id is one of the devices, or that of a port that none of them takes. -/
def Named (remote : Text) (devices : List RemoteUsbDevice) (ports : List AttachedUsbPort)
    (busId : Text) : Prop :=
  (∃ device ∈ devices, device.busId = busId) ∨ PortLeft remote devices ports busId

/-- What has come to the remote since it was asked, and what has gone, has a port that is shown in
    its stead; and a bus id that is neither listed then nor now has a port to itself now if it had
    one by the list of then. -/
structure Refresh.Unchanged (r : Refresh remote tcpPort) (cache : List RemoteUsbDevice) :
    Prop where
  come : ∀ device ∈ r.exports, (∀ known ∈ cache, known.busId ≠ device.busId) →
    PortLeft remote cache r.table device.busId
  gone : ∀ known ∈ cache, (∀ device ∈ r.exports, device.busId ≠ known.busId) →
    PortLeft remote r.exports r.table known.busId
  unlisted : ∀ busId, (∀ known ∈ cache, known.busId ≠ busId) →
    (∀ device ∈ r.exports, device.busId ≠ busId) →
    (PortLeft remote cache r.table busId ↔ PortLeft remote r.exports r.table busId)

/-- The refresh asks the remote, since nothing is cached or no port belongs to it, or it need not
    ask, since what has changed there makes no difference to the bus ids. -/
def Refresh.Current (r : Refresh remote tcpPort) (cache : List RemoteUsbDevice) : Prop :=
  cache = [] ∨ (∀ port ∈ r.table, attachedPortBelongsToRemote remote port = false) ∨
    r.Unchanged cache

/-- A row shows a port exactly where a port belongs to the remote. -/
theorem idle_iff :
    r.Idle cache ↔
      cache = [] ∨ ∀ port ∈ r.table, attachedPortBelongsToRemote remote port = false := by
  refine or_congr_right ?_
  constructor
  · intro h port hport
    by_contra hbelongs
    have hpos : 0 < rowsOf (remoteDeviceStates remote cache r.table) port.port :=
      shown_pos hport (Bool.not_eq_false _ ▸ hbelongs)
    obtain ⟨row, hrow, hattached⟩ := List.countP_pos_iff.mp hpos
    rw [h row hrow] at hattached
    cases of_decide_eq_true hattached
  · intro h row hrow
    cases hattached : row.attachedPort with
    | none => rfl
    | some number =>
      have hshown : number ∈ shownPorts remote cache r.table :=
        List.mem_eraseDups.mpr (List.mem_filterMap.mpr ⟨row, hrow, hattached⟩)
      obtain ⟨port, hport, -, hbelongs⟩ := mem_shownPorts.mp hshown
      exact absurd hbelongs (h port hport ▸ Bool.false_ne_true)

/-- The two lists come to the same bus ids where it makes no difference which of them is shown. -/
theorem named_iff_unchanged :
    (∀ busId, Named remote cache r.table busId ↔ Named remote r.exports r.table busId) ↔
      r.Unchanged cache := by
  constructor
  · intro h
    refine ⟨fun device hdevice hnew => ?_, fun known hknown hgone => ?_, fun busId hc he => ?_⟩
    · rcases (h device.busId).mpr (Or.inl ⟨device, hdevice, rfl⟩) with ⟨known, hknown, hbus⟩ | hleft
      · exact absurd hbus (hnew known hknown)
      · exact hleft
    · rcases (h known.busId).mp (Or.inl ⟨known, hknown, rfl⟩) with ⟨device, hdevice, hbus⟩ | hleft
      · exact absurd hbus (hgone device hdevice)
      · exact hleft
    · have hcache : ¬ ∃ device ∈ cache, device.busId = busId := fun ⟨d, hd, hbus⟩ => hc d hd hbus
      have hexports : ¬ ∃ device ∈ r.exports, device.busId = busId :=
        fun ⟨d, hd, hbus⟩ => he d hd hbus
      have hbus := h busId
      rwa [Named, Named, or_iff_right hcache, or_iff_right hexports] at hbus
  · -- A bus id is listed in both, in one of them, or in neither.
    intro h busId
    by_cases hc : ∃ device ∈ cache, device.busId = busId
    · by_cases he : ∃ device ∈ r.exports, device.busId = busId
      · exact iff_of_true (Or.inl hc) (Or.inl he)
      · obtain ⟨known, hknown, rfl⟩ := hc
        refine iff_of_true (Or.inl ⟨known, hknown, rfl⟩) (Or.inr (h.gone known hknown ?_))
        exact fun device hdevice hbus => he ⟨device, hdevice, hbus⟩
    · by_cases he : ∃ device ∈ r.exports, device.busId = busId
      · obtain ⟨device, hdevice, rfl⟩ := he
        refine iff_of_true (Or.inr (h.come device hdevice ?_)) (Or.inl ⟨device, hdevice, rfl⟩)
        exact fun known hknown hbus => hc ⟨known, hknown, hbus⟩
      · rw [Named, Named, or_iff_right hc, or_iff_right he]
        exact h.unlisted busId (fun known hknown hbus => hc ⟨known, hknown, hbus⟩)
          fun device hdevice hbus => he ⟨device, hdevice, hbus⟩

theorem exists_row_iff {occupancy : Text → Option Text} {busId : Text} :
    (∃ row ∈ applyRemoteOccupancy (remoteDeviceStates remote devices ports) occupancy,
        row.device.busId = busId) ↔ Named remote devices ports busId := by
  constructor
  · rintro ⟨row, hrow, rfl⟩
    obtain ⟨state, hstate, hdevice, -⟩ := mem_applyRemoteOccupancy hrow
    rw [hdevice]
    rw [remoteDeviceStates_eq] at hstate
    rcases List.mem_append.mp hstate with hstate | hstate
    · obtain ⟨device, hd, rfl⟩ := List.mem_map.mp hstate
      exact Or.inl ⟨device, (mem_uniqueFrom hd).1, rfl⟩
    · obtain ⟨port, hport, rfl⟩ := List.mem_map.mp hstate
      obtain ⟨hmem, hleft⟩ := List.mem_filter.mp hport
      exact Or.inr ⟨port, hmem, leftFor_iff.mp (by rw [hleft, Bool.true_and, decide_eq_true rfl])⟩
  · intro h
    -- It is enough to find a row without the occupancy.
    suffices ∃ state ∈ remoteDeviceStates remote devices ports, state.device.busId = busId by
      obtain ⟨state, hstate, hbus⟩ := this
      have hdevice : state.device ∈ (applyRemoteOccupancy
          (remoteDeviceStates remote devices ports) occupancy).map (·.device) := by
        rw [devices_applyRemoteOccupancy]
        exact List.mem_map_of_mem hstate
      obtain ⟨row, hrow, hrowDevice⟩ := List.mem_map.mp hdevice
      exact ⟨row, hrow, by rw [hrowDevice, hbus]⟩
    rcases h with ⟨device, hdevice, rfl⟩ | ⟨port, hport, hport'⟩
    · obtain ⟨d, hd, hbus⟩ := exists_uniqueFrom hdevice List.not_mem_nil
      exact ⟨_, deviceState_mem hd, hbus⟩
    · obtain ⟨hleft, hbus⟩ := Bool.and_eq_true_iff.mp (leftFor_iff.mpr hport')
      refine ⟨leftoverState port, ?_, of_decide_eq_true hbus⟩
      rw [remoteDeviceStates_eq]
      refine List.mem_append_right _ (List.mem_map_of_mem ?_)
      exact List.mem_filter.mpr ⟨hport, hleft⟩

/-- Rows with the bus ids of the exported devices and their ports hide nothing. -/
theorem showsExports_of_named {occupancy : Text → Option Text}
    (h : ∀ busId, Named remote cache r.table busId ↔ Named remote r.exports r.table busId) :
    ShowsExports r (applyRemoteOccupancy (remoteDeviceStates remote cache r.table) occupancy) where
  listed device hdevice := exists_row_iff.mpr ((h device.busId).mpr (Or.inl ⟨device, hdevice, rfl⟩))
  nothingElse row hrow := by
    rcases (h row.device.busId).mp (exists_row_iff.mp ⟨row, hrow, rfl⟩) with hexported |
      ⟨port, hport, hleft⟩
    · exact Or.inl hexported
    · exact Or.inr ⟨port, hport, belongs_iff.mpr hleft.belongs, hleft.named⟩
  agree env hlist htable := by
    obtain ⟨occupancy', hrows⟩ := result_loadRemoteDeviceStates hlist
    refine ⟨_, hrows, fun busId => ?_⟩
    rw [exists_row_iff, exists_row_iff, htable]
    exact h busId

/-- Where the remote is asked and the table is read as the refresh does it. -/
def Refresh.uncached (r : Refresh remote tcpPort) : Environment
  | 0 => r.env 0
  | n + 1 => r.env n

/-- Whoever asks then meets this listing and this table. -/
theorem Refresh.listing_uncached (r : Refresh remote tcpPort) :
    listing r.uncached remote tcpPort = .ok r.exports ∧ tableOf r.uncached = r.table :=
  ⟨r.answers 0, result_succ (fun _ => rfl) queryAttachedPortsResilient⟩

/-- **One refresh hides nothing exactly if it asks, or has no need to.** -/
theorem showsExports_iff (r : Refresh remote tcpPort) (cache : List RemoteUsbDevice) :
    (∃ rows, (r.load cache).1 = .ok rows ∧ ShowsExports r rows) ↔ r.Current cache := by
  rw [Refresh.Current, ← or_assoc, ← idle_iff]
  by_cases hidle : r.Idle cache
  · obtain ⟨-, occupancy, hload⟩ := load_of_idle hidle
    refine iff_of_true ⟨_, by rw [hload], ?_⟩ (Or.inl hidle)
    exact showsExports_of_named fun busId => Iff.rfl
  · obtain ⟨-, occupancy, hload⟩ := load_of_busy hidle
    rw [hload, or_iff_right hidle, ← named_iff_unchanged]
    constructor
    · rintro ⟨rows, hrows, hshows⟩ busId
      obtain ⟨hlist, htable⟩ := r.listing_uncached
      obtain ⟨rows', hrows', hagree⟩ := hshows.agree r.uncached hlist htable
      obtain ⟨occupancy', hresult⟩ := result_loadRemoteDeviceStates hlist
      obtain rfl := Except.ok.inj hrows
      obtain rfl := Except.ok.inj (hresult.symm.trans hrows')
      have hbus := hagree busId
      rwa [exists_row_iff, exists_row_iff, htable] at hbus
    · exact fun h => ⟨_, rfl, showsExports_of_named h⟩

/-- **The cache hides no device in a sequence of refreshes exactly if each of them asks the remote,
    or what has come there or gone since it was asked has a port to show for it.** -/
theorem refreshes_showExports_iff (history : List (Refresh remote tcpPort)) :
    (∀ before r after, history = before ++ r :: after →
        ∃ rows, (r.load (cacheAfter before)).1 = .ok rows ∧ ShowsExports r rows) ↔
      ∀ before r after, history = before ++ r :: after → r.Current (cacheAfter before) :=
  forall₄_congr fun before r _ _ => showsExports_iff r (cacheAfter before)

/-! ## A device that stays hidden -/

theorem quitting_listCall (list ports : Except Text Output) (remote : Text) (tcpPort : UInt16)
    (n : Nat) : quitting list ports n (listCall remote tcpPort) = list := by
  have hargs : ["--tcp-port".toList, Fields.decimal tcpPort.toNat, "list".toList, "-r".toList,
      remote] ≠ ["port".toList] := fun h => by simpa using congrArg List.length h
  simp only [listCall, quitting, ne_eq, not_true_eq_false, if_false, if_neg hargs]

def adapterListing : Text := "1-1: CH340 (1a86:7523)\n".toList

/-- The first refresh finds one adapter. -/
def firstRefresh : Refresh adapterServer 3240 where
  env := quitting (.ok { success := true, stdout := adapterListing, stderr := [] })
    (.ok { success := true, stdout := [], stderr := [] })
  exports := [⟨"1-1".toList, "CH340 (1a86:7523)".toList⟩]
  answers _ := by
    rw [quitting_listCall]
    decide

/-- Before the next one the adapter is attached, and a probe is plugged into the server. -/
def nextRefresh : Refresh adapterServer 3240 where
  env := quitting
    (.ok
      { success := true
        stdout := adapterListing ++ "1-2: Probe (1234:5678)\n".toList
        stderr := [] })
    (.ok
      { success := true
        stdout := "Port 00: <Port in Use>\n 1-1 -> usbip://10.10.61.72:3240/1-1\n".toList
        stderr := [] })
  exports := [⟨"1-1".toList, "CH340 (1a86:7523)".toList⟩, ⟨"1-2".toList, "Probe (1234:5678)".toList⟩]
  answers _ := by
    rw [quitting_listCall]
    decide

theorem probe_hidden :
    ¬ ∀ before r after, [firstRefresh, nextRefresh] = before ++ r :: after →
      ∃ rows, (r.load (cacheAfter before)).1 = .ok rows ∧ ShowsExports r rows := by
  intro h
  obtain ⟨rows, hrows, hshows⟩ := h [firstRefresh] nextRefresh [] rfl
  have hload : (nextRefresh.load (cacheAfter [firstRefresh])).1
      = .ok [⟨⟨"1-1".toList, "CH340 (1a86:7523)".toList⟩, some "00".toList, none⟩] := by
    decide
  obtain ⟨row, hrow, hbus⟩ := hshows.listed ⟨"1-2".toList, "Probe (1234:5678)".toList⟩ (by decide)
  obtain rfl := Except.ok.inj (hload.symm.trans hrows)
  rw [List.mem_singleton.mp hrow] at hbus
  revert hbus
  decide

end Client
end Lusbip
