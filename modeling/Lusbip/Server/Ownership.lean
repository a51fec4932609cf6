import Mathlib.Logic.Function.Basic
import Lusbip.Lib.Transition
import Lusbip.Server.Inventory

/-!
# Who owns an imported device

Connections import devices and disconnect, the synchronisation follows the host, and
devices are plugged in and out. Every operation is atomic here. A connection keeps its own
copy of the device it imported, with the handle opened on it, while the inventory knows a
device by its bus id; after a replug the two are about different devices.

A connection is a number. One that has disconnected may import again under the same number:
that is another client.
-/

namespace Lusbip
namespace Ownership

open Lib.Transition
open Inventory (releaseImported)

/-- What is plugged in, the lists of the server, and who has imported what. -/
structure World where
  /-- What is plugged in, in the order the host lists it. -/
  plugged : List DeviceInfo := []
  nextPlug : Nat := 0
  inventory : Inventory := {}
  imported : Nat → Option UsbDevice := fun _ => none

/-- What happens next, each at one go: devices come and go, the lists are brought up to date,
    connections import and release. -/
inductive Action where
  /-- A device is plugged in; it gets a handle of its own. -/
  | plug (info : DeviceInfo)
  | unplug (device : Device)
  | sync (opens : DeviceInfo → Option OpenedDevice)
  | importDevice (connection : Nat) (busid : List UInt8)
  | disconnect (connection : Nat)

/-- The `OpReqImport` arm of `handler`, without its replies and the occupancy map. -/
def importArm (inv : Inventory) (busid : List UInt8) (imported : Option UsbDevice) :
    Option UsbDevice × Inventory :=
  match inv.handleOpReqImport busid imported with
  | .ok (_, imported, inv) => (imported, inv)
  | .error _ => (none, releaseImported inv imported)

/-- Any of them at any time. -/
def step (prof : Profile) (filter : DeviceInfo → Bool) (s : World) : Action → Option World
  | .plug info =>
      -- A bus id names a port, which takes one device at a time.
      if hostExportBusId info ∈ s.plugged.map hostExportBusId then none
      else
        some
          { s with
            plugged := s.plugged ++ [{ info with device := ⟨s.nextPlug⟩ }]
            nextPlug := s.nextPlug + 1 }
  | .unplug device => some { s with plugged := s.plugged.filter fun info => info.device ≠ device }
  | .sync opens =>
      match s.inventory.syncFromHost prof opens filter s.plugged with
      | .ok (_, inv) => some { s with inventory := inv }
      | .error _ => none
  | .importDevice c busid =>
      let (imported, inv) := importArm s.inventory busid (s.imported c)
      some { s with inventory := inv, imported := Function.update s.imported c imported }
  | .disconnect c =>
      some
        { s with
          inventory := releaseImported s.inventory (s.imported c)
          imported := Function.update s.imported c none }

/-- Nothing is plugged in. -/
def init : World := {}

/-- The device a handle was opened on is plugged in. A replugged device has a new handle, so
    it has been plugged in ever since it was imported. -/
def Present (s : World) (d : UsbDevice) : Prop :=
  ∃ info ∈ s.plugged, d.deviceHandler = some info.device

/-- **Exclusive ownership**: what a connection has imported and is still plugged in is a used
    device, and nobody can import anything under its bus id. -/
def Owned (s : World) : Prop :=
  ∀ c d, s.imported c = some d → Present s d →
    d ∈ s.inventory.used ∧ ∀ e ∈ s.inventory.available, e.busId ≠ d.busId

/-- The connection that gives a device back in a step, if it has one. -/
def releases : Action → Option Nat
  | .importDevice c _ => some c
  | .disconnect c => some c
  | _ => none

/-- The device given back does not share its bus id with a device that another connection has
    imported and that is plugged in. -/
def ReleasesOwn (s : World) (a : Action) : Prop :=
  ∀ c d, releases a = some c → s.imported c = some d →
    ∀ c' d', c' ≠ c → s.imported c' = some d' → Present s d' → d'.busId ≠ d.busId

/-! ## The invariant -/

/-- The device stands somewhere in the server. -/
def Known (s : World) (d : UsbDevice) : Prop :=
  d ∈ s.inventory.available ∨ d ∈ s.inventory.used ∨ ∃ c, s.imported c = some d

/-- An entry was opened on a device of the host; if that one is still plugged in, the entry
    bears its bus id and the device is shared. -/
structure Entry (filter : DeviceInfo → Bool) (s : World) (d : UsbDevice) : Prop where
  opened : ∃ device, d.deviceHandler = some device ∧ device.plug < s.nextPlug
  plugged : ∀ info ∈ s.plugged, d.deviceHandler = some info.device →
    d.busId = hostExportBusId info ∧ isUsbHubInfo info = false ∧ filter info = true

/-- What every state of a run is. The handle of a device tells one that was plugged in again from
    the one before. -/
structure Inv (filter : DeviceInfo → Bool) (s : World) : Prop where
  plugs : ∀ info ∈ s.plugged, info.device.plug < s.nextPlug
  devices : (s.plugged.map (·.device)).Nodup
  ports : (s.plugged.map hostExportBusId).Nodup
  tidy : s.inventory.Tidy
  entries : ∀ d, Known s d → Entry filter s d
  owned : Owned s
  exclusive : ∀ c c' d d', c ≠ c' → s.imported c = some d → s.imported c' = some d' →
    Present s d → Present s d' → d.busId ≠ d'.busId

variable {prof : Profile} {filter : DeviceInfo → Bool} {s t : World} {a : Action}

theorem inv_init : Inv filter init where
  plugs _ h := (nomatch h)
  devices := List.nodup_nil
  ports := List.nodup_nil
  tidy := Inventory.tidy_empty
  entries d h := by
    rcases h with h | h | ⟨c, h⟩ <;> cases h
  owned c d h := (nomatch h)
  exclusive c c' d d' _ h := (nomatch h)

/-- Two infos in the list with one handle are one. -/
theorem Inv.info_unique (h : Inv filter s) {info info' : DeviceInfo} (hi : info ∈ s.plugged)
    (hi' : info' ∈ s.plugged) (heq : info.device = info'.device) : info = info' :=
  List.inj_on_of_nodup_map h.devices hi hi' heq

theorem Inv.entry_of_imported (h : Inv filter s) {c : Nat} {d : UsbDevice}
    (hc : s.imported c = some d) : Entry filter s d := h.entries d (Or.inr (Or.inr ⟨c, hc⟩))

/-- The bus id of a present device is one the host lists. -/
theorem Entry.listed {d : UsbDevice} (h : Entry filter s d) (hp : Present s d) :
    d.busId ∈ (Inventory.shared filter s.plugged).map hostExportBusId := by
  obtain ⟨info, hinfo, hdev⟩ := hp
  obtain ⟨hbus, hhub, hfilter⟩ := h.plugged info hinfo hdev
  rw [hbus]
  exact List.mem_map_of_mem (Inventory.mem_shared.mpr ⟨hinfo, hhub, hfilter⟩)

/-! ## Plugging in and out -/

theorem Inv.plug (h : Inv filter s) (info : DeviceInfo)
    (hport : hostExportBusId info ∉ s.plugged.map hostExportBusId) :
    Inv filter
      { s with
        plugged := s.plugged ++ [{ info with device := ⟨s.nextPlug⟩ }]
        nextPlug := s.nextPlug + 1 } := by
  -- The new handle is nobody's: what the server holds was opened before.
  have hnobody : ∀ d, Known s d → d.deviceHandler ≠ some ⟨s.nextPlug⟩ := by
    intro d hd hdev
    obtain ⟨device, hdevice, hold⟩ := (h.entries d hd).opened
    rw [hdevice] at hdev
    cases hdev
    exact Nat.lt_irrefl _ hold
  have hpresent : ∀ d, Known s d →
      Present { s with
        plugged := s.plugged ++ [{ info with device := ⟨s.nextPlug⟩ }]
        nextPlug := s.nextPlug + 1 } d → Present s d := by
    rintro d hd ⟨i, hi, hdev⟩
    rcases List.mem_append.mp hi with hi | hi
    · exact ⟨i, hi, hdev⟩
    · rw [List.mem_singleton.mp hi] at hdev
      exact absurd hdev (hnobody d hd)
  have hknown : ∀ {c d}, s.imported c = some d → Known s d := fun hc => Or.inr (Or.inr ⟨_, hc⟩)
  refine
    { plugs := ?_, devices := ?_, ports := ?_, tidy := h.tidy, entries := ?_, owned := ?_,
      exclusive := ?_ }
  · intro i hi
    rcases List.mem_append.mp hi with hi | hi
    · exact Nat.lt_succ_of_lt (h.plugs i hi)
    · rw [List.mem_singleton.mp hi]
      exact Nat.lt_succ_self _
  · rw [List.map_append]
    refine List.nodup_append.mpr ⟨h.devices, List.nodup_singleton _, ?_⟩
    intro dev hdev dev' hdev' heq
    obtain ⟨i, hi, rfl⟩ := List.mem_map.mp hdev
    rw [List.mem_singleton.mp hdev'] at heq
    have hlt := h.plugs i hi
    rw [heq] at hlt
    exact Nat.lt_irrefl _ hlt
  · rw [List.map_append]
    refine List.nodup_append.mpr ⟨h.ports, List.nodup_singleton _, ?_⟩
    intro b hb b' hb' heq
    rw [heq, List.mem_singleton.mp hb'] at hb
    exact hport hb
  · intro d hd
    have hentry := h.entries d hd
    refine ⟨?_, fun i hi hdev => ?_⟩
    · obtain ⟨device, hdevice, hold⟩ := hentry.opened
      exact ⟨device, hdevice, Nat.lt_succ_of_lt hold⟩
    · rcases List.mem_append.mp hi with hi | hi
      · exact hentry.plugged i hi hdev
      · rw [List.mem_singleton.mp hi] at hdev
        exact absurd hdev (hnobody d hd)
  · intro c d hc hp
    exact h.owned c d hc (hpresent d (hknown hc) hp)
  · intro c c' d d' hne hc hc' hp hp'
    exact h.exclusive c c' d d' hne hc hc' (hpresent d (hknown hc) hp)
      (hpresent d' (hknown hc') hp')

theorem Inv.unplug (h : Inv filter s) (device : Device) :
    Inv filter { s with plugged := s.plugged.filter fun info => info.device ≠ device } := by
  have hpresent : ∀ d,
      Present { s with plugged := s.plugged.filter fun info => info.device ≠ device } d →
        Present s d :=
    fun d ⟨info, hinfo, hdev⟩ => ⟨info, List.mem_of_mem_filter hinfo, hdev⟩
  exact
    { plugs := fun info hinfo => h.plugs info (List.mem_of_mem_filter hinfo)
      devices := h.devices.sublist (List.Sublist.map _ List.filter_sublist)
      ports := h.ports.sublist (List.Sublist.map _ List.filter_sublist)
      tidy := h.tidy
      entries := fun d hd =>
        ⟨(h.entries d hd).opened, fun info hinfo hdev =>
          (h.entries d hd).plugged info (List.mem_of_mem_filter hinfo) hdev⟩
      owned := fun c d hc hp => h.owned c d hc (hpresent d hp)
      exclusive := fun c c' d d' hne hc hc' hp hp' =>
        h.exclusive c c' d d' hne hc hc' (hpresent d hp) (hpresent d' hp') }

/-! ## Synchronisation -/

/-- An entry opened from a device that is plugged in. -/
theorem Inv.entry_of_opened (h : Inv filter s) {d : UsbDevice} {info : DeviceInfo}
    (hinfo : info ∈ Inventory.shared filter s.plugged) (ho : OpenedFrom d info) :
    Entry filter s d := by
  obtain ⟨hplugged, hhub, hfilter⟩ := Inventory.mem_shared.mp hinfo
  refine ⟨⟨info.device, ho.device, h.plugs info hplugged⟩, fun i hi hdev => ?_⟩
  rw [ho.device, Option.some.injEq] at hdev
  obtain rfl := h.info_unique hplugged hi hdev
  exact ⟨ho.busId, hhub, hfilter⟩

theorem Inv.sync (h : Inv filter s) {inv : Inventory}
    (hs : Inventory.Synced filter s.plugged s.inventory inv) :
    Inv filter { s with inventory := inv } := by
  refine { h with tidy := hs.tidy, entries := ?_, owned := ?_ }
  · intro d hd
    have hentry : Entry filter s d := by
      rcases hd with hd | hd | hd
      · rcases hs.available d hd with hd | ⟨info, hinfo, ho⟩
        · exact h.entries d (Or.inl hd)
        · exact h.entry_of_opened hinfo ho
      · exact h.entries d (Or.inr (Or.inl ((hs.used d).mp hd).1))
      · exact h.entries d (Or.inr (Or.inr hd))
    exact ⟨hentry.opened, hentry.plugged⟩
  · intro c d hc hp
    have hused : d ∈ inv.used :=
      (hs.used d).mpr ⟨(h.owned c d hc hp).1, (h.entry_of_imported hc).listed hp⟩
    exact ⟨hused, fun e he => hs.tidy.disjoint e he d hused⟩

/-! ## Imports and disconnects -/

/-- Releasing brings no device into the server, and keeps used what has another bus id. -/
theorem known_of_release {c : Nat} {d : UsbDevice}
    (hd : Known
      { s with
        inventory := releaseImported s.inventory (s.imported c)
        imported := Function.update s.imported c none } d) : Known s d := by
  have himported : (∃ c', Function.update s.imported c none c' = some d) →
      ∃ c', s.imported c' = some d := by
    rintro ⟨c', hc'⟩
    by_cases hcc : c' = c
    · rw [hcc, Function.update_self] at hc'
      cases hc'
    · rw [Function.update_of_ne hcc] at hc'
      exact ⟨c', hc'⟩
  cases hi : s.imported c with
  | none =>
    rw [hi] at hd
    exact hd.imp id (Or.imp id himported)
  | some dev =>
    rw [hi] at hd
    rcases hd with hd | hd | hd
    · rcases Inventory.mem_release_available.mp hd with hd | ⟨rfl, -⟩
      · exact Or.inl hd
      · exact Or.inr (Or.inr ⟨c, hi⟩)
    · exact Or.inr (Or.inl (Inventory.mem_release_used.mp hd).1)
    · exact Or.inr (Or.inr (himported hd))

theorem Inv.release (h : Inv filter s) (c : Nat)
    (hown : ∀ d, s.imported c = some d → ∀ c' d', c' ≠ c → s.imported c' = some d' →
      Present s d' → d'.busId ≠ d.busId) :
    Inv filter
      { s with
        inventory := releaseImported s.inventory (s.imported c)
        imported := Function.update s.imported c none } := by
  have hother : ∀ {c' d'}, Function.update s.imported c none c' = some d' →
      c' ≠ c ∧ s.imported c' = some d' := by
    intro c' d' hc'
    by_cases hcc : c' = c
    · rw [hcc, Function.update_self] at hc'
      cases hc'
    · rw [Function.update_of_ne hcc] at hc'
      exact ⟨hcc, hc'⟩
  refine
    { h with
      tidy := h.tidy.releaseImported _
      entries := fun d hd => ⟨(h.entries d (known_of_release hd)).opened,
        (h.entries d (known_of_release hd)).plugged⟩
      owned := ?_
      exclusive := fun c₁ c₂ d d' hne hc₁ hc₂ =>
        h.exclusive c₁ c₂ d d' hne (hother hc₁).2 (hother hc₂).2 }
  intro c' d' hc' hp
  obtain ⟨hcc, hc'⟩ := hother hc'
  obtain ⟨hused, havail⟩ := h.owned c' d' hc' hp
  cases hi : s.imported c with
  | none => exact ⟨hused, havail⟩
  | some d =>
    have hne := hown d hi c' d' hcc hc' hp
    refine ⟨Inventory.mem_release_used.mpr ⟨hused, hne⟩, fun e he => ?_⟩
    rcases Inventory.mem_release_available.mp he with he | ⟨rfl, -⟩
    · exact havail e he
    · exact hne.symm

theorem Inv.occupy (h : Inv filter s) {c : Nat} {busId : String}
    {d : UsbDevice} {inv : Inventory} (ho : Inventory.Occupied s.inventory busId d inv) :
    Inv filter { s with inventory := inv, imported := Function.update s.imported c (some d) } := by
  -- What a connection has imported now is the new device, or what it had.
  have hcases : ∀ {c' d'}, Function.update s.imported c (some d) c' = some d' →
      (c' = c ∧ d' = d) ∨ (c' ≠ c ∧ s.imported c' = some d') := by
    intro c' d' hc'
    by_cases hcc : c' = c
    · rw [hcc, Function.update_self] at hc'
      exact Or.inl ⟨hcc, (Option.some.inj hc').symm⟩
    · rw [Function.update_of_ne hcc] at hc'
      exact Or.inr ⟨hcc, hc'⟩
  refine { h with tidy := ho.tidy, entries := ?_, owned := ?_, exclusive := ?_ }
  · intro e he
    -- Every entry of the lists was one before, for the device only changes its list.
    have hentry : Entry filter s e := by
      rcases he with he | he | ⟨c', hc'⟩
      · exact h.entries e (Or.inl ((ho.available e).mp he).1)
      · rw [ho.used] at he
        rcases List.mem_append.mp he with he | he
        · exact h.entries e (Or.inr (Or.inl he))
        · rw [List.mem_singleton.mp he]
          exact h.entries d (Or.inl ho.mem)
      · rcases hcases hc' with ⟨-, rfl⟩ | ⟨-, hc'⟩
        · exact h.entries e (Or.inl ho.mem)
        · exact h.entry_of_imported hc'
    exact ⟨hentry.opened, hentry.plugged⟩
  · intro c' d' hc' hp
    show d' ∈ inv.used ∧ ∀ e ∈ inv.available, e.busId ≠ d'.busId
    rw [ho.used]
    rcases hcases hc' with ⟨-, rfl⟩ | ⟨-, hc'⟩
    · refine ⟨List.mem_append_right _ (List.mem_singleton_self _), fun e he => ?_⟩
      rw [ho.busId_eq]
      exact ((ho.available e).mp he).2
    · obtain ⟨hused, havail⟩ := h.owned c' d' hc' hp
      exact ⟨List.mem_append_left _ hused, fun e he => havail e ((ho.available e).mp he).1⟩
  -- Two holders of one bus id: the device was available, which no holder's is.
  · intro c₁ c₂ d₁ d₂ hne hc₁ hc₂ hp₁ hp₂
    rcases hcases hc₁ with ⟨rfl, rfl⟩ | ⟨-, hi₁⟩
    · rcases hcases hc₂ with ⟨rfl, -⟩ | ⟨-, hi₂⟩
      · exact absurd rfl hne
      · exact (h.owned c₂ d₂ hi₂ hp₂).2 d₁ ho.mem
    · rcases hcases hc₂ with ⟨rfl, rfl⟩ | ⟨-, hi₂⟩
      · exact ((h.owned c₁ d₁ hi₁ hp₁).2 d₂ ho.mem).symm
      · exact h.exclusive c₁ c₂ d₁ d₂ hne hi₁ hi₂ hp₁ hp₂

/-- What the import arm comes to: the connection's device is released, and then nothing or
    one device is occupied. -/
theorem importArm_cases {inv : Inventory} (h : inv.Tidy) (busid : List UInt8)
    (imported : Option UsbDevice) :
    importArm inv busid imported = (none, releaseImported inv imported) ∨
      ∃ busId d inv', Inventory.Occupied (releaseImported inv imported) busId d inv' ∧
        importArm inv busid imported = (some d, inv') := by
  unfold importArm Inventory.handleOpReqImport
  cases parseBusId busid with
  | none => exact Or.inl rfl
  | some busId =>
    dsimp only
    cases ho : (releaseImported inv imported).occupy busId with
    | error e => exact Or.inl rfl
    | ok r =>
      exact Or.inr ⟨busId, r.1, r.2, (h.releaseImported imported).occupy_ok ho, rfl⟩

/-- Every step keeps the invariant, provided that what it gives back is not shared. -/
theorem Inv.step (h : Inv filter s) (hown : ReleasesOwn s a)
    (hstep : step prof filter s a = some t) : Inv filter t := by
  unfold Ownership.step at hstep
  cases a with
  | plug info =>
    dsimp only at hstep
    split at hstep
    · cases hstep
    · rename_i hport
      cases hstep
      exact h.plug info hport
  | unplug device =>
    cases hstep
    exact h.unplug device
  | sync opens =>
    dsimp only at hstep
    split at hstep
    · rename_i ids inv hs
      cases hstep
      exact h.sync (h.tidy.syncFromHost h.ports hs)
    · cases hstep
  | importDevice c busid =>
    have hrelease := h.release c fun d hd => hown c d rfl hd
    dsimp only at hstep
    rcases importArm_cases h.tidy busid (s.imported c) with hnone | ⟨busId, d, inv, ho, hsome⟩
    · rw [hnone] at hstep
      cases hstep
      exact hrelease
    · rw [hsome] at hstep
      cases hstep
      have := hrelease.occupy (c := c) ho
      rwa [Function.update_idem] at this
  | disconnect c =>
    cases hstep
    exact h.release c fun d hd => hown c d rfl hd

/-! ## The exact condition -/

/-- A step that gives back a device under the bus id of somebody else's leaves the other one
    without its used entry. -/
theorem not_owned_of_release (h : Inv filter s) {c c' : Nat} {d d' : UsbDevice}
    (ha : releases a = some c) (hc : s.imported c = some d) (hcc : c' ≠ c)
    (hc' : s.imported c' = some d') (hp : Present s d') (hbus : d'.busId = d.busId)
    (hstep : step prof filter s a = some t) : ¬ Owned t := by
  have hgone : d' ∉ (s.inventory.release d).used := fun hmem =>
    (Inventory.mem_release_used.mp hmem).2 hbus
  have hne : d' ≠ d := by
    rintro rfl
    exact h.exclusive c c' d' d' hcc.symm hc hc' hp hp rfl
  -- Nothing is available under that bus id but the device that was given back.
  have havail : ∀ e ∈ (s.inventory.release d).available, e ≠ d' := by
    intro e he heq
    rcases Inventory.mem_release_available.mp he with he | ⟨hed, -⟩
    · exact (h.owned c' d' hc' hp).2 e he (congrArg _ heq)
    · exact hne (heq.symm.trans hed)
  unfold step at hstep
  intro howned
  cases a with
  | plug info => cases ha
  | unplug device => cases ha
  | sync opens => cases ha
  | importDevice k busid =>
    cases ha
    dsimp only at hstep
    rcases importArm_cases h.tidy busid (s.imported c) with hnone | ⟨busId, e, inv, ho, hsome⟩
    · rw [hnone, hc] at hstep
      cases hstep
      exact hgone (howned c' d' (by simpa [Function.update_of_ne hcc] using hc') hp).1
    · rw [hsome] at hstep
      cases hstep
      have hused : d' ∈ inv.used :=
        (howned c' d' (by simpa [Function.update_of_ne hcc] using hc') hp).1
      rw [hc] at ho
      rw [ho.used] at hused
      rcases List.mem_append.mp hused with hused | hused
      · exact hgone hused
      · exact havail e ho.mem (List.mem_singleton.mp hused).symm
  | disconnect k =>
    cases ha
    cases hstep
    have hused := (howned c' d' (by simpa [Function.update_of_ne hcc] using hc') hp).1
    rw [hc] at hused
    exact hgone hused

/-- **When ownership is exclusive.** In a run of connections, synchronisations, plugging and
    unplugging, every device imported and still plugged in is owned in every state if and
    only if no connection gives a device back under the bus id of a present device that
    another connection has imported. -/
theorem owned_iff_releasesOwn (prof : Profile) (filter : DeviceInfo → Bool)
    (acts : List Action) :
    Throughout (step prof filter) Owned init acts ↔
      Along (step prof filter) ReleasesOwn init acts := by
  refine throughout_iff_along (I := Inv filter) (fun s a t h ha hstep => h.step ha hstep)
    (fun s h => h.owned) ?_ inv_init
  intro s a t h hstep howned c d ha hc c' d' hcc hc' hp hbus
  exact not_owned_of_release h ha hc hcc hc' hp hbus hstep howned

/-! ## A replug behind a client's back -/

/-- A device at port `1-1`, before it is plugged in. -/
def stick (productId : UInt16) : DeviceInfo where
  device := ⟨0⟩
  sysfsPath := []
  fileName := some "1-1"
  busnum := 1
  deviceAddress := 2
  vendorId := 0x1209
  productId := productId
  deviceVersion := 0x0100
  usbVersion := 0x0200
  deviceClass := 0
  subclass := 0
  protocol := 0
  speed := some .high
  manufacturerString := none
  productString := none
  serialNumber := none
  interfaceClasses := [0xFF]

/-- An interface of a class of its own. -/
def vendorInterface : InterfaceDescriptor where
  interfaceClass := 0xFF
  subclass := 0
  protocol := 0
  stringIndex := none
  endpoints := []

/-- A configuration with that interface. -/
def oneInterface : HostConfiguration where
  value := 1
  attributes := 0x80
  maxPower := 50
  interfaces := [{ number := 0, descriptor := some vendorInterface }]

/-- A host that opens everything, each device with one vendor interface. -/
def openAll (_ : DeviceInfo) : Option OpenedDevice :=
  some { activeConfiguration := some oneInterface, configurationCount := 1, descriptors := none }

/-- The 32 bytes that name port `1-1`. -/
def port11 : List UInt8 := [0x31, 0x2D, 0x31] ++ List.replicate 29 0

/-- Client 0 imports a stick that is then pulled out; another one is put in its place, which
    client 1 imports; then client 0 disconnects. -/
def replugThenDisconnect : List Action :=
  [.plug (stick 1), .sync openAll, .importDevice 0 port11, .unplug ⟨0⟩, .sync openAll,
   .plug (stick 2), .sync openAll, .importDevice 1 port11, .disconnect 0]

/-- **A stale holder breaks the ownership of the next one**: its release takes the new device
    out of the used devices and offers the old one under the same bus id. -/
theorem replugThenDisconnect_not_owned :
    ¬ Throughout (step .release fun _ => true) Owned init replugThenDisconnect := by
  have hrun : ((run (step .release fun _ => true) init replugThenDisconnect).any fun t =>
      (t.imported 1).any fun d =>
        (t.plugged.any fun info => d.deviceHandler = some info.device) &&
          decide (d ∉ t.inventory.used)) = true := by decide +kernel
  obtain ⟨t, ht, hend⟩ := (Option.any_eq_true _ _).mp hrun
  obtain ⟨d, hd, hend⟩ := (Option.any_eq_true _ _).mp hend
  obtain ⟨hpresent, hused⟩ := Bool.and_eq_true_iff.mp hend
  obtain ⟨info, hinfo, hdev⟩ := List.any_eq_true.mp hpresent
  intro howned
  exact of_decide_eq_true hused
    (howned.of_run ht 1 d hd ⟨info, hinfo, of_decide_eq_true hdev⟩).1

end Ownership
end Lusbip
