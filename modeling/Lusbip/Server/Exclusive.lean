import Lusbip.Lib.Placement
import Lusbip.Server.Cleanup
import Lusbip.Server.ListingRuns

/-!
# One device, one place

Between the two sections of `occupy` a device is in neither list. A synchronisation that looks at
the lists then takes the device for a new one, opens it a second time and exports it again. Where
none does, every bus id stands in one place: with the available devices, in the hands of one task,
or with the devices that the synchronisation is opening.
-/

namespace Lusbip

namespace Inventory

variable {inv inv' : Inventory} {d : UsbDevice} {busId : String}

theorem cons_eraseP_perm {l : List UsbDevice} {p : UsbDevice → Bool} (h : l.find? p = some d) :
    (d :: l.eraseP p).Perm l := by
  induction l with
  | nil => cases h
  | cons a l ih =>
    by_cases ha : p a = true
    · rw [List.find?_cons_of_pos ha] at h
      cases h
      rw [List.eraseP_cons_of_pos ha]
    · rw [List.find?_cons_of_neg ha] at h
      rw [List.eraseP_cons_of_neg ha]
      exact (List.Perm.swap a d _).trans ((ih h).cons a)

theorem takeAvailable_perm (h : inv.takeAvailable busId = some (d, inv')) :
    (d :: inv'.available).Perm inv.available := by
  obtain ⟨e, he, heq⟩ := Option.map_eq_some_iff.mp h
  cases heq
  exact cons_eraseP_perm he

end Inventory

namespace Exports

open Lib.Transition Lib.Placement

variable {prof : Profile} {filter : DeviceInfo → Bool} {plugged : List DeviceInfo} {s t : World}
  {a : Action} {x : String} {c : Nat} {d : UsbDevice}

/-! ## Where a bus id can stand -/

inductive Place where
  | pool
  | hand (connection : Nat)
  /-- Between the two sections of the synchronisation. -/
  | opening
  deriving DecidableEq

def Place.busIds (s : World) : Place → List String
  | .pool => Lusbip.busIds s.inventory.available
  | .hand c => ((s.tasks c).kept.map (·.busId)).toList
  | .opening => (s.syncing.getD []).map hostExportBusId

theorem mem_hand (h : (s.tasks c).kept = some d) : d.busId ∈ (Place.hand c).busIds s := by
  rw [Place.busIds, h]
  exact List.mem_singleton_self _

theorem mem_opening {infos : List DeviceInfo} {info : DeviceInfo} (hs : s.syncing = some infos)
    (hinfo : info ∈ infos) : hostExportBusId info ∈ Place.opening.busIds s := by
  rw [Place.busIds, hs]
  exact List.mem_map_of_mem hinfo

/-- A task that keeps what it has. -/
theorem busIds_setTask {task : Task} (hk : task.kept = (s.tasks c).kept) (p : Place) :
    p.busIds (s.setTask c task) = p.busIds s := by
  cases p with
  | pool => rfl
  | opening => rfl
  | hand c' =>
    show ((Function.update s.tasks c task c').kept.map _).toList = ((s.tasks c').kept.map _).toList
    by_cases hc : c' = c
    · rw [hc, Function.update_self, hk]
    · rw [Function.update_of_ne hc]

/-- The invariant: every bus id stands in one place, and what a task has imported is used. -/
structure Single (s : World) : Prop where
  placed : ∃ place, ∀ p : Place, Placed place p (p.busIds s)
  used : ∀ c, ∀ d ∈ (s.tasks c).kept, (s.tasks c).inserting = none →
    d.busId ∈ busIds s.inventory.used

theorem single_init (initial : Initial filter plugged) (h : (busIds initial.devices).Nodup) :
    Single (init initial) where
  placed := by
    refine ⟨fun _ => .pool, fun p => ?_⟩
    cases p with
    | pool => exact ⟨h, fun _ _ => rfl⟩
    | hand c => exact placed_nil _ _
    | opening => exact placed_nil _ _
  used _ _ h := nomatch h

theorem Single.nodup (h : Single s) : (busIds s.inventory.available).Nodup := by
  obtain ⟨place, hplaced⟩ := h.placed
  exact (hplaced .pool).1

/-- A bus id that stands in two places stands in one. -/
theorem Single.eq (h : Single s) {p q : Place} (hp : x ∈ p.busIds s) (hq : x ∈ q.busIds s) :
    p = q := by
  obtain ⟨place, hplaced⟩ := h.placed
  exact ((hplaced p).2 x hp).symm.trans ((hplaced q).2 x hq)

/-- What the other tasks have imported is used, whatever this one does. -/
theorem Single.used_update (h : Single s) {task : Task} {used : List UsbDevice}
    (hothers : ∀ c', c' ≠ c → ∀ d ∈ (s.tasks c').kept, (s.tasks c').inserting = none →
      d.busId ∈ busIds s.inventory.used → d.busId ∈ busIds used)
    (hself : ∀ d ∈ task.kept, task.inserting = none → d.busId ∈ busIds used) :
    ∀ c', ∀ d ∈ (Function.update s.tasks c task c').kept,
      (Function.update s.tasks c task c').inserting = none → d.busId ∈ busIds used := by
  intro c' d hd hi
  by_cases hc : c' = c
  · rw [hc, Function.update_self] at hd hi
    exact hself d hd hi
  · rw [Function.update_of_ne hc] at hd hi
    exact hothers c' hc d hd hi (h.used c' d hd hi)

/-! ## The steps of the tasks -/

theorem Single.moves (h : Single s) {task : Task} (hk : task.kept = (s.tasks c).kept)
    (hi : (s.tasks c).inserting = none) : Single (s.setTask c task) where
  placed := by
    obtain ⟨place, hplaced⟩ := h.placed
    refine ⟨place, fun p => ?_⟩
    rw [busIds_setTask hk]
    exact hplaced p
  used := h.used_update (fun _ _ _ _ _ hd => hd) fun d hd _ => h.used c d (hk ▸ hd) hi

/-- The device goes from the hands of the task to the available ones. -/
theorem Single.releases (h : Single s) {task : Task} (hd : (s.tasks c).kept = some d)
    (hk : task.kept = none) :
    Single ((s.withInventory (s.inventory.release d)).setTask c task) where
  placed := by
    obtain ⟨place, hplaced⟩ := h.placed
    refine ⟨_, (@placed_transfer _ _ _ place (.hand c) .pool [d.busId] _ _ hplaced nofun
      (fun k => ?_) (fun k => ?_) fun r hr hr' k => ?_).2⟩
    · show [d.busId].count k + ((Function.update s.tasks c task c).kept.map _).toList.count k ≤ _
      rw [Function.update_self, hk, Place.busIds, hd]
      exact Nat.le_refl _
    · show (busIds (s.inventory.release d).available).count k ≤ (busIds _).count k + _
      unfold Inventory.release
      dsimp only
      split
      · exact Nat.le_add_right _ _
      · rw [busIds, List.map_append, List.count_append]
        exact Nat.le_refl _
    · cases r with
      | pool => exact absurd rfl hr'
      | opening => exact Nat.le_refl _
      | hand c' =>
        have hc : c' ≠ c := fun hc => hr (congrArg Place.hand hc)
        show ((Function.update s.tasks c task c').kept.map _).toList.count k ≤ _
        rw [Function.update_of_ne hc]
        exact Nat.le_refl _
  used := by
    refine h.used_update (fun c' hc e he _ hmem => ?_) fun e he => ?_
    · refine Inventory.mem_busIds_release_used.mpr ⟨hmem, fun heq => hc ?_⟩
      have hboth := h.eq (mem_hand he) (heq ▸ mem_hand hd)
      cases hboth
      rfl
    · rw [hk] at he
      cases he

/-- The first section of `occupy`. -/
theorem Single.takes (h : Single s) {busId : String} {inv : Inventory}
    (htake : s.inventory.takeAvailable busId = some (d, inv))
    (hused : inv.used = s.inventory.used) :
    Single ((s.withInventory inv).setTask c ⟨none, .inserting d⟩) where
  placed := by
    obtain ⟨place, hplaced⟩ := h.placed
    have hperm : (d.busId :: busIds inv.available).Perm (busIds s.inventory.available) :=
      (Inventory.takeAvailable_perm htake).map UsbDevice.busId
    refine ⟨_, (@placed_transfer _ _ _ place .pool (.hand c) [d.busId] _ _ hplaced nofun
      (fun k => ?_) (fun k => ?_) fun r hr hr' k => ?_).2⟩
    · show [d.busId].count k + (busIds inv.available).count k ≤ (busIds _).count k
      rw [← hperm.count_eq, ← List.count_append]
      exact Nat.le_refl _
    · show ((Function.update s.tasks c (Task.mk none (.inserting d)) c).kept.map _).toList.count k
        ≤ _
      rw [Function.update_self]
      exact Nat.le_add_left _ _
    · cases r with
      | pool => exact absurd rfl hr
      | opening => exact Nat.le_refl _
      | hand c' =>
        have hc : c' ≠ c := fun hc => hr' (congrArg Place.hand hc)
        show ((Function.update s.tasks c (Task.mk none (.inserting d)) c').kept.map _).toList.count k
          ≤ _
        rw [Function.update_of_ne hc]
        exact Nat.le_refl _
  used := h.used_update (fun _ _ _ _ _ hmem => hused.symm ▸ hmem) fun _ _ hi => nomatch hi

/-- The second section. -/
theorem Single.inserts (h : Single s) (hk : (s.tasks c).kept = some d) :
    Single ((s.withInventory (s.inventory.insertUsed d)).setTask c ⟨some d, .replying⟩) where
  placed := by
    obtain ⟨place, hplaced⟩ := h.placed
    have hkept : (Task.mk (some d) .replying).kept =
      ((s.withInventory (s.inventory.insertUsed d)).tasks c).kept := hk.symm
    refine ⟨place, fun p => ?_⟩
    rw [busIds_setTask hkept]
    cases p with
    | pool => exact hplaced .pool
    | hand c' => exact hplaced (.hand c')
    | opening => exact hplaced .opening
  used := by
    refine h.used_update (fun _ _ _ _ _ hmem => ?_) fun e he _ => ?_
    · exact Inventory.mem_busIds_insertUsed.mpr (Or.inl hmem)
    · cases he
      exact Inventory.mem_busIds_insertUsed.mpr (Or.inr rfl)

/-! ## The sections of the synchronisation -/

/-- What the lists know is not opened a second time. -/
theorem hostExportBusId_ne_of_known {current : List DeviceInfo} {inv : Inventory}
    (hcurrent : x ∈ current.map hostExportBusId)
    (hx : x ∈ busIds inv.available ∨ x ∈ busIds inv.used) :
    ∀ info ∈ Inventory.newInfos current
        (inv.syncRetain (current.map hostExportBusId)).2, hostExportBusId info ≠ x := by
  rintro info hinfo rfl
  refine of_decide_eq_true (List.mem_filter.mp hinfo).2 (mem_busIds_append.mpr ?_)
  exact hx.imp (fun hx => Inventory.mem_busIds_retain.mpr ⟨hx, hcurrent⟩)
    fun hx => Inventory.mem_busIds_retain.mpr ⟨hx, hcurrent⟩

/-- No import is between its two sections. -/
def Unbroken (s : World) : Prop := ∀ c, (s.tasks c).inserting = none

theorem Single.retains (h : Single s) (hconserved : Conserved filter plugged s)
    (hplugged : (currentBusIds filter plugged).Nodup) (hunbroken : Unbroken s)
    (hnone : s.syncing = none) :
    Single
      { s with
        inventory := (s.inventory.syncRetain (currentBusIds filter plugged)).1
        syncing := some (Inventory.newInfos (Inventory.shared filter plugged)
          (s.inventory.syncRetain (currentBusIds filter plugged)).2) } where
  placed := by
    obtain ⟨place, hplaced⟩ := h.placed
    have hpool : ∀ k,
        (busIds (s.inventory.syncRetain (currentBusIds filter plugged)).1.available).count k ≤
          (busIds s.inventory.available).count k := by
      intro k
      unfold Inventory.syncRetain
      rw [Inventory.dedup_filter _ h.nodup]
      exact (List.filter_sublist.map UsbDevice.busId).count_le k
    refine ⟨_, placed_found (q := .opening) hplaced
      (hplugged.sublist (List.filter_sublist.map hostExportBusId)) (fun r k hk hmem => ?_)
      (fun k => Nat.le_add_left _ _) fun r hr k => ?_⟩
    · obtain ⟨info, hinfo, rfl⟩ := List.mem_map.mp hk
      have hcurrent : hostExportBusId info ∈ currentBusIds filter plugged :=
        List.mem_map_of_mem (List.mem_of_mem_filter hinfo)
      refine hostExportBusId_ne_of_known hcurrent ?_ info hinfo rfl
      cases r with
      | pool => exact Or.inl hmem
      | hand c =>
        -- Nothing is between the two sections, so what is in a hand is used.
        rw [Place.busIds, Option.mem_toList, Option.map_eq_some_iff] at hmem
        obtain ⟨d, hd, hbus⟩ := hmem
        exact Or.inr (hbus ▸ h.used c d hd (hunbroken c))
      | opening =>
        rw [Place.busIds, hnone] at hmem
        exact absurd hmem List.not_mem_nil
    · cases r with
      | pool => exact hpool k
      | hand c => exact Nat.le_refl _
      | opening => exact absurd rfl hr
  used c d hd hi := Inventory.mem_busIds_retain.mpr
    ⟨h.used c d hd hi, hconserved.listed _ (hconserved.mem_known hd)⟩

theorem Single.appends (h : Single s) {infos : List DeviceInfo}
    {opens : DeviceInfo → Option OpenedDevice} {new : List UsbDevice} {exported : List String}
    (hs : s.syncing = some infos) (hn : withNusbDevices prof opens infos = .ok new) :
    Single
      { s with
        inventory := { s.inventory with available := s.inventory.available ++ new }
        syncing := none
        exported := exported } where
  placed := by
    obtain ⟨place, hplaced⟩ := h.placed
    refine ⟨_, (@placed_transfer _ _ _ place .opening .pool (busIds new) _ _ hplaced nofun
      (fun k => ?_) (fun k => ?_) fun r hr hr' k => ?_).2⟩
    · rw [Place.busIds, Place.busIds, hs]
      exact (withNusbDevices_openedFrom hn).2.count_le k
    · show (busIds (s.inventory.available ++ new)).count k ≤ (busIds s.inventory.available).count k +
        _
      rw [busIds, List.map_append, List.count_append]
      exact Nat.le_refl _
    · cases r with
      | pool => exact absurd rfl hr'
      | hand c => exact Nat.le_refl _
      | opening => exact absurd rfl hr
  used := h.used

theorem Single.step (h : Single s) (hconserved : Conserved filter plugged s)
    (hplugged : (currentBusIds filter plugged).Nodup) (ha : a = .syncRetain → Unbroken s)
    (hstep : step prof filter plugged s a = some t) : Single t := by
  cases step_effect hstep with
  | moves hk hi hi' hs => exact h.moves hk hi
  | releases _ hp hd hi hk hi' hs => exact h.releases hd hk
  | takes hk hi ht => exact h.takes ht (Inventory.taken_of_takeAvailable ht).used
  | inserts hk hi => exact h.inserts hk
  | @answers c imported available exported occupancy response _ hc hr =>
    have hkept : (Task.mk imported .replying).kept = (s.tasks c).kept := by
      rw [hc]
      rfl
    have hmoved := h.moves hkept (by rw [hc]; rfl)
    exact ⟨hmoved.placed, hmoved.used⟩
  | retains hretain hs => exact h.retains hconserved hplugged (ha hretain) hs
  | appends _ hs hn => exact h.appends hs hn

/-! ## Exclusive ownership -/

/-- The connection has imported the device, as things are when nothing goes wrong: it is in use,
    nobody else has it, and nobody is about to. -/
structure Imported (c : Nat) (busId : String) (s : World) : Prop where
  kept : ∃ d, (s.tasks c).kept = some d ∧ d.busId = busId
  used : busId ∈ busIds s.inventory.used
  available : busId ∉ busIds s.inventory.available
  others : ∀ c', ∀ d ∈ (s.tasks c').kept, d.busId = busId → c' = c
  syncing : ∀ infos ∈ s.syncing, ∀ info ∈ infos, hostExportBusId info ≠ busId

theorem Single.imported (h : Single s) (hd : (s.tasks c).kept = some d)
    (hi : (s.tasks c).inserting = none) : Imported c d.busId s where
  kept := ⟨d, hd, rfl⟩
  used := h.used c d hd hi
  available hmem := nomatch h.eq (p := .pool) (q := .hand c) hmem (mem_hand hd)
  others c' e he heq := by
    have hboth := h.eq (mem_hand he) (heq ▸ mem_hand hd)
    cases hboth
    rfl
  syncing infos hinfos info hinfo heq :=
    nomatch h.eq (p := .opening) (q := .hand c) (mem_opening hinfos hinfo) (heq ▸ mem_hand hd)

/-- Every device that is available is so once, and every connection has what it has imported for
    itself. -/
structure Exclusive (s : World) : Prop where
  available : (busIds s.inventory.available).Nodup
  imported : ∀ c d, (s.tasks c).kept = some d → (s.tasks c).inserting = none →
    Imported c d.busId s

/-- **Exclusive ownership, lock by lock.** With what is plugged in fixed, and no two of these
    devices of one bus id: in every run of any number of connections and of the synchronisation in
    which the synchronisation never looks at the lists while an import is between its two sections,
    no device is available twice, and what a connection has imported is used, not available, not
    imported by another one and not about to be opened again. -/
theorem exclusive_of_unbroken (prof : Profile) (filter : DeviceInfo → Bool)
    (plugged : List DeviceInfo) (hplugged : (currentBusIds filter plugged).Nodup)
    (initial : Initial filter plugged) (hinitial : (busIds initial.devices).Nodup)
    (actions : List Action)
    (h : Along (step prof filter plugged) (fun s a => a = .syncRetain → Unbroken s) (init initial)
      actions) :
    Throughout (step prof filter plugged) Exclusive (init initial) actions := by
  refine throughout_of_along (I := fun s => Single s ∧ Conserved filter plugged s)
    (fun s a t h ha hstep => ⟨h.1.step h.2 hplugged ha hstep, h.2.step hstep⟩)
    (fun s h => ⟨h.1.nodup, fun c d hd hi => h.1.imported hd hi⟩)
    ⟨single_init initial hinitial, conserved_init initial⟩ h

/-- The stick is imported after a synchronisation. -/
theorem exclusive_syncThenImport :
    Throughout (step .release (fun _ => true) [Ownership.stick 1]) Exclusive (init oneStick)
      [.syncRetain, .syncAppend Ownership.openAll, .importRequest 0 Ownership.port11, .advance 0,
        .advance 0] :=
  exclusive_of_unbroken .release (fun _ => true) [Ownership.stick 1] (by decide +kernel) oneStick
    (by decide +kernel) _ fun _ _ => ⟨fun _ _ => rfl, fun _ _ => ⟨nofun, fun _ _ => ⟨nofun,
      fun _ _ => ⟨nofun, fun _ _ => ⟨nofun, trivial⟩⟩⟩⟩⟩

/-- With a synchronisation in the middle of an import, two connections have the stick. -/
example :
    ((run (step .release (fun _ => true) [Ownership.stick 1]) (init oneStick)
      [.importRequest 0 Ownership.port11, .advance 0, .syncRetain, .advance 0,
        .syncAppend Ownership.openAll, .importRequest 1 Ownership.port11, .advance 1,
        .advance 1]).any fun t =>
      (t.tasks 0).kept.map (·.busId) = some "1-1" ∧
        (t.tasks 1).kept.map (·.busId) = some "1-1") = true := by
  decide +kernel

end Exports
end Lusbip
