import Lusbip.Server.Exports

/-!
# No exported device is lost

What leaves the available devices is in the hands of a task, and what a task gives up goes back
to the available ones; the synchronisation keeps what is plugged in, and only adds. So every
bus id that was ever exported is available or answered for by a task, at every step. Behind
that, with the two sections of `occupy` told apart: what is not available is used, or about to
be.
-/

namespace Lusbip
namespace Exports

open Lib.Transition

variable {prof : Profile} {filter : DeviceInfo → Bool} {plugged : List DeviceInfo} {s t : World}
  {a : Action} {x : String}

/-! ## Where a bus id is -/

/-- Available, in use, or between the two sections of `occupy`. -/
def Findable (s : World) (busId : String) : Prop :=
  busId ∈ busIds s.inventory.available ∨ busId ∈ busIds s.inventory.used ∨
    InHands Task.inserting s.tasks busId

theorem Findable.moves (h : Findable s x) {c : Nat} {task : Task} (hi : (s.tasks c).inserting = none)
    (hi' : task.inserting = none) : Findable (s.setTask c task) x :=
  h.imp_right (Or.imp_right (inHands_update (hi'.trans hi.symm)).mpr)

theorem Findable.releases (h : Findable s x) {c : Nat} {d : UsbDevice} {task : Task}
    (hi : (s.tasks c).inserting = none) (hi' : task.inserting = none) :
    Findable ((s.withInventory (s.inventory.release d)).setTask c task) x := by
  by_cases hbus : x = d.busId
  · exact Or.inl (Inventory.mem_busIds_release_available.mpr (Or.inr hbus))
  · rcases h with havail | hused | hhand
    · exact Or.inl (Inventory.mem_busIds_release_available.mpr (Or.inl havail))
    · exact Or.inr (Or.inl (Inventory.mem_busIds_release_used.mpr ⟨hused, hbus⟩))
    · exact Or.inr (Or.inr ((inHands_update (hi'.trans hi.symm)).mpr hhand))

theorem Findable.takes (h : Findable s x) {c : Nat} {busId : String} {d : UsbDevice} {inv : Inventory}
    (hi : (s.tasks c).inserting = none) (ht : Inventory.Taken s.inventory busId d inv) :
    Findable ((s.withInventory inv).setTask c ⟨none, .inserting d⟩) x := by
  have htake := inHands_take (x := x) ⟨none, .inserting d⟩ hi rfl
  rcases h with havail | hused | hhand
  · rcases ht.kept x havail with hbus | havail
    · exact Or.inr (Or.inr (htake.mpr (Or.inr (hbus.trans ht.busId_eq.symm))))
    · exact Or.inl havail
  · refine Or.inr (Or.inl ?_)
    show x ∈ busIds inv.used
    rw [ht.used]
    exact hused
  · exact Or.inr (Or.inr (htake.mpr (Or.inl hhand)))

theorem Findable.inserts (h : Findable s x) {c : Nat} {d : UsbDevice}
    (hi : (s.tasks c).inserting = some d) :
    Findable ((s.withInventory (s.inventory.insertUsed d)).setTask c ⟨some d, .replying⟩) x := by
  rcases h with havail | hused | hhand
  · exact Or.inl havail
  · exact Or.inr (Or.inl (Inventory.mem_busIds_insertUsed.mpr (Or.inl hused)))
  · rcases inHands_of_open ⟨some d, .replying⟩ hi hhand with hhand | hbus
    · exact Or.inr (Or.inr hhand)
    · exact Or.inr (Or.inl (Inventory.mem_busIds_insertUsed.mpr (Or.inr hbus)))

/-- Both lists keep every bus id that is plugged in, and deduplication keeps one entry. -/
theorem Findable.retains (h : Findable s x) (hcurrent : x ∈ currentBusIds filter plugged)
    (syncing : Option (List DeviceInfo)) :
    Findable { s with inventory := (s.inventory.syncRetain (currentBusIds filter plugged)).1, syncing }
      x :=
  h.imp (fun havail => Inventory.mem_busIds_retain.mpr ⟨havail, hcurrent⟩)
    (Or.imp_left fun hused => Inventory.mem_busIds_retain.mpr ⟨hused, hcurrent⟩)

theorem Findable.appends {new : List UsbDevice} (h : Findable s x ∨ x ∈ busIds new)
    (exported : List String) :
    Findable
      { s with
        inventory := { s.inventory with available := s.inventory.available ++ new }
        syncing := none
        exported } x := by
  rcases h with h | h
  · exact h.imp_left fun havail => mem_busIds_append.mpr (Or.inl havail)
  · exact Or.inl (mem_busIds_append.mpr (Or.inr h))

/-! ## The invariant -/

structure Conserved (filter : DeviceInfo → Bool) (plugged : List DeviceInfo) (s : World) :
    Prop where
  listed : ∀ x ∈ s.exported, x ∈ currentBusIds filter plugged
  syncing : ∀ infos ∈ s.syncing, ∀ info ∈ infos, hostExportBusId info ∈ currentBusIds filter plugged
  since : ∀ c, ∀ x ∈ (s.tasks c).since, x ∈ s.exported
  exported : ∀ x, x ∈ s.exported ↔ Exported s x
  /-- What is not available is used, or about to be. -/
  placed : ∀ x ∈ s.exported, x ∈ busIds s.inventory.available ∨ x ∈ busIds s.inventory.used ∨
    InHands Task.inserting s.tasks x

theorem conserved_init (initial : Initial filter plugged) :
    Conserved filter plugged (init initial) where
  listed := initial.plugged
  syncing _ h := (nomatch h)
  since _ _ h := absurd h List.not_mem_nil
  exported x := by
    refine ⟨Or.inl, fun h => h.resolve_right ?_⟩
    rintro ⟨c, d, hd, -⟩
    cases hd
  placed x h := Or.inl h

theorem Conserved.mem_known (h : Conserved filter plugged s) {d : UsbDevice} {c : Nat}
    (hd : (s.tasks c).kept = some d) : d.busId ∈ s.exported :=
  (h.exported d.busId).mpr (Or.inr ⟨c, d, hd, rfl⟩)

/-- What the other tasks have noted, and this one. -/
theorem Conserved.since_update (h : Conserved filter plugged s) {c : Nat} {task : Task}
    (hs : ∀ x ∈ task.since, x ∈ s.exported ∨ x ∈ (s.tasks c).since) :
    ∀ c', ∀ x ∈ (Function.update s.tasks c task c').since, x ∈ s.exported := by
  intro c' x hx
  by_cases hc : c' = c
  · rw [hc, Function.update_self] at hx
    exact (hs x hx).elim id (h.since c x)
  · rw [Function.update_of_ne hc] at hx
    exact h.since c' x hx

theorem Conserved.moves (h : Conserved filter plugged s) {c : Nat} {task : Task}
    (hk : task.kept = (s.tasks c).kept) (hi : (s.tasks c).inserting = none)
    (hi' : task.inserting = none)
    (hs : ∀ x ∈ task.since, x ∈ s.exported ∨ x ∈ (s.tasks c).since) :
    Conserved filter plugged (s.setTask c task) where
  listed := h.listed
  syncing := h.syncing
  since := h.since_update hs
  exported x := by
    rw [Exported]
    exact (h.exported x).trans (or_congr_right (inHands_update hk).symm)
  placed x hx := Findable.moves (h.placed x hx) hi hi'

theorem Conserved.releases (h : Conserved filter plugged s) {c : Nat} {d : UsbDevice}
    {task : Task} (hd : (s.tasks c).kept = some d) (hi : (s.tasks c).inserting = none)
    (hk : task.kept = none) (hi' : task.inserting = none) (hs : task.since = []) :
    Conserved filter plugged ((s.withInventory (s.inventory.release d)).setTask c task) where
  listed := h.listed
  syncing := h.syncing
  since := h.since_update fun x hx => by
    rw [hs] at hx
    exact absurd hx List.not_mem_nil
  exported x := by
    constructor
    · intro hx
      rcases (h.exported x).mp hx with havail | hhand
      · exact Or.inl (Inventory.mem_busIds_release_available.mpr (Or.inl havail))
      -- What the task had in its hands is available now, whether or not it is the same entry.
      · rcases inHands_of_open task hd hhand with hhand | hbus
        · exact Or.inr hhand
        · exact Or.inl (Inventory.mem_busIds_release_available.mpr (Or.inr hbus))
    · rintro (havail | hhand)
      · rcases Inventory.mem_busIds_release_available.mp havail with havail | rfl
        · exact (h.exported x).mpr (Or.inl havail)
        · exact h.mem_known hd
      · exact (h.exported x).mpr (Or.inr (inHands_of_opened hk hhand))
  placed x hx := Findable.releases (h.placed x hx) hi hi'

/-- The first section of `occupy`: what leaves the available devices is in the task's hands. -/
theorem Conserved.takes (h : Conserved filter plugged s) {c : Nat} {busId : String}
    {d : UsbDevice} {inv : Inventory} (hk : (s.tasks c).kept = none)
    (hi : (s.tasks c).inserting = none) (ht : Inventory.Taken s.inventory busId d inv) :
    Conserved filter plugged ((s.withInventory inv).setTask c ⟨none, .inserting d⟩) where
  listed := h.listed
  syncing := h.syncing
  since := h.since_update fun x hx => absurd hx List.not_mem_nil
  exported x := by
    have htake := inHands_take (x := x) ⟨none, .inserting d⟩ hk rfl
    constructor
    · intro hx
      rcases (h.exported x).mp hx with havail | hhand
      -- Another entry of the bus id may still be available; then it does not matter.
      · rcases ht.kept x havail with hbus | havail
        · exact Or.inr (htake.mpr (Or.inr (hbus.trans ht.busId_eq.symm)))
        · exact Or.inl havail
      · exact Or.inr (htake.mpr (Or.inl hhand))
    · rintro (havail | hhand)
      · obtain ⟨e, he, rfl⟩ := mem_busIds.mp havail
        exact (h.exported _).mpr (Or.inl (mem_busIds.mpr ⟨e, ht.subset e he, rfl⟩))
      · rcases htake.mp hhand with hhand | rfl
        · exact (h.exported x).mpr (Or.inr hhand)
        · exact (h.exported _).mpr (Or.inl (mem_busIds.mpr ⟨d, ht.mem, rfl⟩))
  placed x hx := Findable.takes (h.placed x hx) hi ht

/-- The second section: the task's device is a used one. -/
theorem Conserved.inserts (h : Conserved filter plugged s) {c : Nat} {d : UsbDevice}
    (hk : (s.tasks c).kept = some d) (hi : (s.tasks c).inserting = some d) :
    Conserved filter plugged
      ((s.withInventory (s.inventory.insertUsed d)).setTask c ⟨some d, .replying⟩) where
  listed := h.listed
  syncing := h.syncing
  since := h.since_update fun x hx => absurd hx List.not_mem_nil
  exported x := by
    rw [Exported]
    exact (h.exported x).trans (or_congr_right (inHands_update hk.symm).symm)
  placed x hx := Findable.inserts (h.placed x hx) hi

/-- What is plugged in survives the first section of the synchronisation. -/
theorem Conserved.retains (h : Conserved filter plugged s) {infos : List DeviceInfo}
    (hinfos : ∀ info ∈ infos, hostExportBusId info ∈ currentBusIds filter plugged) :
    Conserved filter plugged
      { s with
        inventory := (s.inventory.syncRetain (currentBusIds filter plugged)).1
        syncing := some infos } where
  listed := h.listed
  syncing i hi := by
    cases hi
    exact hinfos
  since := h.since
  exported x := by
    rw [h.exported x]
    constructor
    · rintro (havail | hhand)
      · have hcur := h.listed x ((h.exported x).mpr (Or.inl havail))
        exact Or.inl (Inventory.mem_busIds_retain.mpr ⟨havail, hcur⟩)
      · exact Or.inr hhand
    · rintro (havail | hhand)
      · exact Or.inl (Inventory.mem_busIds_retain.mp havail).1
      · exact Or.inr hhand
  placed x hx := Findable.retains (h.placed x hx) (h.listed x hx) _

theorem Conserved.appends (h : Conserved filter plugged s) {infos : List DeviceInfo}
    {opens : DeviceInfo → Option OpenedDevice} {new : List UsbDevice}
    (hs : s.syncing = some infos) (hn : withNusbDevices prof opens infos = .ok new) :
    Conserved filter plugged
      { s with
        inventory := { s.inventory with available := s.inventory.available ++ new }
        syncing := none
        exported := s.exported ++ busIds new } where
  listed x hx := by
    rcases List.mem_append.mp hx with hx | hx
    · exact h.listed x hx
    · obtain ⟨d, hd, rfl⟩ := mem_busIds.mp hx
      obtain ⟨info, hinfo, ho⟩ := (withNusbDevices_openedFrom hn).1 d hd
      rw [ho.busId]
      exact h.syncing infos hs info hinfo
  syncing _ h := (nomatch h)
  since c x hx := List.mem_append_left _ (h.since c x hx)
  exported x := by
    show x ∈ s.exported ++ busIds new ↔
      x ∈ busIds (s.inventory.available ++ new) ∨ InHands Task.kept s.tasks x
    have happend : busIds (s.inventory.available ++ new) =
        busIds s.inventory.available ++ busIds new := List.map_append
    rw [happend, List.mem_append, List.mem_append, h.exported x, Exported, or_right_comm]
  placed x hx := Findable.appends ((List.mem_append.mp hx).imp_left (h.placed x)) _

theorem Conserved.withAnswers (h : Conserved filter plugged s) (answers : List Answer) :
    Conserved filter plugged { s with answers := answers } :=
  ⟨h.listed, h.syncing, h.since, h.exported, h.placed⟩

/-- Every step keeps the invariant. -/
theorem Conserved.step (h : Conserved filter plugged s)
    (hstep : step prof filter plugged s a = some t) : Conserved filter plugged t := by
  cases step_effect hstep with
  | moves hk hi hi' hs => exact h.moves hk hi hi' hs
  | releases ha hp hd hi hk hi' hs => exact h.releases hd hi hk hi' hs
  | takes hk hi ht => exact h.takes hk hi (Inventory.taken_of_takeAvailable ht)
  | inserts hk hi => exact h.inserts hk hi
  | answers ha hc hr =>
    refine Conserved.withAnswers (h.moves ?_ ?_ rfl fun x hx => absurd hx List.not_mem_nil) _
    · rw [hc]
      rfl
    · rw [hc]
      rfl
  | retains ha hs => exact h.retains fun _ hinfo => List.mem_map_of_mem (List.mem_of_mem_filter hinfo)
  | appends ha hs hn => exact h.appends hs hn

/-- A bus id stays where it can be found, unless the synchronisation finds it gone. -/
theorem Findable.step (h : Findable s x)
    (hcurrent : a = .syncRetain → x ∈ currentBusIds filter plugged)
    (hstep : step prof filter plugged s a = some t) : Findable t x := by
  cases step_effect hstep with
  | moves hk hi hi' hs => exact h.moves hi hi'
  | releases ha hp hd hi hk hi' hs => exact h.releases hi hi'
  | takes hk hi ht => exact h.takes hi (Inventory.taken_of_takeAvailable ht)
  | inserts hk hi => exact h.inserts hi
  | @answers c imported available exported occupancy response ha hc hr =>
    have hi : (s.tasks c).inserting = none := by
      rw [hc]
      rfl
    exact h.moves hi rfl
  | retains ha hs => exact h.retains (hcurrent ha) _
  | appends ha hs hn => exact .appends (Or.inl h) _

/-! ## Conservation -/

/-- In the middle of an import, or of giving a device back. -/
def Phase.Unsettled : Phase → Prop
  | .releasing _ _ => True
  | .occupying _ => True
  | .inserting _ => True
  | .returning _ _ => True
  | _ => False

def Settled (s : World) : Prop := ∀ c, ¬ (s.tasks c).phase.Unsettled

/-- Available, or the imported device of a connection whose task has not ended. -/
def Accounted (s : World) (busId : String) : Prop :=
  busId ∈ busIds s.inventory.available ∨
    ∃ c d, (s.tasks c).phase ≠ .ended ∧ (s.tasks c).imported = some d ∧ d.busId = busId

/-- What a settled task answers for it has imported. -/
theorem Task.imported_of_kept {task : Task} {d : UsbDevice} (h : task.kept = some d)
    (hs : ¬ task.phase.Unsettled) : task.phase ≠ .ended ∧ task.imported = some d := by
  obtain ⟨imported, phase⟩ := task
  cases phase with
  | idle => exact ⟨Phase.noConfusion, h⟩
  | releasing busId device => exact absurd trivial hs
  | occupying busId => exact absurd trivial hs
  | inserting device => exact absurd trivial hs
  | replying => exact ⟨Phase.noConfusion, h⟩
  | returning device last => exact absurd trivial hs
  | listing available exported => exact ⟨Phase.noConfusion, h⟩
  | merging available exported occupancy => exact ⟨Phase.noConfusion, h⟩
  | ended => cases h

theorem accounted_of_exported (hs : Settled s) (h : Exported s x) : Accounted s x := by
  rcases h with havail | ⟨c, d, hd, hbus⟩
  · exact Or.inl havail
  · obtain ⟨hlive, himported⟩ := Task.imported_of_kept hd (hs c)
    exact Or.inr ⟨c, d, hlive, himported, hbus⟩

/-- What has been exported stays in the history. -/
theorem exported_step (hstep : step prof filter plugged s a = some t) (hx : x ∈ s.exported) :
    x ∈ t.exported := by
  cases step_effect hstep with
  | appends ha hs hn => exact List.mem_append_left _ hx
  | moves hk hi hi' hs => exact hx
  | releases ha hp hd hi hk hi' hs => exact hx
  | takes hk hi ht => exact hx
  | inserts hk hi => exact hx
  | answers ha hc hr => exact hx
  | retains ha hs => exact hx

/-- **No exported device is lost**: whatever the tasks of the connections and the
    synchronisation do between their locks, where no connection is in the middle of an import
    or of giving back, every bus id of the start is available or imported by a live one. -/
theorem no_device_lost (prof : Profile) (filter : DeviceInfo → Bool) (plugged : List DeviceInfo)
    (initial : Initial filter plugged) (acts : List Action) :
    Throughout (step prof filter plugged)
      (fun s => Settled s → ∀ busId ∈ busIds initial.devices, Accounted s busId)
      (init initial) acts := by
  refine throughout_of_step
    (I := fun s => Conserved filter plugged s ∧ ∀ x ∈ busIds initial.devices, x ∈ s.exported)
    (fun s a t h hstep => ?_) (fun s h hs x hx => ?_) acts ⟨conserved_init initial, fun _ h => h⟩
  · exact ⟨h.1.step hstep, fun x hx => exported_step hstep (h.2 x hx)⟩
  · exact accounted_of_exported hs ((h.1.exported x).mp (h.2 x hx))

end Exports
end Lusbip
