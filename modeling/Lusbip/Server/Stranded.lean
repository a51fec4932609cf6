import Lusbip.Server.Exclusive

/-!
# When a connection panics

The task of a connection that panics is gone with its device: nothing gives it back, and it stays in
the list of the used ones. The synchronisation keeps what is plugged in, and opens only what neither
list knows. So nobody can import the device any more, until it is pulled out or the server stops.
-/

namespace Lusbip
namespace Exports

open Lib.Transition

/-! ## Panics -/

inductive Mishap where
  | serve (action : Action)
  /-- The task panics while it serves its client. -/
  | panic (connection : Nat)

def World.panicked (s : World) (c : Nat) : World := s.setTask c ⟨none, .ended⟩

def mishapStep (prof : Profile) (filter : DeviceInfo → Bool) (plugged : List DeviceInfo)
    (s : World) : Mishap → Option World
  | .serve action => step prof filter plugged s action
  | .panic c =>
      match (s.tasks c).phase with
      | .ended => none
      | _ => some (s.panicked c)

/-- The device of that bus id is in use, and in nobody's hands. -/
structure Stranded (busId : String) (s : World) : Prop where
  used : busId ∈ busIds s.inventory.used
  available : busId ∉ busIds s.inventory.available
  kept : ¬ InHands Task.kept s.tasks busId
  syncing : ∀ infos ∈ s.syncing, ∀ info ∈ infos, hostExportBusId info ≠ busId

variable {prof : Profile} {filter : DeviceInfo → Bool} {plugged : List DeviceInfo} {s t : World}
  {a : Action} {x : String}

/-- What is in use is not opened a second time. -/
theorem Stranded.syncing_step (h : Stranded x s) (hplugged : x ∈ currentBusIds filter plugged)
    (hstep : step prof filter plugged s a = some t) :
    ∀ infos ∈ t.syncing, ∀ info ∈ infos, hostExportBusId info ≠ x := by
  cases step_effect hstep with
  | retains ha hs =>
    intro infos hinfos
    cases hinfos
    exact hostExportBusId_ne_of_known hplugged (Or.inr h.used)
  | appends ha hs hn => exact fun _ hnone => nomatch hnone
  | moves hk hi hi' hs => exact h.syncing
  | releases ha hp hd hi hk hi' hs => exact h.syncing
  | takes hk hi ht => exact h.syncing
  | inserts hk hi => exact h.syncing
  | answers ha hc hr => exact h.syncing

/-- Whatever is done, nobody gets it. -/
theorem Stranded.step (h : Stranded x s) (hplugged : x ∈ currentBusIds filter plugged)
    (hstep : step prof filter plugged s a = some t) : Stranded x t := by
  have hsyncing := h.syncing_step hplugged hstep
  cases step_effect hstep with
  | moves hk hi hi' hs =>
    exact ⟨h.used, h.available, fun hx => h.kept ((inHands_update hk).mp hx), hsyncing⟩
  | @releases c d task ha hp hd hi hk hi' hs =>
    have hne : x ≠ d.busId := fun heq => h.kept ⟨c, d, hd, heq.symm⟩
    refine ⟨Inventory.mem_busIds_release_used.mpr ⟨h.used, hne⟩, fun hx => ?_,
      fun hx => h.kept (inHands_of_opened hk hx), hsyncing⟩
    exact (Inventory.mem_busIds_release_available.mp hx).elim h.available hne
  | @takes c busId d inv hk hi htake =>
    have ht := Inventory.taken_of_takeAvailable htake
    have hne : x ≠ d.busId := fun heq => h.available (mem_busIds.mpr ⟨d, ht.mem, heq.symm⟩)
    refine ⟨ht.used ▸ h.used, fun hx => ?_, fun hx => ?_, hsyncing⟩
    · obtain ⟨e, he, rfl⟩ := mem_busIds.mp hx
      exact h.available (mem_busIds.mpr ⟨e, ht.subset e he, rfl⟩)
    · exact ((inHands_take _ hk rfl).mp hx).elim h.kept hne
  | inserts hk hi =>
    exact ⟨Inventory.mem_busIds_insertUsed.mpr (Or.inl h.used), h.available,
      fun hx => h.kept ((inHands_update hk.symm).mp hx), hsyncing⟩
  | @answers c imported available exported occupancy response ha hc hr =>
    refine ⟨h.used, h.available, fun hx => h.kept ((inHands_update ?_).mp hx), hsyncing⟩
    rw [hc]
    rfl
  | retains ha hs =>
    exact ⟨Inventory.mem_busIds_retain.mpr ⟨h.used, hplugged⟩,
      fun hx => h.available (Inventory.mem_busIds_retain.mp hx).1, h.kept, hsyncing⟩
  | @appends infos opens new ha hs hn =>
    refine ⟨h.used, fun hx => ?_, h.kept, hsyncing⟩
    rcases mem_busIds_append.mp hx with hx | hx
    · exact h.available hx
    · obtain ⟨info, hinfo, heq⟩ := List.mem_map.mp
        ((withNusbDevices_openedFrom hn).2.subset hx)
      exact h.syncing infos hs info hinfo heq

theorem Stranded.panicked (h : Stranded x s) (c : Nat) : Stranded x (s.panicked c) :=
  ⟨h.used, h.available, fun hx => h.kept (inHands_of_opened rfl hx), h.syncing⟩

theorem Stranded.mishap (h : Stranded x s) (hplugged : x ∈ currentBusIds filter plugged)
    {m : Mishap} (hstep : mishapStep prof filter plugged s m = some t) : Stranded x t := by
  cases m with
  | serve action => exact h.step hplugged hstep
  | panic c =>
    unfold mishapStep at hstep
    dsimp only at hstep
    split at hstep
    · cases hstep
    · cases hstep
      exact h.panicked c

/-! ## A connection that had imported the device -/

/-- Its task is there, and can panic. -/
theorem Imported.mishapStep_panic {c : Nat} (h : Imported c x s) :
    mishapStep prof filter plugged s (.panic c) = some (s.panicked c) := by
  obtain ⟨d, hd, -⟩ := h.kept
  unfold mishapStep
  dsimp only
  split
  case h_1 hended =>
    rw [show s.tasks c = ⟨(s.tasks c).imported, .ended⟩ by rw [← hended]] at hd
    cases hd
  case h_2 => rfl

theorem Imported.stranded {c : Nat} (h : Imported c x s) : Stranded x (s.panicked c) := by
  refine ⟨h.used, h.available, ?_, h.syncing⟩
  rintro ⟨c', d, hd, hbus⟩
  by_cases hc : c' = c
  · subst hc
    rw [World.panicked, World.setTask] at hd
    dsimp only at hd
    rw [Function.update_self] at hd
    cases hd
  · rw [World.panicked, World.setTask] at hd
    dsimp only at hd
    rw [Function.update_of_ne hc] at hd
    exact hc (h.others c' d hd hbus)

/-- `occupy` finds no available device of that bus id. -/
def Refuses (s : World) (busId : String) : Prop := s.inventory.takeAvailable busId = none

theorem refuses_of_not_available (h : x ∉ busIds s.inventory.available) : Refuses s x := by
  unfold Refuses Inventory.takeAvailable
  rw [List.find?_eq_none.mpr fun d hd heq =>
    h (mem_busIds.mpr ⟨d, hd, of_decide_eq_true heq⟩)]
  rfl

/-- **A panic strands the device.** When the task of a connection panics which has imported a
    device, and is the only one that has it or is about to, then, whatever all the others and the
    synchronisation do from there on, every import of this device is refused, for as long as it stays
    plugged in; what still gives its claim back is the `cleanup` of a server that stops. -/
theorem panic_strands (prof : Profile) (filter : DeviceInfo → Bool) (plugged : List DeviceInfo)
    {c : Nat} {busId : String} (hplugged : busId ∈ currentBusIds filter plugged)
    (himported : Imported c busId s) (mishaps : List Mishap) :
    ∃ t, mishapStep prof filter plugged s (.panic c) = some t ∧
      Throughout (mishapStep prof filter plugged)
        (fun t => Refuses t busId ∧ busId ∈ busIds t.inventory.cleanup.1) t mishaps := by
  refine ⟨s.panicked c, himported.mishapStep_panic, ?_⟩
  refine throughout_of_step (I := Stranded busId) (fun s m t h hs => h.mishap hplugged hs)
    (fun t h => ⟨refuses_of_not_available h.available, ?_⟩) mishaps himported.stranded
  exact Inventory.mem_busIds_gather.mpr (Or.inr h.used)

/-- Client 0 has imported the stick. -/
def stickImported : World where
  inventory := { used := [{ busId := "1-1" }] }
  tasks c := if c = 0 then ⟨some { busId := "1-1" }, .idle⟩ else {}

theorem imported_stickImported : Imported 0 "1-1" stickImported where
  kept := ⟨{ busId := "1-1" }, rfl, rfl⟩
  used := List.mem_singleton_self _
  available := List.not_mem_nil
  others c' d hd _ := by
    by_contra hc
    rw [stickImported] at hd
    dsimp only at hd
    rw [if_neg hc] at hd
    cases hd
  syncing _ h := nomatch h

/-- The others ask for it after the next synchronisation. -/
theorem stickImported_stranded : ∃ t,
    mishapStep .release (fun _ => true) [Ownership.stick 1] stickImported (.panic 0) = some t ∧
      Throughout (mishapStep .release (fun _ => true) [Ownership.stick 1])
        (fun t => Refuses t "1-1" ∧ "1-1" ∈ busIds t.inventory.cleanup.1) t
        [.serve .syncRetain, .serve (.syncAppend Ownership.openAll),
          .serve (.importRequest 1 Ownership.port11)] :=
  panic_strands .release (fun _ => true) [Ownership.stick 1] (by decide +kernel)
    imported_stickImported _

end Exports
end Lusbip
