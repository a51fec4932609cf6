import Lusbip.Server.Conservation

/-!
# Stopping the server

When the server stops, it aborts the synchronisation and takes back what it exports: `cleanup`
empties both lists under both locks, and calls `release_claim` for the handle of every device it
finds there. The tasks of the connections are not aborted, and go on until the process is gone.

So one device can slip through: that of an import which has taken it from the one list and not yet
put it into the other. And lists that were emptied can fill again, with what the connections still
hold.
-/

namespace Lusbip

namespace Inventory

/-- The loop of `cleanup` over the used devices: those whose bus id is not there are pushed to the
    available ones. -/
def gather (ad : List UsbDevice) : List UsbDevice → List UsbDevice
  | [] => ad
  | d :: ud => gather (if ad.any fun dev => d.busId = dev.busId then ad else ad ++ [d]) ud

/-- `UsbIpServer::cleanup`, with the devices that it finds. -/
def cleanup (inv : Inventory) : List UsbDevice × Inventory := (gather inv.available inv.used, {})

variable {ad ud : List UsbDevice} {d : UsbDevice} {x : String}

theorem mem_gather_of_mem (h : d ∈ ad) : d ∈ gather ad ud := by
  induction ud generalizing ad with
  | nil => exact h
  | cons u ud ih =>
    rw [gather]
    split
    · exact ih h
    · exact ih (List.mem_append_left _ h)

theorem mem_or_mem_of_mem_gather (h : d ∈ gather ad ud) : d ∈ ad ∨ d ∈ ud := by
  induction ud generalizing ad with
  | nil => exact Or.inl h
  | cons u ud ih =>
    rw [gather] at h
    rcases ih h with hd | hd
    · split at hd
      · exact Or.inl hd
      · rcases List.mem_append.mp hd with hd | hd
        · exact Or.inl hd
        · exact Or.inr (List.mem_singleton.mp hd ▸ List.mem_cons_self)
    · exact Or.inr (List.mem_cons_of_mem u hd)

/-- No bus id of either list is forgotten. -/
theorem mem_busIds_gather : x ∈ busIds (gather ad ud) ↔ x ∈ busIds ad ∨ x ∈ busIds ud := by
  constructor
  · intro h
    obtain ⟨d, hd, rfl⟩ := mem_busIds.mp h
    exact (mem_or_mem_of_mem_gather hd).imp (fun hd => mem_busIds.mpr ⟨d, hd, rfl⟩)
      fun hd => mem_busIds.mpr ⟨d, hd, rfl⟩
  · induction ud generalizing ad with
    | nil => exact fun h => h.resolve_right List.not_mem_nil
    | cons u ud ih =>
      intro h
      rw [gather]
      refine ih ?_
      by_cases hany : (ad.any fun dev => u.busId = dev.busId) = true
      · rw [if_pos hany]
        rcases h with h | h
        · exact Or.inl h
        · rcases List.mem_cons.mp h with rfl | h
          · obtain ⟨dev, hdev, heq⟩ := List.any_eq_true.mp hany
            exact Or.inl (mem_busIds.mpr ⟨dev, hdev, (of_decide_eq_true heq).symm⟩)
          · exact Or.inr h
      · rw [if_neg hany, mem_busIds_append]
        rcases h with h | h
        · exact Or.inl (Or.inl h)
        · rcases List.mem_cons.mp h with rfl | h
          · exact Or.inl (Or.inr (List.mem_singleton_self _))
          · exact Or.inr h

end Inventory

namespace Exports

open Lib.Transition

/-! ## The server that stops -/

/-- The bus id is in one of the lists. -/
def Listed (s : World) (busId : String) : Prop :=
  busId ∈ busIds s.inventory.available ∨ busId ∈ busIds s.inventory.used

/-- What `cleanup` came upon, and the devices it found in the lists. -/
structure Cleaned where
  before : World
  lasting : List String
  found : List UsbDevice

/-- The handles that `release_claim` is called for. -/
def Cleaned.releasedClaims (c : Cleaned) : List Device := c.found.filterMap (·.deviceHandler)

/-- The server, until it is stopped and beyond. `lasting` is kept for the statements only: the bus
    ids that were exported, and that every synchronisation since then has found plugged in. -/
structure Stopping where
  world : World
  lasting : List String
  cleaned : Option Cleaned := none

/-- A section of the synchronisation. -/
def Action.isSync : Action → Bool
  | .syncRetain => true
  | .syncAppend _ => true
  | _ => false

/-- What an action takes from the lasting bus ids: the synchronisation, those it finds gone. -/
def remaining (filter : DeviceInfo → Bool) (plugged : List DeviceInfo) (lasting : List String) :
    Action → List String
  | .syncRetain => lasting.filter (currentBusIds filter plugged).contains
  | _ => lasting

namespace Stopping

inductive Action where
  /-- A section of a task or of the synchronisation. `plugged` is what the host lists now. -/
  | serve (plugged : List DeviceInfo) (action : Exports.Action)
  /-- The synchronisation is aborted, wherever it is, and `cleanup` has both locks. -/
  | cleanup

def step (prof : Profile) (filter : DeviceInfo → Bool) (s : Stopping) : Action → Option Stopping
  | .serve plugged action =>
      if s.cleaned.isSome && action.isSync then none
      else
        (Exports.step prof filter plugged s.world action).map fun world =>
          { s with
            world
            lasting := remaining filter plugged s.lasting action ++
              world.exported.drop s.world.exported.length }
  | .cleanup =>
      match s.cleaned with
      | some _ => none
      | none =>
          let (found, inventory) := s.world.inventory.cleanup
          some
            { s with
              world := { s.world with inventory, syncing := none }
              cleaned := some { before := s.world, lasting := s.lasting, found } }

def init {filter : DeviceInfo → Bool} {plugged : List DeviceInfo}
    (initial : Initial filter plugged) : Stopping where
  world := Exports.init initial
  lasting := busIds initial.devices

end Stopping

/-- The claim on every available device is released, and every lasting bus id is found, but for
    one between the two sections of `occupy`; nothing is found that was not exported; and what the
    lists hold since then was in the hands of a task. -/
structure Cleaned.AccountsFor (c : Cleaned) (s : World) : Prop where
  released : ∀ d ∈ c.before.inventory.available, ∀ device ∈ d.deviceHandler,
    device ∈ c.releasedClaims
  found : ∀ x ∈ c.lasting, x ∈ busIds c.found ∨ InHands Task.inserting c.before.tasks x
  exported : ∀ x ∈ busIds c.found, x ∈ c.before.exported
  refilled : ∀ x, Listed s x → InHands Task.kept c.before.tasks x

variable {prof : Profile} {filter : DeviceInfo → Bool} {plugged : List DeviceInfo} {s t : World}
  {a : Action} {x : String}

/-! ## What there is, and where it comes from -/

/-- What is listed, and what the tasks have in their hands, is of the given bus ids. -/
structure Within (given : String → Prop) (s : World) : Prop where
  listed : ∀ x, Listed s x → given x
  kept : ∀ x, InHands Task.kept s.tasks x → given x

theorem Within.mono {given given' : String → Prop} (h : Within given s)
    (hle : ∀ x, given x → given' x) : Within given' s :=
  ⟨fun x hx => hle x (h.listed x hx), fun x hx => hle x (h.kept x hx)⟩

/-- Tasks hand on what there is; only the synchronisation adds to it. -/
theorem Within.step {given : String → Prop} (h : Within given s)
    (hadds : s.syncing ≠ none → ∀ x ∈ t.exported, given x)
    (hstep : step prof filter plugged s a = some t) : Within given t := by
  cases step_effect hstep with
  | moves hk hi hi' hs => exact ⟨h.listed, fun x hx => h.kept x ((inHands_update hk).mp hx)⟩
  | @releases c d task ha hp hd hi hk hi' hs =>
    refine ⟨?_, fun x hx => h.kept x (inHands_of_opened hk hx)⟩
    rintro x (hx | hx)
    · rcases Inventory.mem_busIds_release_available.mp hx with hx | rfl
      · exact h.listed x (Or.inl hx)
      · exact h.kept _ ⟨c, d, hd, rfl⟩
    · exact h.listed x (Or.inr (Inventory.mem_busIds_release_used.mp hx).1)
  | @takes c busId d inv hk hi htake =>
    have ht := Inventory.taken_of_takeAvailable htake
    refine ⟨?_, fun x hx => ?_⟩
    · rintro x (hx | hx)
      · obtain ⟨e, he, rfl⟩ := mem_busIds.mp hx
        exact h.listed _ (Or.inl (mem_busIds.mpr ⟨e, ht.subset e he, rfl⟩))
      · exact h.listed x (Or.inr (ht.used ▸ hx))
    · rcases (inHands_take _ hk rfl).mp hx with hx | rfl
      · exact h.kept x hx
      · exact h.listed _ (Or.inl (mem_busIds.mpr ⟨d, ht.mem, rfl⟩))
  | @inserts c d hk hi =>
    refine ⟨?_, fun x hx => h.kept x ((inHands_update hk.symm).mp hx)⟩
    rintro x (hx | hx)
    · exact h.listed x (Or.inl hx)
    · rcases Inventory.mem_busIds_insertUsed.mp hx with hx | rfl
      · exact h.listed x (Or.inr hx)
      · exact h.kept _ ⟨c, d, hk, rfl⟩
  | @answers c imported available exported occupancy response ha hc hr =>
    refine ⟨h.listed, fun x hx => h.kept x ((inHands_update ?_).mp hx)⟩
    rw [hc]
    rfl
  | retains ha hs =>
    refine ⟨?_, h.kept⟩
    rintro x (hx | hx)
    · exact h.listed x (Or.inl (Inventory.mem_busIds_retain.mp hx).1)
    · exact h.listed x (Or.inr (Inventory.mem_busIds_retain.mp hx).1)
  -- Only here is something new: what the synchronisation has opened.
  | appends ha hs hn =>
    have hsyncing : s.syncing ≠ none := fun hnone => nomatch hs.symm.trans hnone
    refine ⟨?_, h.kept⟩
    rintro x (hx | hx)
    · rcases mem_busIds_append.mp hx with hx | hx
      · exact h.listed x (Or.inl hx)
      · exact hadds hsyncing x (List.mem_append_right _ hx)
    · exact h.listed x (Or.inr hx)

/-! ## While the server serves -/

/-- What there is has been exported, and what has lasted can be found. -/
structure Serving (s : World) (lasting : List String) : Prop where
  within : Within (· ∈ s.exported) s
  findable : ∀ x ∈ lasting, Findable s x

/-- What is exported anew is available. -/
theorem findable_of_exported (hstep : step prof filter plugged s a = some t)
    (hx : x ∈ t.exported.drop s.exported.length) : Findable t x := by
  have hnone : x ∉ s.exported.drop s.exported.length := by
    rw [List.drop_length]
    exact List.not_mem_nil
  cases step_effect hstep with
  | moves hk hi hi' hs => exact absurd hx hnone
  | releases ha hp hd hi hk hi' hs => exact absurd hx hnone
  | takes hk hi ht => exact absurd hx hnone
  | inserts hk hi => exact absurd hx hnone
  | answers ha hc hr => exact absurd hx hnone
  | retains ha hs => exact absurd hx hnone
  | @appends infos opens new ha hs hn =>
    have hnew : x ∈ (s.exported ++ busIds new).drop s.exported.length := hx
    rw [List.drop_left] at hnew
    exact .appends (Or.inr hnew) _

theorem mem_remaining {lasting : List String} (h : x ∈ remaining filter plugged lasting a) :
    x ∈ lasting ∧ (a = .syncRetain → x ∈ currentBusIds filter plugged) := by
  cases a with
  | syncRetain =>
    obtain ⟨hx, hcurrent⟩ := List.mem_filter.mp h
    exact ⟨hx, fun _ => List.contains_iff_mem.mp hcurrent⟩
  | importRequest c busid => exact ⟨h, fun ha => nomatch ha⟩
  | devlistRequest c => exact ⟨h, fun ha => nomatch ha⟩
  | readOccupancy c occupancy => exact ⟨h, fun ha => nomatch ha⟩
  | advance c => exact ⟨h, fun ha => nomatch ha⟩
  | replyFails c => exact ⟨h, fun ha => nomatch ha⟩
  | disconnect c => exact ⟨h, fun ha => nomatch ha⟩
  | syncAppend opens => exact ⟨h, fun ha => nomatch ha⟩

theorem Serving.step {lasting : List String} (h : Serving s lasting)
    (hstep : step prof filter plugged s a = some t) :
    Serving t (remaining filter plugged lasting a ++ t.exported.drop s.exported.length) where
  within := (h.within.mono fun _ hx => exported_step hstep hx).step (fun _ _ hx => hx) hstep
  findable x hx := by
    rcases List.mem_append.mp hx with hx | hx
    · obtain ⟨hlasting, hcurrent⟩ := mem_remaining hx
      exact (h.findable x hlasting).step hcurrent hstep
    · exact findable_of_exported hstep hx

/-! ## After the cleanup -/

/-- Only the synchronisation begins and ends its sections. -/
theorem step_syncing (ha : a.isSync = false) (hstep : step prof filter plugged s a = some t) :
    t.syncing = s.syncing := by
  cases step_effect hstep with
  | moves hk hi hi' hs => rfl
  | releases ha hp hd hi hk hi' hs => rfl
  | takes hk hi ht => rfl
  | inserts hk hi => rfl
  | answers ha' hc hr => rfl
  | retains ha' hs =>
    subst ha'
    cases ha
  | appends ha' hs hn =>
    subst ha'
    cases ha

/-- Nothing is added any more, and what there is comes from the given bus ids. -/
structure Drained (held : String → Prop) (s : World) : Prop where
  syncing : s.syncing = none
  within : Within held s

theorem Drained.step {held : String → Prop} (h : Drained held s) (ha : a.isSync = false)
    (hstep : step prof filter plugged s a = some t) : Drained held t where
  syncing := (step_syncing ha hstep).trans h.syncing
  within := h.within.step (fun hsyncing => absurd h.syncing hsyncing) hstep

/-! ## Runs -/

/-- The server serves, or its lists hold what was in the hands of a task at the cleanup. -/
def Stopping.Sound (s : Stopping) : Prop :=
  match s.cleaned with
  | none => Serving s.world s.lasting
  | some c => c.AccountsFor s.world ∧ Drained (InHands Task.kept c.before.tasks) s.world

theorem Serving.cleaned {lasting : List String} (h : Serving s lasting) {found : List UsbDevice}
    {inventory : Inventory} (hc : s.inventory.cleanup = (found, inventory)) :
    Cleaned.AccountsFor { before := s, lasting, found } { s with inventory, syncing := none } ∧
      Drained (InHands Task.kept s.tasks) { s with inventory, syncing := none } := by
  cases hc
  have hempty : ∀ x, ¬ Listed { s with inventory := {}, syncing := none } x := by
    rintro x (hx | hx)
    · exact List.not_mem_nil hx
    · exact List.not_mem_nil hx
  refine ⟨⟨fun d hd device hdevice => ?_, fun x hx => ?_, fun x hx => ?_,
    fun x hx => absurd hx (hempty x)⟩, rfl, fun x hx => absurd hx (hempty x), fun x hx => hx⟩
  · exact List.mem_filterMap.mpr ⟨d, Inventory.mem_gather_of_mem hd, hdevice⟩
  · rcases h.findable x hx with hx | hx | hx
    · exact Or.inl (Inventory.mem_busIds_gather.mpr (Or.inl hx))
    · exact Or.inl (Inventory.mem_busIds_gather.mpr (Or.inr hx))
    · exact Or.inr hx
  · exact h.within.listed x (Inventory.mem_busIds_gather.mp hx)

theorem Stopping.Sound.step {s t : Stopping} {action : Stopping.Action} (h : s.Sound)
    (hstep : Stopping.step prof filter s action = some t) : t.Sound := by
  obtain ⟨world, lasting, cleaned⟩ := s
  cases action with
  | serve plugged a =>
    unfold Stopping.step at hstep
    dsimp only at hstep
    split at hstep
    · cases hstep
    · rename_i hserves
      obtain ⟨world', hworld, rfl⟩ := Option.map_eq_some_iff.mp hstep
      cases cleaned with
      | none => exact Serving.step h hworld
      | some c =>
        have ha : a.isSync = false := by simpa using hserves
        have hdrained := h.2.step ha hworld
        exact ⟨⟨h.1.released, h.1.found, h.1.exported, hdrained.within.listed⟩, hdrained⟩
  | cleanup =>
    unfold Stopping.step at hstep
    cases cleaned with
    | some c => cases hstep
    | none =>
      cases hstep
      exact Serving.cleaned h rfl

end Exports
end Lusbip
