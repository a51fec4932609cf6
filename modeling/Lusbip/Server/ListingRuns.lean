import Lusbip.Server.Conservation
import Lusbip.Server.Ownership

/-!
# Device lists between imports and disconnects

A device list reads the available devices first and the used ones last. A device that is used
or in between at the first read, and available or in between at the last, is exported all the
time and listed nowhere. That is the only way to miss one.
-/

namespace Lusbip
namespace Exports

open Lib.Transition

variable {prof : Profile} {filter : DeviceInfo → Bool} {plugged : List DeviceInfo} {s t : World}
  {a : Action} {x : String}

/-! ## Complete lists -/

/-- Every bus id that was exported when the list was asked for is listed once, no bus id is
    listed twice, and one that was used when the used devices were read is listed with a used
    device. -/
def Answer.Complete (prof : Profile) (answer : Answer) : Prop :=
  ∃ devices, answer.response = .opRepDevlistOf devices ∧ (busIds devices).Nodup ∧
    (∀ busId ∈ answer.exported, (busIds devices).count busId = 1) ∧
    ∀ busId ∈ busIds answer.used,
      Listing.Replaced prof answer.occupancy answer.used busId devices

def AllComplete (prof : Profile) (s : World) : Prop := ∀ answer ∈ s.answers, answer.Complete prof

/-- The bus id has moved behind a device list that did not find it available: since then it has
    been given back, or it is between the two sections of `occupy`, and it is not used. -/
def MovedBehind (s : World) (available : List UsbDevice) (busId : String) : Prop :=
  busId ∉ busIds available ∧ busId ∉ busIds s.inventory.used ∧
    (busId ∈ busIds s.inventory.available ∨ InHands Task.inserting s.tasks busId)

/-- Nothing has moved behind a device list that reads the used devices. -/
def NotOvertaken (s : World) (a : Action) : Prop :=
  ∀ c imported available exported occupancy, a = .advance c →
    s.tasks c = ⟨imported, .merging available exported occupancy⟩ →
      ∀ busId ∈ exported, ¬ MovedBehind s available busId

theorem complete_of_notOvertaken (h : Conserved filter plugged s) {c : Nat}
    {imported : Option UsbDevice} {available : List UsbDevice} {exported : List String}
    {occupancy : String → Option String} {response : UsbIpResponse}
    (hc : s.tasks c = ⟨imported, .merging available exported occupancy⟩)
    (hr : Listing.handleOpReqDevlistWithOccupancy prof available occupancy s.inventory.used =
      .ok response)
    (hmoved : ∀ busId ∈ exported, ¬ MovedBehind s available busId) :
    Answer.Complete prof
      { exported, available, occupancy, used := s.inventory.used, response } := by
  obtain ⟨devices, hresponse, hlists⟩ := Listing.handleOpReqDevlistWithOccupancy_lists hr
  refine ⟨devices, hresponse, hlists.nodup, fun busId hb => ?_, hlists.replaced⟩
  refine List.count_eq_one_of_mem hlists.nodup ((hlists.mem busId).mpr ?_)
  by_contra hnot
  obtain ⟨havail, hused⟩ := not_or.mp hnot
  -- It is in one of three places, and used is the only one that the list still sees.
  have hknown : busId ∈ s.exported := h.since c busId (by rw [hc]; exact hb)
  rcases h.placed busId hknown with hback | hinused | hhand
  · exact hmoved busId hb ⟨havail, hused, Or.inl hback⟩
  · exact hused hinused
  · exact hmoved busId hb ⟨havail, hused, Or.inr hhand⟩

theorem opRepDevlistOf_injective {devices devices' : List UsbDevice}
    (h : UsbIpResponse.opRepDevlistOf devices = UsbIpResponse.opRepDevlistOf devices') :
    devices = devices' :=
  (UsbIpResponse.opRepDevlist.inj h).2.2

/-- What has moved behind the list is not listed. -/
theorem not_complete_of_movedBehind {available : List UsbDevice} {exported : List String}
    {occupancy : String → Option String} {response : UsbIpResponse}
    (hr : Listing.handleOpReqDevlistWithOccupancy prof available occupancy s.inventory.used =
      .ok response) (hx : x ∈ exported) (hmoved : MovedBehind s available x) :
    ¬ Answer.Complete prof
      { exported, available, occupancy, used := s.inventory.used, response } := by
  rintro ⟨devices, hresponse, -, honce, -⟩
  obtain ⟨devices', hresponse', hlists⟩ := Listing.handleOpReqDevlistWithOccupancy_lists hr
  obtain rfl : devices' = devices :=
    opRepDevlistOf_injective (hresponse'.symm.trans hresponse)
  have hmem : x ∈ busIds devices' := List.count_pos_iff.mp (by rw [honce x hx]; decide)
  exact ((hlists.mem x).mp hmem).elim hmoved.1 hmoved.2.1

/-- Only the end of a device list adds to what was sent. -/
theorem answers_step (hstep : step prof filter plugged s a = some t) :
    t.answers = s.answers ∨
      ∃ c imported available exported occupancy response, a = .advance c ∧
        s.tasks c = ⟨imported, .merging available exported occupancy⟩ ∧
        Listing.handleOpReqDevlistWithOccupancy prof available occupancy s.inventory.used =
          .ok response ∧
        t.answers = s.answers ++
          [{ exported, available, occupancy, used := s.inventory.used, response }] := by
  cases step_effect hstep with
  | answers ha hc hr => exact Or.inr ⟨_, _, _, _, _, _, ha, hc, hr, rfl⟩
  | appends ha hs hn => exact Or.inl rfl
  | moves hk hi hi' hs => exact Or.inl rfl
  | releases ha hp hd hi hk hi' hs => exact Or.inl rfl
  | takes hk hi ht => exact Or.inl rfl
  | inserts hk hi => exact Or.inl rfl
  | retains ha hs => exact Or.inl rfl

theorem allComplete_step (h : Conserved filter plugged s) (hall : AllComplete prof s)
    (ha : NotOvertaken s a) (hstep : step prof filter plugged s a = some t) :
    AllComplete prof t := by
  intro answer hanswer
  rcases answers_step hstep with hsame | ⟨c, _, _, _, _, _, rfl, hc, hr, hadd⟩
  · exact hall answer (hsame ▸ hanswer)
  · rw [hadd] at hanswer
    rcases List.mem_append.mp hanswer with hold | hnew
    · exact hall answer hold
    · rw [List.mem_singleton.mp hnew]
      exact complete_of_notOvertaken h hc hr (ha c _ _ _ _ rfl hc)

theorem notOvertaken_of_allComplete (hstep : step prof filter plugged s a = some t)
    (hall : AllComplete prof t) : NotOvertaken s a := by
  rintro c imported available exported occupancy rfl hc busId hb hmoved
  rcases answers_step hstep with hsame | ⟨c', _, _, _, _, _, hcc, hc', hr, hadd⟩
  · -- The step that ends a device list does add to what was sent.
    have hstep' : advance prof s c = some t := hstep
    unfold advance at hstep'
    rw [hc] at hstep'
    dsimp only at hstep'
    split at hstep'
    · cases hstep'
      exact absurd hsame (by simp)
    · cases hstep'
  · cases hcc
    rw [hc] at hc'
    cases hc'
    refine not_complete_of_movedBehind hr hb hmoved (hall _ ?_)
    rw [hadd]
    exact List.mem_append_right _ (List.mem_singleton_self _)

/-- **When a device list is complete.** In every run, `exported` is what is exported; and every
    device list that is sent is complete if and only if no exported bus id moves behind a
    device list between its first and its last read. -/
theorem allComplete_iff_notOvertaken (prof : Profile) (filter : DeviceInfo → Bool)
    (plugged : List DeviceInfo) (initial : Initial filter plugged) (acts : List Action) :
    Throughout (step prof filter plugged)
        (fun s => ∀ busId, busId ∈ s.exported ↔ Exported s busId) (init initial) acts ∧
      (Throughout (step prof filter plugged) (AllComplete prof) (init initial) acts ↔
        Along (step prof filter plugged) NotOvertaken (init initial) acts) := by
  constructor
  · exact throughout_of_step (fun s a t h hstep => h.step hstep) (fun s h => h.exported) acts
      (conserved_init initial)
  · refine throughout_iff_along
      (I := fun s => Conserved filter plugged s ∧ AllComplete prof s)
      (fun s a t h ha hstep => ⟨h.1.step hstep, allComplete_step h.1 h.2 ha hstep⟩)
      (fun s h => h.2) (fun s a t h hstep hall => notOvertaken_of_allComplete hstep hall)
      ⟨conserved_init initial, fun _ h => absurd h List.not_mem_nil⟩

/-! ## A disconnect behind a device list -/

/-- The stick at port `1-1`. -/
def oneStick : Initial (fun _ => true) [Ownership.stick 1] where
  devices := [{ busId := "1-1" }]
  plugged := by decide +kernel

/-- Client 0 has the stick when client 1's device list reads the available devices, and has
    given it back when the device list reads the used ones. -/
def disconnectDuringList : List Action :=
  [.importRequest 0 Ownership.port11, .advance 0, .advance 0, .advance 0, .devlistRequest 1,
   .disconnect 0, .advance 0, .readOccupancy 1 fun _ => none, .advance 1]

/-- **The stick is exported all the time and listed nowhere.** -/
theorem disconnectDuringList_not_complete :
    ¬ Throughout (step .release (fun _ => true) [Ownership.stick 1]) (AllComplete .release)
      (init oneStick) disconnectDuringList := by
  have hrun : ((run (step .release (fun _ => true) [Ownership.stick 1]) (init oneStick)
      disconnectDuringList).any fun t => t.answers.any fun answer =>
        decide ("1-1" ∈ answer.exported) &&
          decide (answer.response = .opRepDevlistOf [])) = true := by decide +kernel
  obtain ⟨t, ht, hend⟩ := (Option.any_eq_true _ _).mp hrun
  obtain ⟨answer, hanswer, hend⟩ := List.any_eq_true.mp hend
  obtain ⟨hexported, hresponse⟩ := Bool.and_eq_true_iff.mp hend
  intro hall
  obtain ⟨devices, hdevices, -, honce, -⟩ := hall.of_run ht answer hanswer
  obtain rfl : [] = devices :=
    opRepDevlistOf_injective ((of_decide_eq_true hresponse).symm.trans hdevices)
  exact absurd (honce "1-1" (of_decide_eq_true hexported)) (by decide)

end Exports
end Lusbip
