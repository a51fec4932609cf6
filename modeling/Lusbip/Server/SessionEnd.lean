import Lusbip.Server.Occupancy

/-!
# What a finished session leaves behind

One connection, from its first command to the end of its task, with no other connection
around. The task gives up in three places: the read error arm of `handler`, the error arm of
an import, and, after any other failed write, the code behind `handler`. All three know the
device that is imported *now*. Between an import's reply and the clearing of the previous
entry that is not enough: the entry of the previous device is still there, and the task no
longer knows its bus id.
-/

namespace Lusbip
namespace Occupancy

open Lib.Transition

/-- The server with connection `c` alone. -/
def alone (c : Nat) (s : World) (a : Action) : Option World :=
  if a.connection = c then step s a else none

/-- **Nothing is left behind**: no entry names the peer, and no device is in use. -/
def Clean (c : Nat) (s : World) : Prop :=
  (∀ busId, s.occupancy busId ≠ some c) ∧ s.inventory.used = []

/-- A reply to an import that cannot be written had no device before it, or the same. -/
def FailsOnlyUnchanged (s : World) (a : Action) : Prop :=
  ∀ c imported previous, a = .replyFails c → s.phase c = .replying imported previous →
    previous = none ∨ imported.map (·.busId) = previous

/-! ## Entries the task accounts for -/

structure Accounted (c : Nat) (s : World) : Prop where
  custody : Custody s
  others : ∀ c', c' ≠ c → s.phase c' = .idle none
  named : ∀ busId, s.occupancy busId = some c → (s.phase c).names = some busId
  present : (s.phase c).Keeping → ∀ busId, (s.phase c).names = some busId →
    s.occupancy busId = some c

/-- The task is on its way out and has forgotten one of its entries. -/
def Leaked (c : Nat) (s : World) : Prop :=
  ∃ busId, s.occupancy busId = some c ∧
    ((∃ d, s.phase c = .dropping d true ∧ d.busId ≠ busId) ∨
      (∃ d, s.phase c = .returning d true) ∨ s.phase c = .ended)

variable {c : Nat} {s t : World} {a : Action}

theorem accounted_init (exported : Exported) : Accounted c (init exported) where
  custody := custody_init exported
  others _ _ := rfl
  named _ h := (nomatch h)
  present _ _ h := (nomatch h)

theorem step_of_alone (h : alone c s a = some t) : a.connection = c ∧ step s a = some t := by
  unfold alone at h
  split at h
  · rename_i hc
    exact ⟨hc, h⟩
  · cases h

/-- A step that does not touch the map, to a phase with the same names. -/
theorem Accounted.of_names (h : Accounted c s) (hcustody : Custody t)
    (hoccupancy : t.occupancy = s.occupancy) (hothers : ∀ c', c' ≠ c → t.phase c' = s.phase c')
    (hp : (s.phase c).Keeping) (hn : (t.phase c).names = (s.phase c).names) : Accounted c t where
  custody := hcustody
  others c' hc' := (hothers c' hc').trans (h.others c' hc')
  named busId hb := by
    rw [hn]
    exact h.named busId (hoccupancy ▸ hb)
  present _ busId hb := by
    rw [hoccupancy]
    exact h.present hp busId (hn ▸ hb)

/-- The entry of the one device that the task names is cleared, and the task names it no more. -/
theorem Accounted.clear {phase : Phase} {busId : String} (h : Accounted c s)
    (hcustody : Custody ((s.clearOccupancy busId).goto c phase))
    (hnames : (s.phase c).names = some busId) (hphase : phase.names = none) :
    Accounted c ((s.clearOccupancy busId).goto c phase) where
  custody := hcustody
  others c' hc' := (World.goto_phase_of_ne _ hc' _).trans (h.others c' hc')
  named busId' hb := by
    by_cases hbus : busId' = busId
    · rw [hbus] at hb
      simp [World.goto, World.clearOccupancy] at hb
    · have hold := h.named busId' (by simpa [World.goto, World.clearOccupancy, hbus] using hb)
      rw [hnames] at hold
      exact absurd (Option.some.inj hold).symm hbus
  present _ busId' hb := by
    rw [World.goto_phase_self, hphase] at hb
    cases hb

theorem Accounted.step (h : Accounted c s) (ha : FailsOnlyUnchanged s a)
    (halone : alone c s a = some t) : Accounted c t := by
  obtain ⟨rfl, hstep⟩ := step_of_alone halone
  have hcustody := h.custody.step hstep
  have hothers : ∀ c', c' ≠ a.connection → t.phase c' = s.phase c' := by
    intro c' hc'
    cases step_effect hstep <;> exact World.goto_phase_of_ne _ hc' _
  cases step_effect hstep with
  | moves hf =>
    exact h.of_names hcustody rfl hothers hf.keeping (by rw [World.goto_phase_self, hf.names])
  | releases hd hp hk hn =>
    exact h.of_names hcustody rfl hothers hp (by rw [World.goto_phase_self, hn])
  | occupies hc ho =>
    exact h.of_names hcustody rfl hothers (by rw [hc]; trivial)
      (by rw [World.goto_phase_self, hc]; rfl)
  | @fails imported previous hadv hc =>
    -- A connection is named by the occupancy only for what it has imported last.
    have hnames : ∀ busId, s.occupancy busId = some a.connection → previous = some busId := by
      intro busId hb
      have := h.named busId hb
      rwa [hc] at this
    refine
      { custody := hcustody
        others := fun c' hc' => (hothers c' hc').trans (h.others c' hc')
        named := fun busId hb => ?_
        present := fun hk => ?_ }
    · have hprevious := hnames busId hb
      -- The reply fails while nothing has changed, so what is named is still imported.
      rcases ha _ imported previous hadv hc with hnone | hsame
      · rw [hnone] at hprevious
        cases hprevious
      · rw [World.goto_phase_self]
        rw [hprevious] at hsame
        cases imported with
        | none => cases hsame
        | some d => exact hsame
    · rw [World.goto_phase_self] at hk ⊢
      cases imported with
      | none => exact fun busId hb => (nomatch hb)
      | some d => exact absurd hk id
  | clears hadv hc =>
    exact h.clear hcustody (by rw [hc]; rfl) (Phase.names_afterClear _)
  | drops hc => exact h.clear hcustody (by rw [hc]; rfl) rfl
  | @sets d hc =>
    refine
      { custody := hcustody
        others := fun c' hc' => (hothers c' hc').trans (h.others c' hc')
        named := fun busId hb => ?_
        present := fun _ busId hb => ?_ }
    · rw [World.goto_phase_self]
      -- The name is written for this device, and any other one was written before.
      by_cases hbus : busId = d.busId
      · rw [hbus]
        rfl
      · have hold := h.named busId (by simpa [World.goto, World.setOccupancy, hbus] using hb)
        rw [hc] at hold
        cases hold
    · rw [World.goto_phase_self] at hb
      cases hb
      simp [World.goto, World.setOccupancy]

/-! ## A leak stays -/

/-- A reply that fails while the previous entry stands, and the task no longer has that
    device, leaks the entry. -/
theorem Accounted.leaked (h : Accounted c s) (ha : ¬ FailsOnlyUnchanged s a)
    (halone : alone c s a = some t) : Leaked c t := by
  obtain ⟨rfl, hstep⟩ := step_of_alone halone
  unfold FailsOnlyUnchanged at ha
  push Not at ha
  obtain ⟨c', imported, previous, rfl, hc, hsome, hne⟩ := ha
  have hc : s.phase c' = .replying imported previous := hc
  have ht : t = s.goto c' (.leave imported) := by
    unfold Occupancy.step at hstep
    dsimp only at hstep
    rw [hc] at hstep
    exact (Option.some.inj hstep).symm
  obtain ⟨busId, rfl⟩ := Option.ne_none_iff_exists'.mp hsome
  have hentry : s.occupancy busId = some c' :=
    h.present (show (s.phase c').Keeping by rw [hc]; trivial) busId
      (show (s.phase c').names = some busId by rw [hc]; rfl)
  refine ⟨busId, by rw [ht]; exact hentry, ?_⟩
  subst ht
  show (∃ d, (s.goto c' (.leave imported)).phase c' = _ ∧ _) ∨ _
  cases imported with
  | none => exact Or.inr (Or.inr (World.goto_phase_self ..))
  | some d =>
    refine Or.inl ⟨d, World.goto_phase_self .., fun heq => hne ?_⟩
    rw [← heq]
    rfl

theorem step_dropping {d : UsbDevice} {last : Bool} (hc : s.phase a.connection = .dropping d last)
    (h : step s a = some t) :
    t = (s.clearOccupancy d.busId).goto a.connection (.returning d last) := by
  cases a <;> simp only [Action.connection] at hc ⊢ <;> simp [step, advance, hc] at h
  exact h.symm

theorem step_returning {d : UsbDevice} {last : Bool}
    (hc : s.phase a.connection = .returning d last) (h : step s a = some t) :
    t = (s.withInventory (s.inventory.release d)).goto a.connection (.afterReturn last) := by
  cases a <;> simp only [Action.connection] at hc ⊢ <;> simp [step, advance, hc] at h
  exact h.symm

theorem step_ended (hc : s.phase a.connection = .ended) : step s a = none := by
  cases a <;> simp only [Action.connection] at hc <;> simp [step, advance, hc]

theorem Leaked.step (h : Leaked c s) (halone : alone c s a = some t) : Leaked c t := by
  obtain ⟨rfl, hstep⟩ := step_of_alone halone
  obtain ⟨busId, hentry, ⟨d, hc, hne⟩ | ⟨d, hc⟩ | hc⟩ := h
  · have ht := step_dropping hc hstep
    refine ⟨busId, ?_, Or.inr (Or.inl ⟨d, ?_⟩)⟩
    · rw [ht]
      show Function.update s.occupancy d.busId none busId = _
      rwa [Function.update_of_ne (Ne.symm hne)]
    · rw [ht, World.goto_phase_self]
  · have ht := step_returning hc hstep
    refine ⟨busId, ?_, Or.inr (Or.inr ?_)⟩
    · rw [ht]
      exact hentry
    · rw [ht, World.goto_phase_self]
      rfl
  · rw [step_ended hc] at hstep
    cases hstep

/-! ## The end of the task -/

theorem Accounted.clean (h : Accounted c s) (hc : s.phase c = .ended) : Clean c s := by
  refine ⟨fun busId hb => ?_, List.eq_nil_iff_forall_not_mem.mpr fun u hu => ?_⟩
  · have hnames := h.named busId hb
    rw [hc] at hnames
    cases hnames
  · obtain ⟨c', d, hd, -⟩ := h.custody.used_kept u hu
    by_cases hcc : c' = c
    · rw [hcc, hc] at hd
      cases hd
    · rw [h.others c' hcc] at hd
      cases hd

/-- **When a session leaves nothing behind.** A session that has come to its end, in any of
    the ways `handler` returns, has left neither an entry of its peer nor a used device if and
    only if no reply to an import failed while another device's entry stood. -/
theorem clean_iff_failsOnlyUnchanged (exported : Exported) (c : Nat) (acts : List Action)
    (t : World) (hrun : run (alone c) (init exported) acts = some t)
    (hend : t.phase c = .ended) :
    Clean c t ↔ Along (alone c) FailsOnlyUnchanged (init exported) acts := by
  refine along_iff_of_run (I := Accounted c) (B := Leaked c)
    (fun s a t h ha hstep => h.step ha hstep) (fun s a t h ha hstep => h.leaked ha hstep)
    (fun s a t h hstep => h.step hstep) (accounted_init exported) hrun
    (fun h => h.clean hend) ?_
  rintro ⟨busId, hentry, -⟩ hclean
  exact hclean.1 busId hentry

/-- A client imports `1-1`, then `1-2`, and closes the connection. -/
def importTwiceAndClose : List Action :=
  [.importRequest 0 (portBytes 0x31), .advance 0, .advance 0, .advance 0,
   .importRequest 0 (portBytes 0x32), .advance 0, .advance 0, .advance 0, .advance 0,
   .advance 0, .disconnect 0, .advance 0, .advance 0]

theorem importTwiceAndClose_clean :
    ∃ t, run (alone 0) (init twoDevices) importTwiceAndClose = some t ∧ t.phase 0 = .ended ∧
      (Clean 0 t ↔ Along (alone 0) FailsOnlyUnchanged (init twoDevices) importTwiceAndClose) := by
  have hrun : ((run (alone 0) (init twoDevices) importTwiceAndClose).any fun t =>
      t.phase 0 = .ended) = true := by decide +kernel
  obtain ⟨t, ht, hend⟩ := (Option.any_eq_true _ _).mp hrun
  have hend := of_decide_eq_true hend
  exact ⟨t, ht, hend, clean_iff_failsOnlyUnchanged twoDevices 0 _ t ht hend⟩

/-- A client imports `1-1`, then `1-2`, and is gone before the second reply is written. -/
def secondReplyFails : List Action :=
  [.importRequest 0 (portBytes 0x31), .advance 0, .advance 0, .advance 0,
   .importRequest 0 (portBytes 0x32), .advance 0, .advance 0, .replyFails 0, .advance 0,
   .advance 0]

/-- **A session can leave an entry behind**: the task has ended, and its peer is still on
    record for `1-1`, which is available. -/
theorem secondReplyFails_not_clean :
    ¬ ∀ t, run (alone 0) (init twoDevices) secondReplyFails = some t → t.phase 0 = .ended →
      Clean 0 t := by
  have hrun : ((run (alone 0) (init twoDevices) secondReplyFails).any fun t =>
      t.phase 0 = .ended ∧ t.occupancy "1-1" = some 0) = true := by decide +kernel
  obtain ⟨t, ht, hend⟩ := (Option.any_eq_true _ _).mp hrun
  obtain ⟨hphase, hentry⟩ := of_decide_eq_true hend
  exact fun h => (h t ht hphase).1 "1-1" hentry

end Occupancy
end Lusbip
