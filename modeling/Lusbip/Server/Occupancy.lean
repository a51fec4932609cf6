import Mathlib.Logic.Function.Basic
import Lusbip.Lib.Transition
import Lusbip.Server.Inventory

/-!
# The occupancy map

Next to the inventory the server keeps a map from bus ids to the peer that has imported the
device. No lock spans the two: an import releases, occupies, writes its reply, clears and
sets in separate steps, and other connections run in between. `Phase` is how far a
connection's task has got, and each of its steps ends at an `await`.

The set of plugged devices is fixed. A connection is a number, which stands for its peer
address as well.
-/

namespace Lusbip
namespace Occupancy

open Lib.Transition

/-- Where the task of a connection is, with what it has in its hands. -/
inductive Phase where
  /-- Waiting for a command or serving one that is not an import. -/
  | idle (imported : Option UsbDevice)
  /-- `handle_op_req_import` is about to release the previous device. -/
  | releasing (busId : String) (dev : UsbDevice)
  | occupying (busId : String) (previous : Option String)
  /-- The reply to the import is being written. -/
  | replying (imported : Option UsbDevice) (previous : Option String)
  /-- About to clear the entry of the previous bus id. -/
  | clearing (imported : Option UsbDevice) (previous : String)
  /-- About to set the entry of the imported device. -/
  | setting (imported : UsbDevice)
  /-- The device has been taken out of `imported_device`; its entry goes first. -/
  | dropping (dev : UsbDevice) (last : Bool)
  | returning (dev : UsbDevice) (last : Bool)
  | ended
  deriving DecidableEq

namespace Phase

/-- `imported_device` -/
def imported : Phase → Option UsbDevice
  | .idle imported => imported
  | .replying imported _ => imported
  | .clearing imported _ => imported
  | .setting dev => some dev
  | _ => none

/-- The device the task is responsible for, whether or not it is still imported. -/
def kept : Phase → Option UsbDevice
  | .idle imported => imported
  | .releasing _ dev => some dev
  | .occupying _ _ => none
  | .replying imported _ => imported
  | .clearing imported _ => imported
  | .setting dev => some dev
  | .dropping dev _ => some dev
  | .returning dev _ => some dev
  | .ended => none

/-- The bus id under which the task may have an entry in the occupancy map. -/
def names : Phase → Option String
  | .idle imported => imported.map (·.busId)
  | .releasing _ dev => some dev.busId
  | .occupying _ previous => previous
  | .replying _ previous => previous
  | .clearing _ previous => some previous
  | .setting _ => none
  | .dropping dev _ => some dev.busId
  | .returning _ _ => none
  | .ended => none

/-- The start of an import: an ill-formed bus id drops the device, a well-formed one has the
    previous device released first. -/
def beginImport (busid : List UInt8) (imported : Option UsbDevice) : Phase :=
  match parseBusId busid, imported with
  | some busId, some dev => .releasing busId dev
  | some busId, none => .occupying busId none
  | none, some dev => .dropping dev false
  | none, none => .idle none

/-- After the clearing. -/
def afterClear : Option UsbDevice → Phase
  | some dev => .setting dev
  | none => .idle none

/-- After the reply has been written. -/
def afterReply (imported : Option UsbDevice) : Option String → Phase
  | some previous => .clearing imported previous
  | none => afterClear imported

/-- `handler` has returned or is about to: whatever is imported is given up. -/
def leave : Option UsbDevice → Phase
  | some dev => .dropping dev true
  | none => .ended

/-- After the device has been given back. -/
def afterReturn (last : Bool) : Phase := if last then .ended else .idle none

end Phase

/-- The lists of the server, the occupancy map, and where the task of each connection is. -/
structure World where
  inventory : Inventory
  occupancy : String → Option Nat := fun _ => none
  phase : Nat → Phase := fun _ => .idle none

/-- What happens next. A task can be stopped at every `await`, where its client may go. -/
inductive Action where
  /-- A client's `OP_REQ_IMPORT` is dispatched. -/
  | importRequest (connection : Nat) (busid : List UInt8)
  /-- The task runs to its next `await`, without an error. -/
  | advance (connection : Nat)
  /-- The reply to the import cannot be written. -/
  | replyFails (connection : Nat)
  /-- The stream ends, is ill-formed, or another write fails. -/
  | disconnect (connection : Nat)
  deriving DecidableEq

/-- The connection that an action is about. -/
def Action.connection : Action → Nat
  | .importRequest c _ => c
  | .advance c => c
  | .replyFails c => c
  | .disconnect c => c

namespace World

/-- The task of a connection goes on to a phase. -/
def goto (s : World) (c : Nat) (phase : Phase) : World :=
  { s with phase := Function.update s.phase c phase }

@[simp] theorem goto_phase_self (s : World) (c : Nat) (phase : Phase) :
    (s.goto c phase).phase c = phase := Function.update_self ..

@[simp] theorem goto_phase_of_ne (s : World) {c c' : Nat} (h : c' ≠ c) (phase : Phase) :
    (s.goto c phase).phase c' = s.phase c' := Function.update_of_ne h ..

/-- `clear_occupancy` -/
def clearOccupancy (s : World) (busId : String) : World :=
  { s with occupancy := Function.update s.occupancy busId none }

/-- `set_occupancy` -/
def setOccupancy (s : World) (busId : String) (peer : Nat) : World :=
  { s with occupancy := Function.update s.occupancy busId (some peer) }

/-- The lists are changed. -/
def withInventory (s : World) (inv : Inventory) : World := { s with inventory := inv }

end World

/-- One step of a task that is not waiting for its client. -/
def advance (s : World) (c : Nat) : Option World :=
  match s.phase c with
  | .idle _ => none
  | .releasing busId dev =>
      some ((s.withInventory (s.inventory.release dev)).goto c (.occupying busId (some dev.busId)))
  | .occupying busId previous =>
      match s.inventory.occupy busId with
      | .ok (dev, inv) => some ((s.withInventory inv).goto c (.replying (some dev) previous))
      | .error _ => some (s.goto c (.replying none previous))
  | .replying imported previous => some (s.goto c (.afterReply imported previous))
  | .clearing imported previous =>
      some ((s.clearOccupancy previous).goto c (.afterClear imported))
  | .setting dev => some ((s.setOccupancy dev.busId c).goto c (.idle (some dev)))
  | .dropping dev last => some ((s.clearOccupancy dev.busId).goto c (.returning dev last))
  | .returning dev last =>
      some ((s.withInventory (s.inventory.release dev)).goto c (.afterReturn last))
  | .ended => none

/-- The tasks go on in any order, each by one locked section at a time. -/
def step (s : World) : Action → Option World
  | .importRequest c busid =>
      match s.phase c with
      | .idle imported => some (s.goto c (.beginImport busid imported))
      | _ => none
  | .advance c => advance s c
  | .replyFails c =>
      match s.phase c with
      | .replying imported _ => some (s.goto c (.leave imported))
      | _ => none
  | .disconnect c =>
      match s.phase c with
      | .idle imported => some (s.goto c (.leave imported))
      | _ => none

/-- The devices the server starts with: one for each bus id. -/
structure Exported where
  devices : List UsbDevice
  nodup : (busIds devices).Nodup

/-- The devices that are exported at the start are available, and nobody has any. -/
def init (exported : Exported) : World where
  inventory := { available := exported.devices }

/-- **Recorded**: a connection that has an import and has finished the command is the
    occupant on record. -/
def Recorded (s : World) : Prop :=
  ∀ c d, s.phase c = .idle (some d) → s.occupancy d.busId = some c

/-- The step leaves the entries alone that stand for what other connections have imported. -/
def KeepsOthers (s : World) (a : Action) : Prop :=
  ∀ t, step s a = some t → ∀ c d, c ≠ a.connection → (s.phase c).imported = some d →
    ∀ peer, s.occupancy d.busId = some peer → t.occupancy d.busId = some peer

/-- The step does not clear the entry of a bus id that another connection has imported. -/
def ClearsOwn (s : World) (a : Action) : Prop :=
  ∀ c imported previous, a = .advance c → s.phase c = .clearing imported previous →
    s.occupancy previous ≠ none →
    ∀ c' d, c' ≠ c → (s.phase c').imported = some d → d.busId ≠ previous

/-! ## Custody

Every used device is kept by one connection, and no two connections keep devices with the
same bus id. Clearing and setting play no part in it. -/

/-- Whose the devices in use are: each is held by one task, and each task that holds one has it in
    use. -/
structure Custody (s : World) : Prop where
  tidy : s.inventory.Tidy
  kept_used : ∀ c d, (s.phase c).kept = some d → d.busId ∈ busIds s.inventory.used
  used_kept : ∀ u ∈ s.inventory.used, ∃ c d, (s.phase c).kept = some d ∧ d.busId = u.busId
  exclusive : ∀ c c' d d', (s.phase c).kept = some d → (s.phase c').kept = some d' →
    d.busId = d'.busId → c = c'

variable {s t : World} {a : Action} {c : Nat} {d : UsbDevice}

theorem Phase.kept_of_imported {p : Phase} (h : p.imported = some d) : p.kept = some d := by
  cases p <;> first | exact h | cases h

theorem custody_init (exported : Exported) : Custody (init exported) where
  tidy := ⟨exported.nodup, List.nodup_nil, fun _ _ _ h => (nomatch h)⟩
  kept_used _ _ h := (nomatch h)
  used_kept _ h := (nomatch h)
  exclusive _ _ _ _ h := (nomatch h)

theorem kept_goto {phase : Phase} {c' : Nat} :
    ((s.goto c phase).phase c').kept = some d ↔
      (c' = c ∧ phase.kept = some d) ∨ (c' ≠ c ∧ (s.phase c').kept = some d) := by
  by_cases h : c' = c
  · subst h
    simp
  · simp [h]

/-- A step between two awaits that neither takes nor gives back a device. -/
theorem Custody.goto (h : Custody s) {phase : Phase} (hk : phase.kept = (s.phase c).kept) :
    Custody (s.goto c phase) := by
  have hsame : ∀ {c' d}, ((s.goto c phase).phase c').kept = some d ↔
      (s.phase c').kept = some d := by
    intro c' d
    rw [kept_goto, hk]
    by_cases hc : c' = c
    · subst hc
      simp
    · simp [hc]
  exact
    { tidy := h.tidy
      kept_used := fun c' d hd => h.kept_used c' d (hsame.mp hd)
      used_kept := fun u hu =>
        have ⟨c', d, hd, hb⟩ := h.used_kept u hu
        ⟨c', d, hsame.mpr hd, hb⟩
      exclusive := fun c₁ c₂ d₁ d₂ h₁ h₂ => h.exclusive c₁ c₂ d₁ d₂ (hsame.mp h₁) (hsame.mp h₂) }

/-- Custody is not about the occupancy map. -/
theorem Custody.withOccupancy (h : Custody s) (occupancy : String → Option Nat) :
    Custody { s with occupancy := occupancy } :=
  ⟨h.tidy, h.kept_used, h.used_kept, h.exclusive⟩

/-- Giving back the device kept. -/
theorem Custody.release (h : Custody s) (hd : (s.phase c).kept = some d) {phase : Phase}
    (hk : phase.kept = none) :
    Custody ((s.withInventory (s.inventory.release d)).goto c phase) := by
  have hother : ∀ {c' e}, (((s.withInventory (s.inventory.release d)).goto c phase).phase c').kept
      = some e → c' ≠ c ∧ (s.phase c').kept = some e := by
    intro c' e he
    rcases kept_goto.mp he with ⟨-, hnone⟩ | he
    · rw [hk] at hnone
      cases hnone
    · exact he
  refine ⟨h.tidy.release d, fun c' e he => ?_, fun u hu => ?_, fun c₁ c₂ d₁ d₂ h₁ h₂ => ?_⟩
  · obtain ⟨hc, he⟩ := hother he
    obtain ⟨u, hu, hub⟩ := mem_busIds.mp (h.kept_used c' e he)
    refine mem_busIds.mpr ⟨u, Inventory.mem_release_used.mpr ⟨hu, fun hud => ?_⟩, hub⟩
    exact hc (h.exclusive c' c e d he hd (hub.symm.trans hud))
  · obtain ⟨hu, hne⟩ := Inventory.mem_release_used.mp hu
    obtain ⟨c', e, he, heb⟩ := h.used_kept u hu
    refine ⟨c', e, kept_goto.mpr (Or.inr ⟨?_, he⟩), heb⟩
    rintro rfl
    rw [hd, Option.some.injEq] at he
    exact hne (he ▸ heb.symm)
  · exact h.exclusive c₁ c₂ d₁ d₂ (hother h₁).2 (hother h₂).2

/-- Taking a device that was available. -/
theorem Custody.occupy (h : Custody s) (hc : (s.phase c).kept = none) {busId : String}
    {inv : Inventory} (ho : Inventory.Occupied s.inventory busId d inv) {phase : Phase}
    (hk : phase.kept = some d) : Custody ((s.withInventory inv).goto c phase) := by
  have hnew : ∀ {c' e}, (s.phase c').kept = some e → e.busId ≠ d.busId := by
    intro c' e he heq
    obtain ⟨u, hu, hub⟩ := mem_busIds.mp (h.kept_used c' e he)
    exact h.tidy.disjoint d ho.mem u hu (heq.symm.trans hub.symm)
  have hcases : ∀ {c' e}, (((s.withInventory inv).goto c phase).phase c').kept = some e →
      (c' = c ∧ e = d) ∨ (s.phase c').kept = some e := by
    intro c' e he
    rcases kept_goto.mp he with ⟨hcc, he⟩ | ⟨-, he⟩
    · rw [hk, Option.some.injEq] at he
      exact Or.inl ⟨hcc, he.symm⟩
    · exact Or.inr he
  have hused : ∀ u, u ∈ inv.used ↔ u ∈ s.inventory.used ∨ u = d := by
    intro u
    rw [ho.used, List.mem_append, List.mem_singleton]
  refine ⟨ho.tidy, fun c' e he => ?_, fun u hu => ?_, fun c₁ c₂ d₁ d₂ h₁ h₂ heq => ?_⟩
  · rcases hcases he with ⟨-, rfl⟩ | he
    · exact mem_busIds.mpr ⟨e, (hused e).mpr (Or.inr rfl), rfl⟩
    · obtain ⟨u, hu, hub⟩ := mem_busIds.mp (h.kept_used c' e he)
      exact mem_busIds.mpr ⟨u, (hused u).mpr (Or.inl hu), hub⟩
  · rcases (hused u).mp hu with hu | rfl
    · obtain ⟨c', e, he, heb⟩ := h.used_kept u hu
      refine ⟨c', e, kept_goto.mpr (Or.inr ⟨?_, he⟩), heb⟩
      rintro rfl
      rw [hc] at he
      cases he
    · exact ⟨c, u, kept_goto.mpr (Or.inl ⟨rfl, hk⟩), rfl⟩
  · rcases hcases h₁ with ⟨rfl, rfl⟩ | hi₁
    · rcases hcases h₂ with ⟨rfl, -⟩ | hi₂
      · rfl
      · exact absurd heq.symm (hnew hi₂)
    · rcases hcases h₂ with ⟨rfl, rfl⟩ | hi₂
      · exact absurd heq (hnew hi₁)
      · exact h.exclusive c₁ c₂ d₁ d₂ hi₁ hi₂ heq

/-! ## What a step of a connection can do -/

/-- The phases in which the task's entry is certain to be there: until it gives up. -/
def Phase.Keeping : Phase → Prop
  | .dropping _ _ => False
  | _ => True

/-- The task goes on with what it has, and does not come to rest with a device. -/
structure Phase.Follows (p q : Phase) : Prop where
  keeping : p.Keeping
  kept : q.kept = p.kept
  names : q.names = p.names
  not_idle : ∀ d, q ≠ .idle (some d)

/-- What an action can come to. -/
inductive Effect (s : World) (a : Action) : World → Prop where
  | moves {phase : Phase} (hf : (s.phase a.connection).Follows phase) :
      Effect s a (s.goto a.connection phase)
  /-- The reply to an import is not written, and the task gives up. -/
  | fails {imported : Option UsbDevice} {previous : Option String}
      (ha : a = .replyFails a.connection) (hc : s.phase a.connection = .replying imported previous) :
      Effect s a (s.goto a.connection (.leave imported))
  | releases {d : UsbDevice} {phase : Phase} (hd : (s.phase a.connection).kept = some d)
      (hp : (s.phase a.connection).Keeping) (hk : phase.kept = none)
      (hn : phase.names = (s.phase a.connection).names) :
      Effect s a ((s.withInventory (s.inventory.release d)).goto a.connection phase)
  | occupies {busId : String} {d : UsbDevice} {inv : Inventory} {previous : Option String}
      (hc : s.phase a.connection = .occupying busId previous)
      (ho : s.inventory.occupy busId = .ok (d, inv)) :
      Effect s a ((s.withInventory inv).goto a.connection (.replying (some d) previous))
  /-- The entry of the previous import is cleared. -/
  | clears {imported : Option UsbDevice} {previous : String} (ha : a = .advance a.connection)
      (hc : s.phase a.connection = .clearing imported previous) :
      Effect s a ((s.clearOccupancy previous).goto a.connection (.afterClear imported))
  /-- The entry of a device that is given up is cleared. -/
  | drops {d : UsbDevice} {last : Bool} (hc : s.phase a.connection = .dropping d last) :
      Effect s a ((s.clearOccupancy d.busId).goto a.connection (.returning d last))
  | sets {d : UsbDevice} (hc : s.phase a.connection = .setting d) :
      Effect s a
        ((s.setOccupancy d.busId a.connection).goto a.connection (.idle (some d)))

theorem Phase.follows_beginImport (busid : List UInt8) (imported : Option UsbDevice) :
    (Phase.idle imported).Follows (beginImport busid imported) := by
  unfold beginImport
  cases parseBusId busid <;> cases imported <;> exact ⟨trivial, rfl, rfl, fun d h => by cases h⟩

theorem Phase.kept_leave (imported : Option UsbDevice) : (leave imported).kept = imported := by
  cases imported <;> rfl

theorem Phase.follows_leave (imported : Option UsbDevice) :
    (Phase.idle imported).Follows (leave imported) := by
  cases imported <;> exact ⟨trivial, rfl, rfl, fun d h => by cases h⟩

theorem Phase.kept_afterClear (imported : Option UsbDevice) :
    (afterClear imported).kept = imported := by
  cases imported <;> rfl

theorem Phase.names_afterClear (imported : Option UsbDevice) :
    (afterClear imported).names = none := by
  cases imported <;> rfl

theorem Phase.afterClear_ne_idle (imported : Option UsbDevice) (d : UsbDevice) :
    afterClear imported ≠ .idle (some d) := by
  cases imported <;> exact fun h => by cases h

theorem Phase.follows_afterReply (imported : Option UsbDevice) (previous : Option String) :
    (Phase.replying imported previous).Follows (afterReply imported previous) := by
  cases previous with
  | none =>
    exact ⟨trivial, kept_afterClear imported, names_afterClear imported,
      afterClear_ne_idle imported⟩
  | some previous => exact ⟨trivial, rfl, rfl, fun d h => by cases h⟩

theorem Phase.kept_afterReturn (last : Bool) : (afterReturn last).kept = none := by
  cases last <;> rfl

theorem Phase.names_afterReturn (last : Bool) : (afterReturn last).names = none := by
  cases last <;> rfl

theorem step_effect (h : step s a = some t) : Effect s a t := by
  cases a with
  | importRequest c busid =>
    unfold step at h
    dsimp only at h
    split at h
    · rename_i imported hc
      cases h
      refine .moves ?_
      rw [show Action.connection (.importRequest c busid) = c from rfl, hc]
      exact Phase.follows_beginImport busid imported
    · cases h
  | advance c =>
    unfold step advance at h
    dsimp only at h
    split at h
    · cases h
    -- The previous device is given back before the next one is taken.
    · rename_i busId dev hc
      cases h
      exact .releases (congrArg Phase.kept hc) (by rw [Action.connection, hc]; trivial) rfl
        (congrArg Phase.names hc).symm
    -- The import, which may find the device taken.
    · rename_i busId previous hc
      split at h
      · rename_i dev inv ho
        cases h
        exact .occupies hc ho
      · cases h
        refine .moves ?_
        rw [show Action.connection (.advance c) = c from rfl, hc]
        exact ⟨trivial, rfl, rfl, fun d h => by cases h⟩
    · rename_i imported previous hc
      cases h
      refine .moves ?_
      rw [show Action.connection (.advance c) = c from rfl, hc]
      exact Phase.follows_afterReply imported previous
    · rename_i imported previous hc
      cases h
      exact .clears rfl hc
    · rename_i dev hc
      cases h
      exact .sets hc
    · rename_i dev last hc
      cases h
      exact .drops hc
    · rename_i dev last hc
      cases h
      exact .releases (congrArg Phase.kept hc) (by rw [Action.connection, hc]; trivial)
        (Phase.kept_afterReturn last)
        ((Phase.names_afterReturn last).trans (congrArg Phase.names hc).symm)
    · cases h
  | replyFails c =>
    unfold step at h
    dsimp only at h
    split at h
    · rename_i imported previous hc
      cases h
      exact .fails rfl hc
    · cases h
  | disconnect c =>
    unfold step at h
    dsimp only at h
    split at h
    · rename_i imported hc
      cases h
      refine .moves ?_
      rw [show Action.connection (.disconnect c) = c from rfl, hc]
      exact Phase.follows_leave imported
    · cases h

theorem Custody.step (h : Custody s) (hstep : step s a = some t) : Custody t := by
  cases step_effect hstep with
  | moves hf => exact h.goto hf.kept
  | @fails imported previous ha hc =>
    exact h.goto (by rw [hc]; exact Phase.kept_leave imported)
  | releases hd hp hk hn => exact h.release hd hk
  | occupies hc ho => exact h.occupy (by rw [hc]; rfl) (h.tidy.occupy_ok ho) rfl
  | @clears imported previous ha hc =>
    have hk : (Phase.afterClear imported).kept = (s.phase a.connection).kept := by
      rw [hc]
      exact Phase.kept_afterClear imported
    exact (h.withOccupancy (Function.update s.occupancy previous none)).goto hk
  | @drops d last hc =>
    have hk : (Phase.returning d last).kept = (s.phase a.connection).kept := by rw [hc]; rfl
    exact (h.withOccupancy (Function.update s.occupancy d.busId none)).goto hk
  | @sets d hc =>
    have hk : (Phase.idle (some d)).kept = (s.phase a.connection).kept := by rw [hc]; rfl
    exact (h.withOccupancy (Function.update s.occupancy d.busId (some a.connection))).goto hk

/-! ## Whose entries a step touches -/

/-- Only the clearing of a previous import's entry can hit somebody else's device: what a
    task sets, and what it clears when it gives up, is under its own custody. -/
theorem keepsOthers_of_clearsOwn (h : Custody s) (ha : ClearsOwn s a) : KeepsOthers s a := by
  intro t hstep c' d' hc' himported peer hpeer
  have hkept' := Phase.kept_of_imported himported
  cases step_effect hstep with
  | moves hf => exact hpeer
  | fails ha hc => exact hpeer
  | releases hd hp hk hn => exact hpeer
  | occupies hc ho => exact hpeer
  | @clears imported previous hadv hc =>
    show Function.update s.occupancy previous none d'.busId = some peer
    have hne : d'.busId ≠ previous := by
      intro heq
      refine ha a.connection imported previous hadv hc ?_ c' d' hc' himported heq
      rw [← heq, hpeer]
      exact Option.some_ne_none peer
    rwa [Function.update_of_ne hne]
  | @drops d last hc =>
    show Function.update s.occupancy d.busId none d'.busId = some peer
    have hne : d'.busId ≠ d.busId := fun heq =>
      hc' (h.exclusive c' a.connection d' d hkept' (by rw [hc]; rfl) heq)
    rwa [Function.update_of_ne hne]
  | @sets d hc =>
    show Function.update s.occupancy d.busId (some a.connection) d'.busId = some peer
    have hne : d'.busId ≠ d.busId := fun heq =>
      hc' (h.exclusive c' a.connection d' d hkept' (by rw [hc]; rfl) heq)
    rwa [Function.update_of_ne hne]

theorem clearsOwn_of_keepsOthers (ha : KeepsOthers s a) : ClearsOwn s a := by
  intro c imported previous hadv hc hentry c' d' hc' himported heq
  subst hadv
  obtain ⟨peer, hpeer⟩ := Option.ne_none_iff_exists'.mp hentry
  have hstep : step s (.advance c) =
      some ((s.clearOccupancy previous).goto c (.afterClear imported)) := by
    unfold step advance
    dsimp only
    rw [hc]
  have hkept := ha _ hstep c' d' hc' himported peer (heq ▸ hpeer)
  have hnone : ((s.clearOccupancy previous).goto c (.afterClear imported)).occupancy d'.busId
      = none := by
    show Function.update s.occupancy previous none d'.busId = none
    rw [heq, Function.update_self]
  rw [hnone] at hkept
  cases hkept

theorem Recorded.step (h : Recorded s) (ha : KeepsOthers s a) (hstep : step s a = some t) :
    Recorded t := by
  intro c' d' hc'
  by_cases hcc : c' = a.connection
  · -- Its own steps bring a task back to waiting with a device only where it sets the entry.
    subst hcc
    cases step_effect hstep with
    | moves hf => exact absurd hc' (by simpa using hf.not_idle d')
    | @fails imported previous ha hc => cases imported <;> simp [Phase.leave] at hc'
    | releases hd hp hk hn =>
      have : (Phase.idle (some d')).kept = none := by
        rw [← hc', World.goto_phase_self]
        exact hk
      cases this
    | occupies hc ho => simp at hc'
    | @clears imported previous hadv hc =>
      exact absurd hc' (by simpa using Phase.afterClear_ne_idle imported d')
    | drops hc => simp at hc'
    | @sets d hc =>
      have : d = d' := by simpa using hc'
      subst this
      simp [World.goto, World.setOccupancy]
  · have hsame : s.phase c' = .idle (some d') := by
      cases step_effect hstep <;> rwa [World.goto_phase_of_ne _ hcc] at hc'
    exact ha t hstep c' d' hcc (by rw [hsame]; rfl) c' (h c' d' hsame)

/-- **When occupancy is respected.** In a run of any connections over a fixed set of devices,
    no step removes or overwrites the entry of what another connection has imported, and every
    connection that is through with its import is on record, if and only if no re-import
    clears an entry of its previous bus id after another connection has imported that. -/
theorem occupancy_kept_iff_clearsOwn (exported : Exported) (acts : List Action) :
    (Along step KeepsOthers (init exported) acts ∧
      Throughout step Recorded (init exported) acts) ↔
      Along step ClearsOwn (init exported) acts := by
  have hcustody : ∀ s a t, Custody s → step s a = some t → Custody t :=
    fun s a t h hstep => h.step hstep
  constructor
  · rintro ⟨hkeeps, -⟩
    exact hkeeps.imp hcustody (fun s a _ ha => clearsOwn_of_keepsOthers ha)
      (custody_init exported)
  · intro hclears
    refine ⟨hclears.imp hcustody (fun s a h ha => keepsOthers_of_clearsOwn h ha)
      (custody_init exported), ?_⟩
    refine throughout_of_along (I := fun s => Custody s ∧ Recorded s)
      (fun s a t h ha hstep => ⟨h.1.step hstep,
        h.2.step (keepsOthers_of_clearsOwn h.1 ha) hstep⟩)
      (fun s h => h.2) ⟨custody_init exported, fun c d h => ?_⟩ hclears
    cases h

/-! ## A re-import that clears somebody else's entry -/

/-- The 32 bytes that name port `1-n`, for a digit. -/
def portBytes (digit : UInt8) : List UInt8 := [0x31, 0x2D, digit] ++ List.replicate 29 0

/-- Two devices at the start. -/
def twoDevices : Exported where
  devices := [{ busId := "1-1" }, { busId := "1-2" }]
  nodup := by decide

/-- Connection 0 has `1-1` and asks for `1-2`; connection 1 imports `1-1` as soon as it is
    released; then connection 0 goes on to clear its old entry. -/
def importDuringReimport : List Action :=
  [.importRequest 0 (portBytes 0x31), .advance 0, .advance 0, .advance 0,
   .importRequest 0 (portBytes 0x32), .advance 0,
   .importRequest 1 (portBytes 0x31), .advance 1, .advance 1, .advance 1,
   .advance 0, .advance 0, .advance 0]

/-- **A re-import can erase the entry of the next owner**: connection 1 has imported `1-1` and
    is through with it, and nobody is on record. -/
theorem importDuringReimport_not_kept :
    ¬ (Along step KeepsOthers (init twoDevices) importDuringReimport ∧
      Throughout step Recorded (init twoDevices) importDuringReimport) := by
  have hrun : ((run step (init twoDevices) importDuringReimport).any fun t =>
      t.phase 1 = .idle (some { busId := "1-1" }) ∧ t.occupancy "1-1" = none) = true := by
    decide +kernel
  obtain ⟨t, ht, hend⟩ := (Option.any_eq_true _ _).mp hrun
  obtain ⟨hphase, hnone⟩ := of_decide_eq_true hend
  rintro ⟨-, hrecorded⟩
  have hentry : t.occupancy "1-1" = some 1 := hrecorded.of_run ht 1 _ hphase
  rw [hnone] at hentry
  cases hentry

end Occupancy
end Lusbip
