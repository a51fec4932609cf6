import Lusbip.Lib.Locks

/-!
# The two inventory locks

`UsbIpServer` keeps its devices under two locks, `available_devices` and `used_devices`, and
seven operations take them. Most take one at a time: `occupy` drops the first guard before
it asks for the second. Three keep both, and not in one order: `release` and `cleanup` take
`used_devices` first, `sync_from_host_with_filter` takes `available_devices` first.

A read guard is taken like a write guard here, and a guard lives until the end of its scope,
or of its statement where it is not bound.
-/

namespace Lusbip
namespace InventoryLocks

open Lib Lib.Locks

inductive Lock where
  | available
  | used
  deriving DecidableEq, Repr

/-- Who runs: the connections, the periodic synchronisation, and the end of the server. -/
inductive Task where
  | connection (n : Nat)
  | sync
  | shutdown
  deriving DecidableEq, Repr

/-- The operations, each with what decides how far it goes. -/
inductive Operation where
  | occupy (found : Bool)
  | release
  | devlist
  | devlistWithOccupancy
  | syncFromHost (newDevices : Bool)
  | cleanup
  deriving DecidableEq, Repr

namespace Operation

/-- The guards an operation takes and drops, in order. -/
def script : Operation → List (Instr Lock)
  | .occupy found =>
      [.acquire .available, .release .available] ++
        if found then [.acquire .used, .release .used] else []
  -- Guards are dropped in the reverse order of their declaration.
  | .release => [.acquire .used, .acquire .available, .release .available, .release .used]
  | .devlist => [.acquire .available, .release .available]
  | .devlistWithOccupancy =>
      [.acquire .available, .release .available, .acquire .used, .release .used]
  | .syncFromHost newDevices =>
      [.acquire .available, .acquire .used, .release .used, .release .available] ++
        if newDevices then [.acquire .available, .release .available] else []
  | .cleanup => [.acquire .used, .acquire .available, .release .available, .release .used]

/-- Who runs which operation: a connection serves its client and releases what it imported,
    the other two tasks have one operation each. -/
def runBy : Operation → Task → Bool
  | .occupy _, .connection _ => true
  | .release, .connection _ => true
  | .devlist, .connection _ => true
  | .devlistWithOccupancy, .connection _ => true
  | .syncFromHost _, .sync => true
  | .cleanup, .shutdown => true
  | _, _ => false

end Operation

def script (t : Task) (o : Operation) : Option (List (Instr Lock)) :=
  if o.runBy t then some o.script else none

abbrev State := Locks.State Task Lock
abbrev Action := Locks.Action Task Operation

def step : State → Action → Option State := Locks.step script

def init : State := Locks.idle

/-- What the two nesting orders look like from outside: the task's next two steps take
    `outer` and then `inner`. -/
def Nests (s : State) (t : Task) (outer inner : Lock) : Prop :=
  ∃ rest, s.script t = .acquire outer :: .acquire inner :: rest

/-- The task has its outer lock and is about to take its inner one. -/
def BetweenLocks (s : State) (t : Task) (outer inner : Lock) : Prop :=
  s.owner outer = some t ∧ ∃ rest, s.script t = .acquire inner :: rest

/-- The step takes the outer lock of a nesting while another task is between the same two
    locks in the opposite order. -/
def MeetsOpposite (s : State) : Action → Prop
  | .start _ _ => False
  | .advance t => ∃ outer inner u, Nests s t outer inner ∧ BetweenLocks s u inner outer

theorem script_balanced (t : Task) (o : Operation) (is : List (Instr Lock))
    (h : script t o = some is) : Balanced ∅ is := by
  unfold script at h
  split at h
  · cases h
    cases o with
    | occupy found => cases found <;> decide
    | syncFromHost newDevices => cases newDevices <;> decide
    | _ => decide
  · cases h

theorem two_locks (k l m : Lock) : k = l ∨ k = m ∨ l = m := by
  cases k <;> cases l <;> cases m <;> decide

variable {s : State} {a : Action}

theorem MeetsOpposite.crosses (hw : WellFormed s) (h : MeetsOpposite s a) : Crosses s a := by
  cases a with
  | start t o => exact h
  | advance t =>
    obtain ⟨outer, inner, u, ⟨rest, ht⟩, hinner, restu, hu⟩ := h
    refine ⟨.acquire outer, outer, inner, u, rest, restu, ht, Or.inl rfl, ?_, hinner, hu⟩
    rintro rfl
    obtain ⟨held, hheld, hbal⟩ := hw u
    rw [ht] at hbal
    exact hbal.2.1 (Finset.mem_insert_of_mem ((hheld inner).mpr hinner))

/-- A task that holds one of the two locks and takes or drops another one on its way to the
    next acquisition would need a third lock. -/
theorem MeetsOpposite.of_crosses (hw : WellFormed s) (h : Crosses s a) : MeetsOpposite s a := by
  cases a with
  | start t o => exact h
  | advance t =>
    obtain ⟨i, l, m, u, restt, restu, ht, hl, hut, hm, hu⟩ := h
    rcases hl with rfl | ⟨hl, hi⟩
    · exact ⟨l, m, u, ⟨restt, ht⟩, hm, restu, hu⟩
    obtain ⟨held, hheld, hbal⟩ := hw t
    rw [ht] at hbal
    have hlheld : l ∈ held := (hheld l).mpr hl
    have hmheld : m ∉ held := fun hmem => by
      have := (hheld m).mp hmem
      rw [hm] at this
      exact hut (Option.some.inj this)
    have hml : m ≠ l := fun h => hmheld (h ▸ hlheld)
    cases i with
    | acquire k =>
      have hkl : k ≠ l := fun h => hbal.1 (h ▸ hlheld)
      have hkm : k ≠ m := fun h => hbal.2.1 (h ▸ Finset.mem_insert_self _ _)
      exact absurd (two_locks k l m) (by simp [hkl, hkm, hml.symm])
    | release k =>
      have hkl : k ≠ l := fun h => hi (h ▸ rfl)
      have hkm : k ≠ m := fun h => hmheld (h ▸ hbal.1)
      exact absurd (two_locks k l m) (by simp [hkl, hkm, hml.symm])

/-- **When the inventory locks are free of deadlock.** A run of any connections, the
    synchronisation and the shutdown visits no deadlock if and only if no operation takes
    the outer lock of its nesting while another one sits between the two locks in the
    opposite order. -/
theorem no_deadlock_iff_no_meeting (acts : List Action) :
    Transition.Throughout step (fun s => ¬ Deadlock s) init acts ↔
      Transition.Along step (fun s a => ¬ MeetsOpposite s a) init acts := by
  rw [show step = Locks.step script from rfl, show init = Locks.idle from rfl,
    no_deadlock_iff two_locks script_balanced]
  have hinv : ∀ s a t, WellFormed s → Locks.step script s a = some t → WellFormed t :=
    fun s a t hw ht => hw.step script_balanced ht
  constructor
  · exact Transition.Along.imp hinv (fun s a hw hc hm => hc (hm.crosses hw)) wellFormed_idle
  · exact Transition.Along.imp hinv (fun s a hw hm hc => hm (.of_crosses hw hc)) wellFormed_idle

/-- A synchronisation begins while a client disconnects. -/
def syncDuringRelease : List Action :=
  [.start .sync (.syncFromHost false), .advance .sync, .start (.connection 0) .release,
   .advance (.connection 0)]

/-- **The inventory locks can deadlock**: the synchronisation has `available_devices`, the
    release has `used_devices`, and each waits for the other. -/
theorem syncDuringRelease_deadlocks :
    ¬ Transition.Throughout step (fun s => ¬ Deadlock s) init syncDuringRelease := by
  intro h
  obtain ⟨t, hrun⟩ : ∃ t, Transition.run step init syncDuringRelease = some t := ⟨_, rfl⟩
  have hw : WellFormed t := Transition.invariant_of_run
    (fun s a t hw ht => WellFormed.step script_balanced hw ht) wellFormed_idle hrun
  have hcross : Crossed t .sync (.connection 0) .available .used := by
    cases hrun
    exact ⟨rfl, ⟨_, rfl⟩, rfl, _, rfl⟩
  exact h.of_run hrun (hcross.deadlock hw)

end InventoryLocks
end Lusbip
