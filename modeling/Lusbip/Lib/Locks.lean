import Mathlib.Data.Finset.Erase
import Mathlib.Data.Finset.Insert
import Mathlib.Logic.Function.Basic
import Lusbip.Lib.Transition

/-!
# Tasks that take locks

Tasks run operations, and of an operation only its locking is kept: a script of
acquisitions and releases. A task at an acquisition waits until the lock is free; a lock
has one owner. Which operations a task may run, and their scripts, are parameters.

A *deadlock* is a set of tasks each of which holds a lock and waits for one that another
task of the set holds. What makes it tractable is that the locks a task holds can be read
off the script it has left: `Balanced` says so of a script, and `WellFormed` of a state.
-/

namespace Lib
namespace Locks

inductive Instr (L : Type*) where
  | acquire (l : L)
  | release (l : L)
  deriving DecidableEq

/-- Who owns each lock, and what each task has left of its operation. -/
structure State (T L : Type*) where
  owner : L → Option T
  script : T → List (Instr L)

inductive Action (T O : Type*) where
  /-- An idle task begins an operation. -/
  | start (t : T) (o : O)
  /-- A task makes its next acquisition or release. -/
  | advance (t : T)
  deriving DecidableEq

variable {T L O : Type*}

section Machine

variable [DecidableEq T] [DecidableEq L]

/-- The lock is free for a task to take, or the task is the one that gives it back. -/
def advance (s : State T L) (t : T) : Option (State T L) :=
  match s.script t with
  | [] => none
  | .acquire l :: rest =>
      if s.owner l = none then
        some { owner := Function.update s.owner l (some t)
               script := Function.update s.script t rest }
      else none
  | .release l :: rest =>
      some { owner := Function.update s.owner l none
             script := Function.update s.script t rest }

/-- One step, where `script t o` is the script of an operation, if task `t` runs it. -/
def step (script : T → O → Option (List (Instr L))) (s : State T L) :
    Action T O → Option (State T L)
  | .start t o =>
      if s.script t = [] then
        (script t o).map fun is => { s with script := Function.update s.script t is }
      else none
  | .advance t => advance s t

end Machine

/-- Nobody holds anything or runs anything. -/
def idle : State T L where
  owner _ := none
  script _ := []

/-- The next thing the task does is to take a lock that it will have to wait for. -/
def WaitsFor (s : State T L) (t : T) (l : L) : Prop :=
  (∃ rest, s.script t = .acquire l :: rest) ∧ s.owner l ≠ none

/-- **Deadlock**: each task of a set holds a lock and waits for one another of them holds. -/
def Deadlock (s : State T L) : Prop :=
  ∃ D : Set T, D.Nonempty ∧ ∀ t ∈ D, (∃ l, s.owner l = some t) ∧
    ∃ l u, WaitsFor s t l ∧ u ∈ D ∧ u ≠ t ∧ s.owner l = some u

/-! ## Scripts and holdings -/

variable [DecidableEq L]

/-- Run from a task that holds `held`, the script takes no lock twice, gives back only what
    it has and ends with nothing. -/
def Balanced : Finset L → List (Instr L) → Prop
  | held, [] => held = ∅
  | held, .acquire l :: rest => l ∉ held ∧ Balanced (insert l held) rest
  | held, .release l :: rest => l ∈ held ∧ Balanced (held.erase l) rest

instance Balanced.decidable : ∀ (held : Finset L) (is : List (Instr L)),
    Decidable (Balanced held is)
  | held, [] => inferInstanceAs (Decidable (held = ∅))
  | held, .acquire l :: rest =>
      have := Balanced.decidable (insert l held) rest
      inferInstanceAs (Decidable (l ∉ held ∧ Balanced (insert l held) rest))
  | held, .release l :: rest =>
      have := Balanced.decidable (held.erase l) rest
      inferInstanceAs (Decidable (l ∈ held ∧ Balanced (held.erase l) rest))

/-- Every task holds just what the rest of its script accounts for. -/
def WellFormed (s : State T L) : Prop :=
  ∀ t, ∃ held : Finset L, (∀ l, l ∈ held ↔ s.owner l = some t) ∧ Balanced held (s.script t)

theorem wellFormed_idle : WellFormed (idle : State T L) := fun _ =>
  ⟨∅, fun _ => by simp [idle], rfl⟩

theorem WellFormed.owner_of_release {s : State T L} (h : WellFormed s) {t : T} {l : L}
    {rest : List (Instr L)} (hs : s.script t = .release l :: rest) : s.owner l = some t := by
  obtain ⟨held, hheld, hbal⟩ := h t
  rw [hs] at hbal
  exact (hheld l).mp hbal.1

theorem WellFormed.idle_of_nil {s : State T L} (h : WellFormed s) {t : T}
    (hs : s.script t = []) (l : L) : s.owner l ≠ some t := by
  obtain ⟨held, hheld, hbal⟩ := h t
  rw [hs] at hbal
  intro ho
  have hmem := (hheld l).mpr ho
  rw [show held = ∅ from hbal] at hmem
  exact absurd hmem (Finset.notMem_empty l)

variable [DecidableEq T]

/-- What a step can do: start an operation, take a free lock, or give a lock back. -/
theorem step_cases {script : T → O → Option (List (Instr L))} {s s' : State T L}
    {a : Action T O} (h : step script s a = some s') :
    (∃ t o is, a = .start t o ∧ s.script t = [] ∧ script t o = some is ∧
      s' = { s with script := Function.update s.script t is }) ∨
    (∃ t l rest, a = .advance t ∧ s.script t = .acquire l :: rest ∧ s.owner l = none ∧
      s' = { owner := Function.update s.owner l (some t)
             script := Function.update s.script t rest }) ∨
    (∃ t l rest, a = .advance t ∧ s.script t = .release l :: rest ∧
      s' = { owner := Function.update s.owner l none
             script := Function.update s.script t rest }) := by
  cases a with
  | start t o =>
    left
    unfold step at h
    dsimp only at h
    split at h
    · rename_i hidle
      obtain ⟨is, his, rfl⟩ := Option.map_eq_some_iff.mp h
      exact ⟨t, o, is, rfl, hidle, his, rfl⟩
    · cases h
  | advance t =>
    right
    unfold step advance at h
    dsimp only at h
    split at h
    · cases h
    · rename_i l rest hscript
      split at h
      · rename_i hfree
        cases h
        exact Or.inl ⟨t, l, rest, rfl, hscript, hfree, rfl⟩
      · cases h
    · rename_i l rest hscript
      cases h
      exact Or.inr ⟨t, l, rest, rfl, hscript, rfl⟩

/-- A step of balanced operations keeps holdings and scripts in agreement. -/
theorem WellFormed.step {script : T → O → Option (List (Instr L))}
    (hbal : ∀ t o is, script t o = some is → Balanced ∅ is) {s s' : State T L}
    {a : Action T O} (h : WellFormed s) (hstep : step script s a = some s') :
    WellFormed s' := by
  intro u
  obtain ⟨held, hheld, hb⟩ := h u
  rcases step_cases hstep with ⟨t, o, is, rfl, hidle, his, rfl⟩ |
    ⟨t, l, rest, rfl, hscript, hfree, rfl⟩ | ⟨t, l, rest, rfl, hscript, rfl⟩
  -- A thread that starts an operation holds nothing yet.
  · by_cases hu : u = t
    · subst hu
      rw [hidle] at hb
      refine ⟨∅, fun l => ?_, ?_⟩
      · rw [← show held = ∅ from hb]
        exact hheld l
      · simpa using hbal u o is his
    · exact ⟨held, hheld, by simpa [Function.update_of_ne hu] using hb⟩
  -- An acquired lock is added to what the thread holds, and was free for the others.
  · by_cases hu : u = t
    · subst hu
      rw [hscript] at hb
      refine ⟨insert l held, fun m => ?_, by simpa using hb.2⟩
      by_cases hm : m = l
      · simp [hm]
      · simp [hm, hheld m]
    · refine ⟨held, fun m => ?_, by simpa [Function.update_of_ne hu] using hb⟩
      by_cases hm : m = l
      · simp [hm, hheld l, hfree, Ne.symm hu]
      · simp [hm, hheld m]
  -- A released lock was the thread's own, so the others hold what they held.
  · by_cases hu : u = t
    · subst hu
      rw [hscript] at hb
      refine ⟨held.erase l, fun m => ?_, by simpa using hb.2⟩
      by_cases hm : m = l
      · simp [hm]
      · simp [hm, hheld m]
    · refine ⟨held, fun m => ?_, by simpa [Function.update_of_ne hu] using hb⟩
      have howner := h.owner_of_release hscript
      by_cases hm : m = l
      · simp [hm, hheld l, howner, Ne.symm hu]
      · simp [hm, hheld m]

/-! ## Two tasks that wait for each other -/

/-- Task `t` holds `l` and waits for `m`, which `u` holds while it waits for `l`. -/
def Crossed (s : State T L) (t u : T) (l m : L) : Prop :=
  s.owner l = some t ∧ (∃ rest, s.script t = .acquire m :: rest) ∧
    s.owner m = some u ∧ ∃ rest, s.script u = .acquire l :: rest

omit [DecidableEq T] in
theorem WellFormed.not_owner_of_acquire {s : State T L} (h : WellFormed s) {t : T} {l : L}
    {rest : List (Instr L)} (hs : s.script t = .acquire l :: rest) : s.owner l ≠ some t := by
  obtain ⟨held, hheld, hbal⟩ := h t
  rw [hs] at hbal
  exact fun ho => hbal.1 ((hheld l).mpr ho)

omit [DecidableEq T] in
theorem Crossed.deadlock {s : State T L} (h : WellFormed s) {t u : T} {l m : L}
    (hc : Crossed s t u l m) : Deadlock s := by
  obtain ⟨hl, ⟨restt, ht⟩, hm, ⟨restu, hu⟩⟩ := hc
  have hne : u ≠ t := by
    rintro rfl
    exact h.not_owner_of_acquire ht hm
  refine ⟨{t, u}, ⟨t, Or.inl rfl⟩, fun v hv => ?_⟩
  rcases hv with rfl | rfl
  · exact ⟨⟨l, hl⟩, m, u, ⟨⟨restt, ht⟩, by simp [hm]⟩, Or.inr rfl, hne, hm⟩
  · exact ⟨⟨m, hm⟩, l, t, ⟨⟨restu, hu⟩, by simp [hl]⟩, Or.inl rfl, hne.symm, hl⟩

omit [DecidableEq L] [DecidableEq T] in
theorem Crossed.symm {s : State T L} {t u : T} {l m : L} (h : Crossed s t u l m) :
    Crossed s u t m l :=
  ⟨h.2.2.1, h.2.2.2, h.1, h.2.1⟩

/-- The step closes a cross: after it the task is at the acquisition of `m` and holds `l`,
    while the holder of `m` is at the acquisition of `l`. -/
def Crosses (s : State T L) : Action T O → Prop
  | .start _ _ => False
  | .advance t => ∃ i l m u restt restu, s.script t = i :: .acquire m :: restt ∧
      (i = .acquire l ∨ (s.owner l = some t ∧ i ≠ .release l)) ∧
      u ≠ t ∧ s.owner m = some u ∧ s.script u = .acquire l :: restu

/-- The task a step belongs to. -/
def Action.task : Action T O → T
  | .start t _ => t
  | .advance t => t

section Steps

variable {script : T → O → Option (List (Instr L))} {s s' : State T L} {a : Action T O}

/-- A step that closes a cross leads into one. -/
theorem Crosses.crossed (hw : WellFormed s) (h : Crosses s a)
    (hstep : step script s a = some s') : ∃ t u l m, Crossed s' t u l m := by
  cases a with
  | start t o => exact absurd h id
  | advance t =>
    obtain ⟨i, l, m, u, restt, restu, ht, hl, hut, hm, hu⟩ := h
    refine ⟨t, u, l, m, ?_⟩
    -- The step is the one that closes the cycle: of the three kinds only taking a lock can be it.
    rcases step_cases hstep with ⟨_, _, _, ha, _⟩ | ⟨t', l', rest, ha, hscript, hfree, rfl⟩ |
      ⟨t', l', rest, ha, hscript, rfl⟩
    · cases ha
    · cases ha
      rw [ht] at hscript
      cases hscript
      have hml : m ≠ l' := by
        rintro rfl
        rw [hfree] at hm
        cases hm
      refine ⟨?_, ⟨restt, by simp⟩, by simp [hml, hm], restu, by simp [hut, hu]⟩
      by_cases hll : l = l'
      · simp [hll]
      · rcases hl with hl | hl
        · cases hl
          exact absurd rfl hll
        · simp [hll, hl.1]
    · cases ha
      rw [ht] at hscript
      cases hscript
      have hml : m ≠ l' := by
        rintro rfl
        rw [hw.owner_of_release ht] at hm
        cases hm
        exact hut rfl
      rcases hl with hl | ⟨hl, hne⟩
      · cases hl
      · have hll : l ≠ l' := by
          rintro rfl
          exact hne rfl
        exact ⟨by simp [hll, hl], ⟨restt, by simp⟩, by simp [hml, hm], restu,
          by simp [hut, hu]⟩

/-- A task that takes part in a cross after its own step has closed it. -/
theorem crosses_of_crossed (hw : WellFormed s) (hw' : WellFormed s')
    (hstep : step script s a = some s') {u : T} {l m : L}
    (hc : Crossed s' a.task u l m) : Crosses s a := by
  obtain ⟨hl, ⟨restt, ht⟩, hm, restu, hu⟩ := hc
  have hut : u ≠ a.task := by
    intro h
    exact hw'.not_owner_of_acquire ht (h ▸ hm)
  rcases step_cases hstep with ⟨t, o, is, rfl, hidle, his, rfl⟩ |
    ⟨t, l', rest, rfl, hscript, hfree, rfl⟩ | ⟨t, l', rest, rfl, hscript, rfl⟩
  -- A thread that only starts an operation holds no lock that another one waits for.
  · exact absurd hl (hw.idle_of_nil hidle l)
  · dsimp only [Action.task] at hl ht hut hm hu
    rw [Function.update_self] at ht
    subst ht
    rw [Function.update_of_ne hut] at hu
    have hml : m ≠ l' := by
      rintro rfl
      rw [Function.update_self] at hm
      exact hut (Option.some.inj hm).symm
    rw [Function.update_of_ne hml] at hm
    refine ⟨.acquire l', l, m, u, restt, restu, hscript, ?_, hut, hm, hu⟩
    by_cases hll : l = l'
    · exact Or.inl (by rw [hll])
    · rw [Function.update_of_ne hll] at hl
      exact Or.inr ⟨hl, by simp⟩
  · dsimp only [Action.task] at hl ht hut hm hu
    rw [Function.update_self] at ht
    subst ht
    rw [Function.update_of_ne hut] at hu
    have hml : m ≠ l' := by
      rintro rfl
      rw [Function.update_self] at hm
      cases hm
    have hll : l ≠ l' := by
      rintro rfl
      rw [Function.update_self] at hl
      cases hl
    rw [Function.update_of_ne hml] at hm
    rw [Function.update_of_ne hll] at hl
    refine ⟨.release l', l, m, u, restt, restu, hscript, Or.inr ⟨hl, ?_⟩, hut, hm, hu⟩
    simpa using Ne.symm hll

omit [DecidableEq T] in
theorem owner_of_update {owner : L → Option T} {k l : L} {o : Option T} {t : T}
    (ho : o ≠ some t) (h : Function.update owner l o k = some t) : owner k = some t := by
  by_cases hkl : k = l
  · rw [hkl, Function.update_self] at h
    exact absurd h ho
  · rwa [Function.update_of_ne hkl] at h

/-- A cross between two tasks that do not move was there before the step. -/
theorem crossed_of_others (hstep : step script s a = some s') {t u : T} {l m : L}
    (ht : t ≠ a.task) (hu : u ≠ a.task) (hc : Crossed s' t u l m) : Crossed s t u l m := by
  obtain ⟨hl, hwt, hm, hwu⟩ := hc
  rcases step_cases hstep with ⟨w, o, is, rfl, hidle, his, rfl⟩ |
    ⟨w, l', rest, rfl, hscript, hfree, rfl⟩ | ⟨w, l', rest, rfl, hscript, rfl⟩
  · dsimp only [Action.task] at ht hu hwt hwu
    rw [Function.update_of_ne ht] at hwt
    rw [Function.update_of_ne hu] at hwu
    exact ⟨hl, hwt, hm, hwu⟩
  · dsimp only [Action.task] at ht hu hwt hwu hl hm
    rw [Function.update_of_ne ht] at hwt
    rw [Function.update_of_ne hu] at hwu
    exact ⟨owner_of_update (by simpa using Ne.symm ht) hl, hwt,
      owner_of_update (by simpa using Ne.symm hu) hm, hwu⟩
  · dsimp only [Action.task] at ht hu hwt hwu hl hm
    rw [Function.update_of_ne ht] at hwt
    rw [Function.update_of_ne hu] at hwu
    exact ⟨owner_of_update (by simp) hl, hwt, owner_of_update (by simp) hm, hwu⟩

/-- Only a step that closes a cross leads from a state without one to a state with one. -/
theorem not_crossed_step (hw : WellFormed s) (hw' : WellFormed s')
    (hs : ∀ t u l m, ¬ Crossed s t u l m) (ha : ¬ Crosses s a)
    (hstep : step script s a = some s') : ∀ t u l m, ¬ Crossed s' t u l m := by
  intro t u l m hc
  by_cases ht : t = a.task
  · subst ht
    exact ha (crosses_of_crossed hw hw' hstep hc)
  by_cases hu : u = a.task
  · subst hu
    exact ha (crosses_of_crossed hw hw' hstep hc.symm)
  exact hs t u l m (crossed_of_others hstep ht hu hc)

end Steps

/-! ## Two locks

With two locks a deadlock is a cross: whoever holds the lock a member of the set waits for
can itself only wait for the other one. -/

section TwoLocks

variable (htwo : ∀ k l m : L, k = l ∨ k = m ∨ l = m)

include htwo

omit [DecidableEq T] in
theorem crossed_of_deadlock {s : State T L} (hw : WellFormed s) (h : Deadlock s) :
    ∃ t u l m, Crossed s t u l m := by
  obtain ⟨D, ⟨t, ht⟩, hD⟩ := h
  obtain ⟨⟨l, hl⟩, m, u, ⟨hwt, -⟩, hu, hut, hm⟩ := hD t ht
  obtain ⟨-, n, v, ⟨⟨restu, hwu⟩, -⟩, -, -, hn⟩ := hD u hu
  have hlm : l ≠ m := by
    rintro rfl
    rw [hl] at hm
    exact hut (Option.some.inj hm).symm
  have hnm : n ≠ m := by
    rintro rfl
    exact hw.not_owner_of_acquire hwu hm
  have hnl : n = l := by
    rcases htwo n l m with h | h | h
    · exact h
    · exact absurd h hnm
    · exact absurd h hlm
  subst hnl
  exact ⟨t, u, n, m, hl, hwt, hm, restu, hwu⟩

/-- **Freedom from deadlock, exactly.** Of balanced operations on two locks, a run visits no
    deadlock if and only if none of its steps closes a cross. -/
theorem no_deadlock_iff {script : T → O → Option (List (Instr L))}
    (hbal : ∀ t o is, script t o = some is → Balanced ∅ is) (acts : List (Action T O)) :
    Transition.Throughout (step script) (fun s => ¬ Deadlock s) idle acts ↔
      Transition.Along (step script) (fun s a => ¬ Crosses s a) idle acts := by
  refine Transition.throughout_iff_along
    (I := fun s => WellFormed s ∧ ∀ t u l m, ¬ Crossed s t u l m) ?_ ?_ ?_ ?_
  · intro s a s' hs ha hstep
    have hw' := hs.1.step hbal hstep
    exact ⟨hw', not_crossed_step hs.1 hw' hs.2 ha hstep⟩
  · intro s hs hd
    obtain ⟨t, u, l, m, hc⟩ := crossed_of_deadlock htwo hs.1 hd
    exact hs.2 t u l m hc
  · intro s a s' hs hstep hd hcross
    obtain ⟨t, u, l, m, hc⟩ := hcross.crossed hs.1 hstep
    exact hd (hc.deadlock (hs.1.step hbal hstep))
  · refine ⟨wellFormed_idle, fun t u l m hc => ?_⟩
    exact absurd hc.1 (by simp [idle])

end TwoLocks

end Locks
end Lib
