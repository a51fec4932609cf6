import Mathlib.Data.List.Basic

/-!
# Runs of a transition system

A system here is a partial step function `step : σ → α → Option σ`: the action says which
party moves and what the environment answers, and `none` says that the action is not
enabled. A run is a list of actions; the first disabled action ends it.

Two predicates speak about a whole run. `Throughout Q` says that every state the run
visits meets `Q`; `Along P` says that every step the run takes is taken from a state, by
an action, that meet `P`. Most results about a system have the shape *steps that meet `P`
keep an invariant, and the invariant implies `Q`*, and `throughout_of_along` is that
argument, made once. `throughout_iff_along` is its exact form: if moreover the first step
that misses `P` lands in a state that misses `Q`, the two predicates agree on every run.
-/

namespace Lib
namespace Transition

variable {σ α : Type*} (step : σ → α → Option σ)

/-- The state a list of actions leads to, if every one of them is enabled in turn. -/
def run : σ → List α → Option σ
  | s, [] => some s
  | s, a :: as => (step s a).bind fun t => run t as

/-- Every state visited by the run of `as` from `s` meets `Q`, the first one included. -/
def Throughout (Q : σ → Prop) : σ → List α → Prop
  | s, [] => Q s
  | s, a :: as => Q s ∧ ∀ t, step s a = some t → Throughout Q t as

/-- Every step taken by the run of `as` from `s` meets `P`, a condition on the state
    before the step and the action. -/
def Along (P : σ → α → Prop) : σ → List α → Prop
  | _, [] => True
  | s, a :: as => ∀ t, step s a = some t → P s a ∧ Along P t as

/-- Whether a run meets a condition is found out by running it. -/
instance decidableAlong (P : σ → α → Prop) [∀ s a, Decidable (P s a)] :
    ∀ (s : σ) (as : List α), Decidable (Along step P s as)
  | _, [] => isTrue trivial
  | s, a :: as =>
      match h : step s a with
      | none => isTrue fun _ ht => nomatch h.symm.trans ht
      | some u =>
          have := decidableAlong P u as
          decidable_of_iff (P s a ∧ Along step P u as)
            ⟨fun hp _ ht => Option.some.inj (h.symm.trans ht) ▸ hp, fun hp => hp u h⟩

variable {step}

@[simp] theorem run_nil (s : σ) : run step s [] = some s := rfl

@[simp] theorem run_cons (s : σ) (a : α) (as : List α) :
    run step s (a :: as) = (step s a).bind fun t => run step t as := rfl

@[simp] theorem along_nil {P : σ → α → Prop} (s : σ) : Along step P s [] := trivial

theorem Throughout.head {Q : σ → Prop} {s : σ} {as : List α}
    (h : Throughout step Q s as) : Q s := by
  cases as with
  | nil => exact h
  | cons a as => exact h.1

/-- The last state of a run is one that it visits. -/
theorem Throughout.of_run {Q : σ → Prop} {as : List α} {s t : σ}
    (h : Throughout step Q s as) (hr : run step s as = some t) : Q t := by
  induction as generalizing s with
  | nil =>
    simp only [run_nil, Option.some.injEq] at hr
    exact hr ▸ h
  | cons a as ih =>
    obtain ⟨u, hu, hr⟩ := Option.bind_eq_some_iff.mp hr
    exact ih (h.2 u hu) hr

/-- **Two systems in lockstep**: if related states enable the same actions and these lead to related
    states, the two have the same runs, up to the relation. -/
theorem run_rel {τ : Type*} {step' : τ → α → Option τ} {R : σ → τ → Prop}
    (h : ∀ s t a, R s t → Option.Rel R (step s a) (step' t a)) {s : σ} {t : τ} (hs : R s t)
    (as : List α) : Option.Rel R (run step s as) (run step' t as) := by
  induction as generalizing s t with
  | nil => exact .some hs
  | cons a as ih =>
    have hstep := h s t a hs
    rw [run_cons, run_cons]
    generalize step s a = u, step' t a = u' at hstep
    cases hstep with
    | some hu => exact ih hu
    | none => exact .none

/-! ## Steps that meet a condition keep an invariant -/

/-- What every step keeps, a run keeps: the step lemma, lifted to runs that meet a
    condition. -/
theorem invariant_of_along {P : σ → α → Prop} {I : σ → Prop}
    (hstep : ∀ s a t, I s → P s a → step s a = some t → I t) :
    ∀ {as : List α} {s t : σ}, I s → Along step P s as → run step s as = some t → I t := by
  intro as
  induction as with
  | nil =>
    intro s t hs _ hr
    simp only [run_nil, Option.some.injEq] at hr
    exact hr ▸ hs
  | cons a as ih =>
    intro s t hs ha hr
    obtain ⟨u, hu, hr⟩ := Option.bind_eq_some_iff.mp hr
    obtain ⟨hp, ha⟩ := ha u hu
    exact ih (hstep s a u hs hp hu) ha hr

theorem invariant_of_run {I : σ → Prop}
    (hstep : ∀ s a t, I s → step s a = some t → I t) {as : List α} {s t : σ}
    (hs : I s) (hr : run step s as = some t) : I t := by
  induction as generalizing s with
  | nil =>
    simp only [run_nil, Option.some.injEq] at hr
    exact hr ▸ hs
  | cons a as ih =>
    obtain ⟨u, hu, hr⟩ := Option.bind_eq_some_iff.mp hr
    exact ih (hstep s a u hs hu) hr

/-- A condition on steps may be replaced by one that follows from it under an invariant. -/
theorem Along.imp {P P' : σ → α → Prop} {I : σ → Prop}
    (hstep : ∀ s a t, I s → step s a = some t → I t)
    (hp : ∀ s a, I s → P s a → P' s a) :
    ∀ {as : List α} {s : σ}, I s → Along step P s as → Along step P' s as := by
  intro as
  induction as with
  | nil => exact fun _ _ => trivial
  | cons a as ih =>
    intro s hs ha t ht
    obtain ⟨h, ha⟩ := ha t ht
    exact ⟨hp s a hs h, ih (hstep s a t hs ht) ha⟩

theorem throughout_of_along {P : σ → α → Prop} {I Q : σ → Prop}
    (hstep : ∀ s a t, I s → P s a → step s a = some t → I t)
    (hq : ∀ s, I s → Q s) :
    ∀ {as : List α} {s : σ}, I s → Along step P s as → Throughout step Q s as := by
  intro as
  induction as with
  | nil => exact fun hs _ => hq _ hs
  | cons a as ih =>
    intro s hs ha
    refine ⟨hq s hs, fun t ht => ?_⟩
    obtain ⟨hp, ha⟩ := ha t ht
    exact ih (hstep s a t hs hp ht) ha

/-- What holds throughout a run, and along it, may be used for every step of it. -/
theorem Throughout.imp {D : σ → α → Prop} {C I Q : σ → Prop}
    (hstep : ∀ s a t, I s → C s → D s a → step s a = some t → I t)
    (hq : ∀ s, I s → C s → Q s) {as : List α} {s : σ} (hs : I s)
    (hd : Along step D s as) (h : Throughout step C s as) : Throughout step Q s as := by
  induction as generalizing s with
  | nil => exact hq s hs h
  | cons a as ih =>
    refine ⟨hq s hs h.1, fun t ht => ?_⟩
    obtain ⟨hda, hd⟩ := hd t ht
    exact ih (hstep s a t hs h.1 hda ht) hd (h.2 t ht)

/-- Where every step keeps the invariant, no condition is needed. -/
theorem throughout_of_step {I Q : σ → Prop}
    (hstep : ∀ s a t, I s → step s a = some t → I t) (hq : ∀ s, I s → Q s) (as : List α) {s : σ}
    (hs : I s) : Throughout step Q s as := by
  induction as generalizing s with
  | nil => exact hq s hs
  | cons a as ih => exact ⟨hq s hs, fun t ht => ih (hstep s a t hs ht)⟩

/-- When every step that misses `P` lands in a state that misses `Q`, a run that visits only
    `Q`-states meets `P` all along. -/
theorem along_of_throughout_within {D P : σ → α → Prop} {I Q : σ → Prop}
    (hstep : ∀ s a t, I s → D s a → P s a → step s a = some t → I t)
    (hmiss : ∀ s a t, I s → D s a → step s a = some t → Q t → P s a)
    {as : List α} {s : σ} (hs : I s) (hd : Along step D s as) (h : Throughout step Q s as) :
    Along step P s as := by
  induction as generalizing s with
  | nil => trivial
  | cons a as ih =>
    intro t ht
    obtain ⟨hda, hd⟩ := hd t ht
    have hp : P s a := hmiss s a t hs hda ht (h.2 t ht).head
    exact ⟨hp, ih (hstep s a t hs hda hp ht) hd (h.2 t ht)⟩

/-- **The exact form.** When the first step that misses `P` already lands in a state that
    misses `Q`, a run visits only `Q`-states if and only if all its steps meet `P`. The
    steps may be promised to meet a condition `D` besides. -/
theorem throughout_iff_along_within {D P : σ → α → Prop} {I Q : σ → Prop}
    (hstep : ∀ s a t, I s → D s a → P s a → step s a = some t → I t)
    (hq : ∀ s, I s → Q s)
    (hmiss : ∀ s a t, I s → D s a → step s a = some t → Q t → P s a)
    {as : List α} {s : σ} (hs : I s) (hd : Along step D s as) :
    Throughout step Q s as ↔ Along step P s as := by
  refine ⟨along_of_throughout_within hstep hmiss hs hd, fun h => ?_⟩
  induction as generalizing s with
  | nil => exact hq s hs
  | cons a as ih =>
    refine ⟨hq s hs, fun t ht => ?_⟩
    obtain ⟨hda, hd⟩ := hd t ht
    obtain ⟨hp, h⟩ := h t ht
    exact ih (hstep s a t hs hda hp ht) hd h

theorem along_of_forall {D : σ → α → Prop} (h : ∀ s a, D s a) (s : σ) (as : List α) :
    Along step D s as := by
  induction as generalizing s with
  | nil => trivial
  | cons a as ih => exact fun t _ => ⟨h s a, ih t⟩

/-- A condition on the actions alone is met along every run of them. -/
theorem along_of_mem {D : α → Prop} {as : List α} (h : ∀ a ∈ as, D a) (s : σ) :
    Along step (fun _ a => D a) s as := by
  induction as generalizing s with
  | nil => trivial
  | cons a as ih =>
    exact fun t _ => ⟨h a List.mem_cons_self, ih (fun b hb => h b (List.mem_cons_of_mem a hb)) t⟩

theorem Along.and {P P' : σ → α → Prop} {as : List α} {s : σ} (h : Along step P s as)
    (h' : Along step P' s as) : Along step (fun s a => P s a ∧ P' s a) s as := by
  induction as generalizing s with
  | nil => trivial
  | cons a as ih => exact fun t ht => ⟨⟨(h t ht).1, (h' t ht).1⟩, ih (h t ht).2 (h' t ht).2⟩

theorem throughout_iff_along {P : σ → α → Prop} {I Q : σ → Prop}
    (hstep : ∀ s a t, I s → P s a → step s a = some t → I t)
    (hq : ∀ s, I s → Q s)
    (hmiss : ∀ s a t, I s → step s a = some t → Q t → P s a)
    {as : List α} {s : σ} (hs : I s) :
    Throughout step Q s as ↔ Along step P s as :=
  throughout_iff_along_within (D := fun _ _ => True) (fun s a t h _ => hstep s a t h) hq
    (fun s a t h _ => hmiss s a t h) hs (along_of_forall (fun _ _ => trivial) s as)

/-! ## Runs that miss a condition once

Where the step that misses `P` does its damage only later, a second invariant carries it to
the end of the run. -/

theorem broken_of_not_along {P : σ → α → Prop} {I B : σ → Prop}
    (hstep : ∀ s a t, I s → P s a → step s a = some t → I t)
    (hmiss : ∀ s a t, I s → ¬ P s a → step s a = some t → B t)
    (hbroken : ∀ s a t, B s → step s a = some t → B t)
    {as : List α} {s t : σ} (hs : I s) (ha : ¬ Along step P s as)
    (hr : run step s as = some t) : B t := by
  induction as generalizing s with
  | nil => exact absurd trivial ha
  | cons a as ih =>
    obtain ⟨u, hu, hr⟩ := Option.bind_eq_some_iff.mp hr
    by_cases hp : P s a
    · refine ih (hstep s a u hs hp hu) (fun h => ha fun v hv => ?_) hr
      rw [hu, Option.some.injEq] at hv
      exact hv ▸ ⟨hp, h⟩
    · exact invariant_of_run hbroken (hmiss s a u hs hp hu) hr

/-- **The exact form for complete runs**: what the end of a run looks like tells whether all
    its steps met the condition. -/
theorem along_iff_of_run {P : σ → α → Prop} {I B G : σ → Prop}
    (hstep : ∀ s a t, I s → P s a → step s a = some t → I t)
    (hmiss : ∀ s a t, I s → ¬ P s a → step s a = some t → B t)
    (hbroken : ∀ s a t, B s → step s a = some t → B t)
    {as : List α} {s t : σ} (hs : I s) (hr : run step s as = some t)
    (hgood : I t → G t) (hbad : B t → ¬ G t) : G t ↔ Along step P s as := by
  constructor
  · intro hg
    by_contra ha
    exact hbad (broken_of_not_along hstep hmiss hbroken hs ha hr) hg
  · exact fun ha => hgood (invariant_of_along hstep hs ha hr)

end Transition
end Lib
