import Mathlib.Data.List.Basic

/-!
# Programs that call the outside

A program is a tree: it has a result, or it makes a call and goes on with the answer. The
environment answers the `n`-th call of a run; every environment gives one run, and with it the
list of what was called and what was answered. What a program calls is visible this way, which is
what a statement about effects needs, and a statement about every behaviour of the outside is one
about every environment.
-/

namespace Lib

universe u v w

/-- A program whose calls are `c : C`, answered by an `A c`. -/
inductive Program {C : Type u} (A : C → Type v) (α : Type w) where
  | ret (a : α)
  | call (c : C) (k : A c → Program A α)

namespace Program

variable {C : Type u} {A : C → Type v} {α β : Type w}

/-- The answers one run meets. -/
abbrev Env (A : C → Type v) := Nat → (c : C) → A c

/-- A call and its answer. -/
abbrev Event (A : C → Type v) := Σ c, A c

def bind : Program A α → (α → Program A β) → Program A β
  | .ret a, f => f a
  | .call c k, f => .call c fun r => (k r).bind f

instance : Monad (Program A) where
  pure := .ret
  bind := bind

/-- The result of the run that starts with call number `n`. -/
def result (env : Env A) : Nat → Program A α → α
  | _, .ret a => a
  | n, .call c k => result env (n + 1) (k (env n c))

/-- What is called in the run that starts with call number `n`, and what is answered. -/
def events (env : Env A) : Nat → Program A α → List (Event A)
  | _, .ret _ => []
  | n, .call c k => ⟨c, env n c⟩ :: events env (n + 1) (k (env n c))

/-- `m`, and `f` with its value unless it fails: the `?` operator. -/
def andThen {ε : Type w} (m : Program A (Except ε α)) (f : α → Program A (Except ε β)) :
    Program A (Except ε β) :=
  m.bind fun
    | .ok a => f a
    | .error e => .ret (.error e)

variable {env : Env A} {n : Nat}

@[simp] theorem pure_eq (a : α) : (pure a : Program A α) = .ret a := rfl

@[simp] theorem bind_eq (m : Program A α) (f : α → Program A β) : (m >>= f) = m.bind f := rfl

@[simp] theorem result_ret (a : α) : result env n (.ret a) = a := rfl

@[simp] theorem events_ret (a : α) : events env n (.ret a) = [] := rfl

@[simp] theorem result_call (c : C) (k : A c → Program A α) :
    result env n (.call c k) = result env (n + 1) (k (env n c)) := rfl

@[simp] theorem events_call (c : C) (k : A c → Program A α) :
    events env n (.call c k) = ⟨c, env n c⟩ :: events env (n + 1) (k (env n c)) := rfl

/-- The second part of a program starts where the first has come to. -/
theorem result_bind (m : Program A α) (f : α → Program A β) :
    result env n (m.bind f)
      = result env (n + (events env n m).length) (f (result env n m)) := by
  induction m generalizing n with
  | ret a => rfl
  | call c k ih =>
    rw [bind, result_call, ih, events_call, result_call, List.length_cons,
      Nat.add_comm (events env (n + 1) (k (env n c))).length, ← Nat.add_assoc]

/-- A run in an environment that has been asked once more before. -/
theorem result_succ {env' : Env A} (h : ∀ k, env' (k + 1) = env k) (m : Program A α) :
    result env' (n + 1) m = result env n m := by
  induction m generalizing n with
  | ret a => rfl
  | call c k ih => rw [result_call, result_call, ih, h n]

theorem events_bind (m : Program A α) (f : α → Program A β) :
    events env n (m.bind f)
      = events env n m ++ events env (n + (events env n m).length) (f (result env n m)) := by
  induction m generalizing n with
  | ret a => rfl
  | call c k ih =>
    rw [bind, events_call, ih, events_call, result_call, List.length_cons, List.cons_append,
      Nat.add_comm (events env (n + 1) (k (env n c))).length, ← Nat.add_assoc]

/-! ## Calls that are never made -/

/-- Whatever is answered, every call is allowed. -/
def Calls (allowed : C → Prop) : Program A α → Prop
  | .ret _ => True
  | .call c k => allowed c ∧ ∀ r, Calls allowed (k r)

variable {allowed : C → Prop}

@[simp] theorem calls_ret (a : α) : Calls (A := A) allowed (.ret a) := trivial

@[simp] theorem calls_call (c : C) (k : A c → Program A α) :
    Calls allowed (.call c k) ↔ allowed c ∧ ∀ r, Calls allowed (k r) := Iff.rfl

theorem Calls.bind {m : Program A α} {f : α → Program A β} (hm : m.Calls allowed)
    (hf : ∀ a, (f a).Calls allowed) : (m.bind f).Calls allowed := by
  induction m with
  | ret a => exact hf a
  | call c k ih => exact ⟨hm.1, fun r => ih r (hm.2 r)⟩

theorem Calls.andThen {ε : Type w} {m : Program A (Except ε α)} {f : α → Program A (Except ε β)}
    (hm : m.Calls allowed) (hf : ∀ a, (f a).Calls allowed) : (m.andThen f).Calls allowed := by
  refine hm.bind fun r => ?_
  cases r with
  | ok a => exact hf a
  | error e => exact calls_ret _

/-- What may not be called is not called in any run. -/
theorem Calls.events {m : Program A α} (h : m.Calls allowed) (env : Env A) (n : Nat) :
    ∀ e ∈ events env n m, allowed e.1 := by
  induction m generalizing n with
  | ret a => exact fun e he => nomatch he
  | call c k ih =>
    intro e he
    rcases List.mem_cons.mp he with rfl | he
    · exact h.1
    · exact ih _ (h.2 _) (n + 1) e he

/-! ## Programs among more calls -/

/-- The program, where its calls are some of those that can be made. -/
def embed {C' : Type u} {A' : C' → Type v} (f : C → C') (g : ∀ c, A' (f c) → A c) :
    Program A α → Program A' α
  | .ret a => .ret a
  | .call c k => .call (f c) fun r => embed f g (k (g c r))

theorem Calls.embed {C' : Type u} {A' : C' → Type v} {f : C → C'} {g : ∀ c, A' (f c) → A c}
    {allowed : C' → Prop} {m : Program A α} (h : m.Calls fun c => allowed (f c)) :
    (m.embed f g).Calls allowed := by
  induction m with
  | ret a => exact trivial
  | call c k ih => exact ⟨h.1, fun r => ih (g c r) (h.2 (g c r))⟩

theorem Calls.imp {allowed' : C → Prop} {m : Program A α} (h : m.Calls allowed)
    (himp : ∀ c, allowed c → allowed' c) : m.Calls allowed' := by
  induction m with
  | ret a => exact trivial
  | call c k ih => exact ⟨himp c h.1, fun r => ih r (h.2 r)⟩

/-! ## Programs that tell how their calls went -/

/-- The result is good if and only if `p`, and every call of the run was answered well. -/
def Tells (passed : Event A → Prop) (p : Prop) (good : α → Prop) (m : Program A α) : Prop :=
  ∀ env n, good (result env n m) ↔ p ∧ ∀ e ∈ events env n m, passed e

/-- There is no answer to any call that is not passed. -/
def Quiet (passed : Event A → Prop) : Program A α → Prop :=
  Calls fun c => ∀ r, passed ⟨c, r⟩

/-- A computation that has not failed. -/
def Fine {ε : Type w} : Except ε α → Prop
  | .ok _ => True
  | .error _ => False

section Tells

variable {passed : Event A → Prop} {p : Prop} {good : α → Prop} {good' : β → Prop}

theorem tells_ret {a : α} (h : good a ↔ p) : Tells passed p good (.ret a : Program A α) := by
  intro env n
  rw [result_ret, events_ret, h]
  exact (and_iff_left fun e he => nomatch he).symm

theorem tells_call {c : C} {k : A c → Program A α}
    (h : ∀ r, Tells passed (p ∧ passed ⟨c, r⟩) good (k r)) : Tells passed p good (.call c k) := by
  intro env n
  rw [result_call, events_call, List.forall_mem_cons, ← and_assoc]
  exact h (env n c) env (n + 1)

/-- What the first part has told, the second goes on from. -/
theorem Tells.bind {m : Program A α} {f : α → Program A β} (hm : Tells passed p good m)
    (hf : ∀ a, Tells passed (good a) good' (f a)) : Tells passed p good' (m.bind f) := by
  intro env n
  rw [result_bind, events_bind, List.forall_mem_append, ← and_assoc, ← hm env n]
  exact hf _ env _

/-- Nothing can go wrong in the program. -/
theorem Quiet.tells {m : Program A α} (h : Quiet passed m) : Tells passed p (fun _ => p) m := by
  induction m with
  | ret a => exact tells_ret Iff.rfl
  | call c k ih =>
    refine tells_call fun r env n => ?_
    rw [and_iff_left (h.1 r)]
    exact ih r (h.2 r) env n

/-- A program that ends with the first failure tells if its parts do. -/
theorem Tells.andThen {ε : Type w} {m : Program A (Except ε α)} {f : α → Program A (Except ε β)}
    (hm : Tells passed p (fun r => p ∧ Fine r) m)
    (hf : ∀ a, Tells passed p (fun r => p ∧ Fine r) (f a)) :
    Tells passed p (fun r => p ∧ Fine r) (m.andThen f) := by
  refine hm.bind fun r => ?_
  cases r with
  | ok a =>
    intro env n
    have hfine : (p ∧ Fine (Except.ok a : Except ε α)) ↔ p := and_iff_left trivial
    rw [hfine]
    exact hf a env n
  | error e => exact tells_ret (and_congr_right' Iff.rfl)

/-- A program that has not failed has done both its parts. -/
theorem exists_of_fine_andThen {ε : Type w} {m : Program A (Except ε α)}
    {f : α → Program A (Except ε β)} (h : Fine (result env n (m.andThen f))) :
    ∃ a k, result env n m = .ok a ∧ Fine (result env k (f a)) ∧
      events env n (m.andThen f) = events env n m ++ events env k (f a) := by
  unfold Program.andThen at h ⊢
  rw [result_bind] at h
  cases hm : result env n m with
  | error e =>
    rw [hm] at h
    exact h.elim
  | ok a =>
    rw [hm] at h
    rw [events_bind, hm]
    exact ⟨a, _, rfl, h, rfl⟩

end Tells

/-! ## Programs beside a changing outside

Where what a call may rely on changes with the calls before it, the outside has a state. What a call
and its answer may do to it is a relation; a program meets its contract if every call it makes finds
the outside as the call needs it, and the result is right for the state it leaves. -/

/-- Every call finds its `need`, and the result its `goal`, whatever the answers and whatever they
    do to the outside within `may`. -/
def Meets {W : Type*} (may : (c : C) → A c → W → W → Prop) (need : C → W → Prop)
    (goal : α → W → Prop) : Program A α → W → Prop
  | .ret a, w => goal a w
  | .call c k, w => need c w ∧ ∀ r w', may c r w w' → Meets may need goal (k r) w'

section Meets

variable {W : Type*} {may : (c : C) → A c → W → W → Prop} {need : C → W → Prop}
  {goal goal' : α → W → Prop} {w : W}

@[simp] theorem meets_ret (a : α) : Meets may need goal (.ret a) w ↔ goal a w := Iff.rfl

@[simp] theorem meets_call (c : C) (k : A c → Program A α) :
    Meets may need goal (.call c k) w ↔
      need c w ∧ ∀ r w', may c r w w' → Meets may need goal (k r) w' := Iff.rfl

theorem Meets.imp {m : Program A α} (h : Meets may need goal m w)
    (himp : ∀ a w, goal a w → goal' a w) : Meets may need goal' m w := by
  induction m generalizing w with
  | ret a => exact himp a w h
  | call c k ih => exact ⟨h.1, fun r w' hr => ih r (h.2 r w' hr)⟩

/-- The second part of a program goes on from what the first has reached. -/
theorem Meets.bind {goal : β → W → Prop} {m : Program A α} {f : α → Program A β}
    (h : Meets may need (fun a w => Meets may need goal (f a) w) m w) :
    Meets may need goal (m.bind f) w := by
  induction m generalizing w with
  | ret a => exact h
  | call c k ih => exact ⟨h.1, fun r w' hr => ih r (h.2 r w' hr)⟩

end Meets

end Program
end Lib
