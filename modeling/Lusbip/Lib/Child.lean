import Mathlib.Logic.Function.Basic
import Lusbip.Lib.Transition

/-!
# Child processes that write

A process that another one has started works, writes items to its streams and ends, or never ends.
A stream goes nowhere or into a pipe, and a pipe holds so many items; a write that does not fit
stops the process where it is.

The process may leave descendants behind that have its pipes too: these go on after its end, and may
let go of the pipes or never do. Who reads a pipe to its end has to wait for that.

The parent reads when it likes (`drain`); here it is one that does not before the child has ended.
`Follows` ties a child to its program: what has been read of a pipe and what the pipe still holds
are together what has been written so far, whole and in order. So the child can come to its end if
and only if everything it writes until then fits (`Follows.exited`, `run_to_end`), and after that its
pipes can come to their end if and only if those that it leaves behind let go of them.
-/

namespace Lib
namespace Child

variable {σ β ε : Type*}

inductive Op (σ β : Type*) where
  | work
  | write (stream : σ) (item : β)

/-- The descendants that a process leaves behind with its pipes: what they do after its end, in the
    order in which it comes about, and whether they let go of the pipes then. -/
structure Descendants (σ β : Type*) where
  ops : List (Op σ β)
  letGo : Bool

/-- What a process does, itself or through others that it has started, and how it ends; without an
    ending it goes on for ever. -/
structure Program (σ β ε : Type*) where
  ops : List (Op σ β)
  ending : Option ε
  /-- Those that keep its pipes open when it ends. -/
  descendants : Option (Descendants σ β) := none

/-- The operations that are left after the end, if there are any. -/
def Program.afterwards (program : Program σ β ε) : List (Op σ β) :=
  (program.descendants.map (·.ops)).getD []

/-- In the end nobody has the pipes any more. -/
def Program.letsGo (program : Program σ β ε) : Bool := program.descendants.all (·.letGo)

/-- Where a stream goes to: nowhere, or into a pipe that holds at most so many items. -/
structure Pipe (β : Type*) (capacity : Option Nat) where
  /-- What has been read out of it. -/
  taken : List β
  items : List β
  fits : ∀ n ∈ capacity, items.length ≤ n

namespace Pipe

def empty (capacity : Option Nat) : Pipe β capacity := ⟨[], [], fun _ _ => Nat.zero_le _⟩

/-- Everything that the pipe holds is read. -/
def drain {capacity : Option Nat} (p : Pipe β capacity) : Pipe β capacity :=
  ⟨p.taken ++ p.items, [], fun _ _ => Nat.zero_le _⟩

/-- One more item, if there is room. -/
def push : {capacity : Option Nat} → Pipe β capacity → β → Option (Pipe β capacity)
  | none, p, _ => some p
  | some n, p, b =>
      if h : p.items.length < n then
        some ⟨p.taken, p.items ++ [b], fun m hm => by
          cases Option.mem_some.mp hm
          rw [List.length_append]
          exact h⟩
      else none

end Pipe

/-- What remains of the items that were written to a stream with that capacity. -/
def caught (capacity : Option Nat) (items : List β) : List β :=
  if capacity.isSome then items else []

theorem caught_of_mem {capacity : Option Nat} {n : Nat} (hn : n ∈ capacity) (items : List β) :
    caught capacity items = items :=
  if_pos (Option.isSome_iff_exists.mpr ⟨n, hn⟩)

inductive Life (σ β ε : Type*) where
  | running (rest : List (Op σ β))
  /-- The process has ended. What is left is what the descendants with its pipes still do, or
      `none` when nobody has them any more. -/
  | exited (status : ε) (left : Option (List (Op σ β)))
  /-- What its descendants do is of no interest then: nobody reads the pipes. -/
  | killed

end Child

open Child in
structure Child (β ε : Type*) {σ : Type*} (capacity : σ → Option Nat) where
  life : Life σ β ε
  pipes : (stream : σ) → Pipe β (capacity stream)

namespace Child

open Transition

variable {σ β ε : Type*} {capacity : σ → Option Nat}

/-- A child as it is started. -/
def start (program : Program σ β ε) : Child β ε capacity where
  life := .running program.ops
  pipes _ := .empty _

/-- A signal that cannot be caught. What has exited stays as it is. -/
def kill (c : Child β ε capacity) : Child β ε capacity :=
  match c.life with
  | .running _ => { c with life := .killed }
  | _ => c

def isRunning (c : Child β ε capacity) : Bool :=
  match c.life with
  | .running _ => true
  | _ => false

/-- Somebody may still write into the pipes of this ended child. -/
def isHeld (c : Child β ε capacity) : Bool :=
  match c.life with
  | .exited _ (some _) => true
  | _ => false

/-- The parent reads what the pipes hold. -/
def drain (c : Child β ε capacity) : Child β ε capacity :=
  { c with pipes := fun stream => (c.pipes stream).drain }

theorem exists_of_isHeld {c : Child β ε capacity} (h : c.isHeld) :
    ∃ status ops, c.life = .exited status (some ops) := by
  unfold isHeld at h
  split at h
  · rename_i status ops hlife
    exact ⟨status, ops, hlife⟩
  · cases h

theorem isHeld_of_life {c : Child β ε capacity} {status : ε} {ops : List (Op σ β)}
    (hc : c.life = .exited status (some ops)) : c.drain.isHeld := by
  have hdrain : c.drain.life = .exited status (some ops) := hc
  unfold isHeld
  rw [hdrain]

theorem not_isHeld_of_life {c : Child β ε capacity} {status : ε} (hc : c.life = .exited status none) :
    ¬ c.drain.isHeld := by
  have hdrain : c.drain.life = .exited status none := hc
  unfold isHeld
  rw [hdrain]
  exact Bool.false_ne_true

theorem left_eq_none {c : Child β ε capacity} {status : ε} {left : Option (List (Op σ β))}
    (hc : c.life = .exited status left) (h : ¬ c.isHeld) : left = none := by
  cases left with
  | none => rfl
  | some ops =>
    refine absurd ?_ h
    unfold isHeld
    rw [hc]

theorem isRunning_kill (c : Child β ε capacity) : c.kill.isRunning = false := by
  unfold Child.kill
  split
  · rfl
  · rename_i hlife
    unfold isRunning
    split
    · exact absurd ‹_› (hlife _)
    · rfl

variable [DecidableEq σ]

/-- The items written to a stream. -/
def written (stream : σ) (ops : List (Op σ β)) : List β :=
  ops.filterMap fun
    | .work => none
    | .write s b => if s = stream then some b else none

/-- The next operation, of the process or of a descendant, if there is room for what it writes. -/
def perform (pipes : (stream : σ) → Pipe β (capacity stream)) :
    Op σ β → Option ((stream : σ) → Pipe β (capacity stream))
  | .work => some pipes
  | .write stream item => ((pipes stream).push item).map fun pipe => Function.update pipes stream pipe

/-- The child goes on, or those that it has left behind. -/
def step (program : Program σ β ε) (c : Child β ε capacity) : Option (Child β ε capacity) :=
  match c.life with
  | .running [] =>
      program.ending.map fun status =>
        { c with life := .exited status (program.descendants.map (·.ops)) }
  | .running (op :: rest) =>
      (perform c.pipes op).map fun pipes => { life := .running rest, pipes }
  | .exited status (some []) =>
      if program.letsGo then some { c with life := .exited status none } else none
  | .exited status (some (op :: rest)) =>
      (perform c.pipes op).map fun pipes => { life := .exited status (some rest), pipes }
  | .exited _ none => none
  | .killed => none

section

variable {program : Program σ β ε} {c d : Child β ε capacity}

/-- What has ended does not run again. -/
theorem isRunning_step (h : c.step program = some d) (hc : c.isRunning = false) :
    d.isRunning = false := by
  unfold isRunning at hc
  unfold Child.step at h
  split at h
  · rename_i hlife
    rw [hlife] at hc
    cases hc
  · rename_i hlife
    rw [hlife] at hc
    cases hc
  · split at h
    · cases h
      rfl
    · cases h
  · obtain ⟨pipes, -, rfl⟩ := Option.map_eq_some_iff.mp h
    rfl
  · cases h
  · cases h

/-- What has ended keeps its status. -/
theorem exited_step {status : ε} {left : Option (List (Op σ β))} (h : c.step program = some d)
    (hc : c.life = .exited status left) : ∃ rest, d.life = .exited status rest := by
  unfold Child.step at h
  rw [hc] at h
  match left with
  | none => cases h
  | some [] =>
    dsimp only at h
    split at h
    · cases h
      exact ⟨_, rfl⟩
    · cases h
  | some (op :: rest) =>
    obtain ⟨pipes, -, rfl⟩ := Option.map_eq_some_iff.mp h
    exact ⟨_, rfl⟩

theorem life_ne_killed_of_step (h : c.step program = some d) : d.life ≠ .killed := by
  unfold Child.step at h
  intro hkilled
  split at h
  · obtain ⟨status, -, rfl⟩ := Option.map_eq_some_iff.mp h
    cases hkilled
  · obtain ⟨pipes, -, rfl⟩ := Option.map_eq_some_iff.mp h
    cases hkilled
  · split at h
    · cases h
      cases hkilled
    · cases h
  · obtain ⟨pipes, -, rfl⟩ := Option.map_eq_some_iff.mp h
    cases hkilled
  · cases h
  · cases h

end

/-! ## Pipes -/

namespace Pipe

variable {capacity : Option Nat}

/-- What has been put into the pipe, whether or not it has been read. -/
def contents (p : Pipe β capacity) : List β := p.taken ++ p.items

theorem contents_drain (p : Pipe β capacity) : p.drain.contents = p.contents :=
  List.append_nil _

theorem contents_push {p q : Pipe β capacity} {b : β} {items : List β}
    (hp : p.contents = caught capacity items) (h : p.push b = some q) :
    q.contents = caught capacity (items ++ [b]) := by
  cases capacity with
  | none =>
    cases h
    exact hp
  | some n =>
    have hp : p.contents = items := hp
    by_cases hroom : p.items.length < n
    · rw [push, dif_pos hroom] at h
      cases h
      show p.taken ++ (p.items ++ [b]) = items ++ [b]
      rw [← List.append_assoc, ← hp]
      rfl
    · rw [push, dif_neg hroom] at h
      cases h

theorem taken_push {p q : Pipe β capacity} {b : β} (h : p.push b = some q) :
    q.taken = p.taken := by
  cases capacity with
  | none =>
    cases h
    rfl
  | some n =>
    by_cases hroom : p.items.length < n
    · rw [push, dif_pos hroom] at h
      cases h
      rfl
    · rw [push, dif_neg hroom] at h
      cases h

theorem exists_push {p : Pipe β capacity} {b : β} (h : ∀ n ∈ capacity, p.items.length < n) :
    ∃ q, p.push b = some q := by
  cases capacity with
  | none => exact ⟨p, rfl⟩
  | some n => exact ⟨_, dif_pos (h n rfl)⟩

end Pipe

theorem written_append (stream : σ) (xs ys : List (Op σ β)) :
    written stream (xs ++ ys) = written stream xs ++ written stream ys := List.filterMap_append ..

theorem written_write (stream : σ) (item : β) : written stream [.write stream item] = [item] := by
  simp [written]

theorem written_write_of_ne {stream s : σ} (h : s ≠ stream) (item : β) :
    written stream [.write s item] = [] := by
  simp [written, h]

/-! ## One operation -/

section

variable {pipes next : (stream : σ) → Pipe β (capacity stream)} {op : Op σ β}

/-- An operation adds what it writes, and nothing else. -/
theorem contents_perform {done : List (Op σ β)}
    (hpipes : ∀ stream, (pipes stream).contents = caught (capacity stream) (written stream done))
    (h : perform pipes op = some next) (stream : σ) :
    (next stream).contents = caught (capacity stream) (written stream (done ++ [op])) := by
  rw [written_append]
  cases op with
  | work =>
    cases h
    exact (hpipes stream).trans (congrArg _ (List.append_nil _).symm)
  | write s item =>
    obtain ⟨pipe, hpipe, rfl⟩ := Option.map_eq_some_iff.mp h
    by_cases hstream : stream = s
    · subst hstream
      rw [Function.update_self, written_write]
      exact Pipe.contents_push (hpipes stream) hpipe
    · rw [Function.update_of_ne hstream, written_write_of_ne (Ne.symm hstream), List.append_nil]
      exact hpipes stream

theorem taken_perform (h : perform pipes op = some next) (stream : σ) :
    (next stream).taken = (pipes stream).taken := by
  cases op with
  | work =>
    cases h
    rfl
  | write s item =>
    obtain ⟨pipe, hpipe, rfl⟩ := Option.map_eq_some_iff.mp h
    by_cases hstream : stream = s
    · subst hstream
      rw [Function.update_self]
      exact Pipe.taken_push hpipe
    · rw [Function.update_of_ne hstream]

/-- An operation can be performed if there is room in the pipe it writes to. -/
theorem exists_perform
    (h : ∀ s item, op = .write s item → ∀ n ∈ capacity s, (pipes s).items.length < n) :
    ∃ next, perform pipes op = some next := by
  cases op with
  | work => exact ⟨pipes, rfl⟩
  | write s item =>
    obtain ⟨pipe, hpipe⟩ := Pipe.exists_push (h s item rfl) (b := item)
    exact ⟨Function.update pipes s pipe, congrArg (Option.map _) hpipe⟩

end

/-! ## A child and its program -/

/-- Everything that these operations write fits into the pipes. -/
def Fits (capacity : σ → Option Nat) (ops : List (Op σ β)) : Prop :=
  ∀ stream, ∀ n ∈ capacity stream, (written stream ops).length ≤ n

/-- The child has done a part of its program, all of it if it has exited, and so have its
    descendants then. Its pipes have taken in what has been written; nothing of that is read before
    it has exited, so up to then it did fit. -/
structure Follows (program : Program σ β ε) (done : List (Op σ β)) (c : Child β ε capacity) :
    Prop where
  running : ∀ rest, c.life = .running rest →
    program.ops = done ++ rest ∧ ∀ stream, (c.pipes stream).taken = []
  exited : ∀ status left, c.life = .exited status left →
    program.ending = some status ∧ Fits capacity program.ops ∧
      done ++ left.getD [] = program.ops ++ program.afterwards ∧
      (left = none → program.letsGo)
  pipes : ∀ stream, (c.pipes stream).contents = caught (capacity stream) (written stream done)

theorem follows_start (program : Program σ β ε) :
    Follows program [] (start program : Child β ε capacity) where
  running rest h := by
    cases h
    exact ⟨rfl, fun _ => rfl⟩
  exited status left h := nomatch h
  pipes stream := by
    show [] = caught (capacity stream) []
    unfold caught
    split <;> rfl

variable {program : Program σ β ε} {done : List (Op σ β)} {c d : Child β ε capacity}

/-- What a child has written without being read has fitted into its pipes. -/
theorem Follows.fits_done (h : Follows program done c)
    (htaken : ∀ stream, (c.pipes stream).taken = []) : Fits capacity done := by
  intro stream n hn
  have hcontents := h.pipes stream
  rw [Pipe.contents, htaken, List.nil_append, caught_of_mem hn] at hcontents
  exact hcontents ▸ (c.pipes stream).fits n hn

theorem Follows.step (h : Follows program done c) (hs : c.step program = some d) :
    ∃ done, Follows program done d := by
  unfold Child.step at hs
  split at hs
  · rename_i hlife
    obtain ⟨status, hending, rfl⟩ := Option.map_eq_some_iff.mp hs
    obtain ⟨hops, htaken⟩ := h.running _ hlife
    rw [List.append_nil] at hops
    refine ⟨done, fun _ hr => (nomatch hr), fun status' left hx => ?_, h.pipes⟩
    cases hx
    refine ⟨hending, hops ▸ h.fits_done htaken, congrArg (· ++ _) hops.symm, fun hleft => ?_⟩
    rw [Program.letsGo, Option.map_eq_none_iff.mp hleft]
    rfl
  · rename_i op rest hlife
    obtain ⟨pipes, hpipes, rfl⟩ := Option.map_eq_some_iff.mp hs
    obtain ⟨hops, htaken⟩ := h.running _ hlife
    refine ⟨done ++ [op], fun rest' hr => ?_, fun _ _ hx => (nomatch hx),
      contents_perform h.pipes hpipes⟩
    cases hr
    refine ⟨?_, fun stream => (taken_perform hpipes stream).trans (htaken stream)⟩
    rw [hops, List.append_assoc]
    rfl
  -- Those left behind have done all they do, and let go of the pipes.
  · rename_i status hlife
    split at hs
    · rename_i hletsGo
      cases hs
      refine ⟨done, fun _ hr => (nomatch hr), fun status' left hx => ?_, h.pipes⟩
      cases hx
      obtain ⟨hending, hfits, hops, -⟩ := h.exited _ _ hlife
      exact ⟨hending, hfits, hops, fun _ => hletsGo⟩
    · cases hs
  -- What they write comes after all that the process has written itself.
  · rename_i status op rest hlife
    obtain ⟨pipes, hpipes, rfl⟩ := Option.map_eq_some_iff.mp hs
    obtain ⟨hending, hfits, hops, -⟩ := h.exited _ _ hlife
    refine ⟨done ++ [op], fun _ hr => (nomatch hr), fun status' left hx => ?_,
      contents_perform h.pipes hpipes⟩
    cases hx
    refine ⟨hending, hfits, ?_, fun hleft => (nomatch hleft)⟩
    rw [List.append_assoc]
    exact hops
  · cases hs
  · cases hs

theorem Follows.kill (h : Follows program done c) : Follows program done c.kill := by
  unfold Child.kill
  split
  · exact ⟨fun _ hr => (nomatch hr), fun _ _ hx => (nomatch hx), h.pipes⟩
  · exact h

/-- An ended child may be read. -/
theorem Follows.drain (h : Follows program done c) {status : ε} {left : Option (List (Op σ β))}
    (hc : c.life = .exited status left) : Follows program done c.drain where
  running _ hr := nomatch hc.symm.trans hr
  exited := h.exited
  pipes stream := (Pipe.contents_drain _).trans (h.pipes stream)

/-! ## To the end -/

/-- While there is room for the rest, the child goes on by one operation. -/
theorem Follows.step_running {op : Op σ β} {rest : List (Op σ β)} (h : Follows program done c)
    (hlife : c.life = .running (op :: rest)) (hfits : Fits capacity program.ops) :
    ∃ d, c.step program = some d ∧ d.life = .running rest := by
  obtain ⟨hops, htaken⟩ := h.running _ hlife
  have hroom : ∀ s item, op = .write s item → ∀ n ∈ capacity s, (c.pipes s).items.length < n := by
    rintro s item rfl n hn
    have hall := hfits s n hn
    rw [hops, written_append, List.length_append] at hall
    have hcons : written s (.write s item :: rest) = item :: written s rest := by
      simp [written]
    rw [hcons, List.length_cons] at hall
    have hcontents := h.pipes s
    rw [Pipe.contents, htaken, List.nil_append, caught_of_mem hn] at hcontents
    rw [hcontents]
    omega
  obtain ⟨pipes, hpipes⟩ := exists_perform hroom
  refine ⟨{ life := .running rest, pipes }, ?_, rfl⟩
  unfold Child.step
  rw [hlife]
  dsimp only
  rw [hpipes]
  rfl

/-- **A child whose output fits comes to its end**, left to itself. -/
theorem run_to_end {status : ε} (hfits : Fits capacity program.ops)
    (hending : program.ending = some status) {rest : List (Op σ β)} {c : Child β ε capacity}
    {done : List (Op σ β)} (h : Follows program done c) (hlife : c.life = .running rest) :
    ∃ d, run (fun c (_ : Unit) => c.step program) c (List.replicate (rest.length + 1) ()) = some d ∧
      d.life = .exited status (program.descendants.map (·.ops)) := by
  induction rest generalizing c done with
  | nil =>
    refine ⟨{ c with life := .exited status (program.descendants.map (·.ops)) }, ?_, rfl⟩
    show (c.step program).bind some = _
    rw [Child.step, hlife, hending]
    rfl
  | cons op rest ih =>
    obtain ⟨d, hstep, hd⟩ := h.step_running hlife hfits
    obtain ⟨done', hdone⟩ := h.step hstep
    obtain ⟨e, hrun, he⟩ := ih hdone hd
    refine ⟨e, ?_, he⟩
    rw [List.length_cons, List.replicate_succ, run_cons, hstep]
    exact hrun

/-- With the pipes of an ended child read, those that it left behind go on by one operation. -/
theorem step_left {op : Op σ β} {rest : List (Op σ β)} {status : ε}
    (hcapacity : ∀ stream, capacity stream ≠ some 0)
    (hlife : c.life = .exited status (some (op :: rest))) :
    ∃ d, c.drain.step program = some d ∧ d.life = .exited status (some rest) := by
  have hroom : ∀ s item, op = .write s item →
      ∀ n ∈ capacity s, (c.drain.pipes s).items.length < n := by
    rintro s item - n hn
    exact Nat.pos_of_ne_zero fun hzero => hcapacity s (hzero ▸ Option.mem_def.mp hn)
  obtain ⟨pipes, hpipes⟩ := exists_perform hroom
  refine ⟨{ life := .exited status (some rest), pipes }, ?_, rfl⟩
  have hdrain : c.drain.life = .exited status (some (op :: rest)) := hlife
  unfold Child.step
  rw [hdrain]
  dsimp only
  rw [hpipes]
  rfl

/-- The last of the descendants lets go of the pipes, if the program has it so. -/
theorem step_close {status : ε} (hlife : c.life = .exited status (some []))
    (hletsGo : program.letsGo) :
    c.step program = some { c with life := .exited status none } := by
  unfold Child.step
  rw [hlife]
  exact if_pos hletsGo

end Child
end Lib
