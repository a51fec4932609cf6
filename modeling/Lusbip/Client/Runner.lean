import Mathlib.Data.PNat.Defs
import Lusbip.Lib.Child
import Lusbip.Lib.Fields
import Lusbip.Lib.Progress

/-!
# `StdCommandRunner`

`run` and `run_interactive` start a command and look every 50 milliseconds whether it has ended; after
20 seconds they kill it. `run` has the output and the errors go into pipes, and reads those only when
the command has ended; `run_interactive` throws them away.

So there are two ways to lose the output of a command. One that says more than its pipes hold never
ends, and runs into the timeout. One that ends, but leaves a descendant behind that keeps a pipe open,
is waited for without any timeout at all: `wait_with_output` reads up to the end of both pipes.

The command takes its steps whenever it likes, and time passes between any two steps of the loop.
`spawn` has succeeded. A command that dies of a signal somebody else sends ends with that status.
-/

namespace Lusbip
namespace Runner

open Lib
open Lib.Fields
open Lib.Transition

/-! ## The loop -/

/-- `USBIP_COMMAND_TIMEOUT`, in milliseconds. -/
def usbipCommandTimeout : Nat := 20000

/-- `CHILD_POLL_INTERVAL`, in milliseconds. -/
def childPollInterval : Nat := 50

/-- The streams of the child that its parent may want to read. -/
inductive Stream where
  | stdout
  | stderr
  deriving DecidableEq, Repr

/-- Where the streams of the child go. -/
inductive Stdio where
  | null
  | piped (capacity : ℕ+)

/-- `Stdio::null()` or `Stdio::piped()`, for both streams. -/
def Stdio.capacity : Stdio → Stream → Option Nat
  | .null, _ => none
  | .piped n, _ => some n

/-- Whether the streams are there to be read. -/
def Stdio.isPiped : Stdio → Bool
  | .null => false
  | .piped _ => true

/-- A command: what it does, and the status it ends with. -/
abbrev Command := Child.Program Stream UInt8 Int

/-- `Output`; of the status, `run_interactive` returns nothing more. -/
structure Output where
  status : Int
  text : Stream → List UInt8

/-- Why there is no output. The error of the poll is not told apart any further. -/
inductive Failure where
  | pollFailed
  /-- `ErrorKind::TimedOut` -/
  | timedOut (message : Text)
  deriving DecidableEq, Repr

/-- Where the loop is. -/
inductive Phase where
  /-- About to `try_wait`. -/
  | polling
  /-- About to look at the clock. -/
  | checking
  | sleeping (wakeAt : Nat)
  /-- About to kill the child. -/
  | killing
  /-- About to `wait` for the killed child. -/
  | waiting
  /-- In `wait_with_output`, with the status at hand. -/
  | reading (status : Int)
  | returned (result : Except Failure Output)

/-- What follows when the child has ended: `run` goes on to read the pipes, `run_interactive` returns
    the status. -/
def Stdio.afterEnd (status : Int) : Stdio → Phase
  | .null => .returned (.ok { status, text := fun _ => [] })
  | .piped _ => .reading status

/-- The variables of the loop, with the child and the clock. -/
structure Running (stdio : Stdio) where
  child : Child UInt8 Int stdio.capacity
  /-- Milliseconds since the child was started. -/
  elapsed : Nat := 0
  phase : Phase := .polling
  /-- The child has been waited for, so that no zombie is left. -/
  reaped : Bool := false
  /-- History: how often the child was looked at. -/
  polls : Nat := 0

/-- Who goes on: the child, the clock, or the loop. -/
inductive Action where
  /-- The child goes on, or those that it has left behind. -/
  | child
  | pass (ms : Nat)
  /-- The loop goes on; its call of the system fails if it can. -/
  | loop (fails : Bool)

/-- The text of the timeout. -/
def timeoutMessage (program : Text) : Text :=
  program ++ " timed out after ".toList ++ decimal (usbipCommandTimeout / 1000) ++
    " seconds".toList

variable {stdio : Stdio}

/-- The next step of the loop. -/
def loopStep (program : Text) (s : Running stdio) (fails : Bool) : Option (Running stdio) :=
  match s.phase with
  | .polling =>
      let s := { s with polls := s.polls + 1 }
      if fails then some { s with phase := .returned (.error .pollFailed) }
      else
        match s.child.life with
        | .running _ => some { s with phase := .checking }
        | .exited status _ => some { s with phase := stdio.afterEnd status, reaped := true }
        -- Only this loop kills the child, and it does not come back here then.
        | .killed => none
  | .checking =>
      if usbipCommandTimeout ≤ s.elapsed then some { s with phase := .killing }
      else some { s with phase := .sleeping (s.elapsed + childPollInterval) }
  | .sleeping wakeAt => if wakeAt ≤ s.elapsed then some { s with phase := .polling } else none
  | .killing =>
      -- The result of `kill` is not looked at.
      if fails then some { s with phase := .waiting }
      else some { s with child := s.child.kill, phase := .waiting }
  | .waiting =>
      if s.child.isRunning then none
      else
        some
          { s with
            phase := .returned (.error (.timedOut (timeoutMessage program)))
            reaped := true }
  | .reading status =>
      -- `read2` reads both streams, and comes back when both are at their end.
      let s := { s with child := s.child.drain }
      if s.child.isHeld then some s
      else
        let output : Output := { status, text := fun stream => (s.child.pipes stream).taken }
        some { s with phase := .returned (.ok output) }
  | .returned _ => none

/-- The three go on in any order. -/
def step (program : Text) (command : Command) (s : Running stdio) :
    Action → Option (Running stdio)
  | .child => (s.child.step command).map fun child => { s with child }
  | .pass ms => some { s with elapsed := s.elapsed + ms }
  | .loop fails => loopStep program s fails

/-- The child has just been started, and nobody has looked at it. -/
def start (stdio : Stdio) (command : Command) : Running stdio where
  child := Child.start command

/-- `StdCommandRunner::run`, with pipes of that capacity. -/
def run (capacity : ℕ+) (command : Command) : Running (.piped capacity) := start _ command

/-- `StdCommandRunner::run_interactive` -/
def runInteractive (command : Command) : Running .null := start _ command

/-! ## What the loop has come to -/

/-- What is returned is true: of a command that has ended, its status and, where it is read, all that
    it and those it left behind have written, whole and in order, for which its pipes had room up to
    its end; of one that has not, that its time is over. Both are reaped. -/
def Phase.Tells (stdio : Stdio) (command : Command) (s : Running stdio) : Phase → Prop
  | .reading status => s.reaped = true ∧ ∃ left, s.child.life = .exited status left
  | .returned (.ok output) =>
      s.reaped = true ∧ command.ending = some output.status ∧
        Child.Fits stdio.capacity command.ops ∧ (stdio.isPiped → command.letsGo) ∧
        ∀ stream, output.text stream = Child.caught (stdio.capacity stream)
          (Child.written stream (command.ops ++ command.afterwards))
  | .returned (.error (.timedOut _)) =>
      s.reaped = true ∧ s.child.isRunning = false ∧ usbipCommandTimeout ≤ s.elapsed
  | _ => True

/-- How often the loop can have looked. -/
def Phase.Counted (elapsed polls : Nat) : Phase → Prop
  | .polling => childPollInterval * polls ≤ elapsed ∧ polls ≤ 400
  | .checking => childPollInterval * polls ≤ elapsed + childPollInterval ∧ polls ≤ 401
  | .sleeping wakeAt => childPollInterval * polls ≤ wakeAt ∧ polls ≤ 400
  | .killing => usbipCommandTimeout ≤ elapsed ∧ polls ≤ 401
  | .waiting => usbipCommandTimeout ≤ elapsed ∧ polls ≤ 401
  | .reading _ => polls ≤ 401
  | .returned _ => polls ≤ 401

/-- What every state of a run is: the child follows its program, what is told is true, and the polls
    are counted by the clock. -/
structure Sound (command : Command) (s : Running stdio) : Prop where
  follows : ∃ done, Child.Follows command done s.child
  tells : s.phase.Tells stdio command s
  counted : s.phase.Counted s.elapsed s.polls

theorem sound_start (command : Command) : Sound command (start stdio command) where
  follows := ⟨[], Child.follows_start command⟩
  tells := trivial
  counted := ⟨Nat.le_refl 0, Nat.zero_le _⟩

variable {program : Text} {command : Command} {s t : Running stdio}

theorem Phase.Counted.pass {elapsed polls : Nat} {phase : Phase} (h : phase.Counted elapsed polls)
    (ms : Nat) : phase.Counted (elapsed + ms) polls := by
  cases phase with
  | polling => exact ⟨Nat.le_trans h.1 (Nat.le_add_right _ _), h.2⟩
  | checking =>
    refine ⟨Nat.le_trans h.1 ?_, h.2⟩
    omega
  | sleeping wakeAt => exact h
  | killing => exact ⟨Nat.le_trans h.1 (Nat.le_add_right _ _), h.2⟩
  | waiting => exact ⟨Nat.le_trans h.1 (Nat.le_add_right _ _), h.2⟩
  | reading status => exact h
  | returned result => exact h

/-- What was told stays true while the child stays dead and time passes. -/
theorem Phase.Tells.later {phase : Phase} (h : phase.Tells stdio command s)
    (hreaped : s.reaped = t.reaped) (hdead : s.child.isRunning = false → t.child.isRunning = false)
    (hended : ∀ status left, s.child.life = .exited status left →
      ∃ rest, t.child.life = .exited status rest)
    (helapsed : s.elapsed ≤ t.elapsed) : phase.Tells stdio command t := by
  cases phase with
  | reading status =>
    obtain ⟨hwaited, left, hleft⟩ := h
    exact ⟨hreaped ▸ hwaited, hended status left hleft⟩
  | returned result =>
    cases result with
    | ok output => exact ⟨hreaped ▸ h.1, h.2⟩
    | error err =>
      cases err with
      | pollFailed => trivial
      | timedOut message => exact ⟨hreaped ▸ h.1, hdead h.2.1, Nat.le_trans h.2.2 helapsed⟩
  | _ => trivial

theorem Sound.pass (h : Sound command s) (ms : Nat) :
    Sound command { s with elapsed := s.elapsed + ms } :=
  ⟨h.follows, h.tells.later rfl id (fun _ left hleft => ⟨left, hleft⟩) (Nat.le_add_right _ _),
    h.counted.pass ms⟩

theorem Sound.child (h : Sound command s) {child : Child UInt8 Int stdio.capacity}
    (hs : s.child.step command = some child) : Sound command { s with child } := by
  obtain ⟨done, hdone⟩ := h.follows
  exact ⟨hdone.step hs, h.tells.later rfl (Child.isRunning_step hs)
    (fun _ _ hleft => Child.exited_step hs hleft) (Nat.le_refl _), h.counted⟩

/-- What a step of the loop can come to. -/
inductive LoopTurn (program : Text) (s : Running stdio) (fails : Bool) : Running stdio → Prop where
  | pollFails (hphase : s.phase = .polling) (hfails : fails = true) :
      LoopTurn program s fails
        { s with polls := s.polls + 1, phase := .returned (.error .pollFailed) }
  | stillRuns (hphase : s.phase = .polling) {rest : List (Child.Op Stream UInt8)}
      (hlife : s.child.life = .running rest) :
      LoopTurn program s fails { s with polls := s.polls + 1, phase := .checking }
  | ended (hphase : s.phase = .polling) {status : Int} {left : Option (List (Child.Op Stream UInt8))}
      (hlife : s.child.life = .exited status left) :
      LoopTurn program s fails
        { s with polls := s.polls + 1, phase := stdio.afterEnd status, reaped := true }
  | late (hphase : s.phase = .checking) (hover : usbipCommandTimeout ≤ s.elapsed) :
      LoopTurn program s fails { s with phase := .killing }
  | early (hphase : s.phase = .checking) (hearly : ¬ usbipCommandTimeout ≤ s.elapsed) :
      LoopTurn program s fails { s with phase := .sleeping (s.elapsed + childPollInterval) }
  | wakes {wakeAt : Nat} (hphase : s.phase = .sleeping wakeAt) (hdue : wakeAt ≤ s.elapsed) :
      LoopTurn program s fails { s with phase := .polling }
  | killFails (hphase : s.phase = .killing) : LoopTurn program s fails { s with phase := .waiting }
  | kills (hphase : s.phase = .killing) :
      LoopTurn program s fails { s with child := s.child.kill, phase := .waiting }
  | timesOut (hphase : s.phase = .waiting) (hdead : ¬ s.child.isRunning) :
      LoopTurn program s fails
        { s with
          phase := .returned (.error (.timedOut (timeoutMessage program)))
          reaped := true }
  | reads {status : Int} (hphase : s.phase = .reading status) (hheld : s.child.drain.isHeld) :
      LoopTurn program s fails { s with child := s.child.drain, phase := .reading status }
  | hears {status : Int} (hphase : s.phase = .reading status) (hfree : ¬ s.child.drain.isHeld) :
      LoopTurn program s fails
        { s with
          child := s.child.drain
          phase := .returned
            (.ok { status, text := fun stream => (s.child.drain.pipes stream).taken }) }

theorem turn_of_loopStep {fails : Bool} (hs : loopStep program s fails = some t) :
    LoopTurn program s fails t := by
  unfold loopStep at hs
  cases hphase : s.phase with
  | polling =>
    rw [hphase] at hs
    dsimp only at hs
    split at hs
    · rename_i hfails
      cases hs
      exact .pollFails hphase hfails
    · cases hlife : s.child.life with
      | running rest =>
        rw [hlife] at hs
        cases hs
        exact .stillRuns hphase hlife
      | exited status left =>
        rw [hlife] at hs
        cases hs
        exact .ended hphase hlife
      | killed =>
        rw [hlife] at hs
        cases hs
  | checking =>
    rw [hphase] at hs
    dsimp only at hs
    split at hs
    · rename_i hover
      cases hs
      exact .late hphase hover
    · rename_i hearly
      cases hs
      exact .early hphase hearly
  | sleeping wakeAt =>
    rw [hphase] at hs
    dsimp only at hs
    split at hs
    · rename_i hdue
      cases hs
      exact .wakes hphase hdue
    · cases hs
  | killing =>
    rw [hphase] at hs
    dsimp only at hs
    split at hs
    · cases hs
      exact .killFails hphase
    · cases hs
      exact .kills hphase
  | waiting =>
    rw [hphase] at hs
    dsimp only at hs
    split at hs
    · cases hs
    · rename_i hdead
      cases hs
      exact .timesOut hphase hdead
  | reading status =>
    rw [hphase] at hs
    dsimp only at hs
    split at hs
    · rename_i hheld
      cases hs
      exact .reads hphase hheld
    · rename_i hfree
      cases hs
      exact .hears hphase hfree
  | returned result =>
    rw [hphase] at hs
    cases hs

theorem Sound.loop (h : Sound command s) {fails : Bool} (hs : loopStep program s fails = some t) :
    Sound command t := by
  obtain ⟨⟨done, hdone⟩, htells, hcounted⟩ := h
  cases turn_of_loopStep hs with
  | pollFails hphase hfails =>
    rw [hphase] at hcounted
    exact ⟨⟨done, hdone⟩, trivial, Nat.succ_le_succ hcounted.2⟩
  | stillRuns hphase hlife =>
    rw [hphase] at hcounted
    have hnext : childPollInterval * (s.polls + 1) ≤ s.elapsed + childPollInterval := by
      rw [Nat.mul_succ]
      exact Nat.add_le_add_right hcounted.1 _
    exact ⟨⟨done, hdone⟩, trivial, hnext, Nat.succ_le_succ hcounted.2⟩
  | @ended hphase status left hlife =>
    rw [hphase] at hcounted
    obtain ⟨hending, hfits, -, -⟩ := hdone.exited status left hlife
    cases stdio with
    | null =>
      exact ⟨⟨done, hdone⟩, ⟨rfl, hending, hfits, fun hpiped => (nomatch hpiped),
        fun stream => rfl⟩, Nat.succ_le_succ hcounted.2⟩
    | piped capacity =>
      exact ⟨⟨done, hdone⟩, ⟨rfl, left, hlife⟩, Nat.succ_le_succ hcounted.2⟩
  | late hphase hover =>
    rw [hphase] at hcounted
    exact ⟨⟨done, hdone⟩, trivial, hover, hcounted.2⟩
  | early hphase hearly =>
    rw [hphase] at hcounted
    obtain ⟨hwaited, -⟩ := hcounted
    -- Before the time is over, 50 milliseconds for each look leave room for no more than 400.
    refine ⟨⟨done, hdone⟩, trivial, hwaited, ?_⟩
    unfold childPollInterval at hwaited
    unfold usbipCommandTimeout at hearly
    show s.polls ≤ 400
    omega
  | wakes hphase hdue =>
    rw [hphase] at hcounted
    exact ⟨⟨done, hdone⟩, trivial, Nat.le_trans hcounted.1 hdue, hcounted.2⟩
  | killFails hphase =>
    rw [hphase] at hcounted
    exact ⟨⟨done, hdone⟩, trivial, hcounted⟩
  | kills hphase =>
    rw [hphase] at hcounted
    exact ⟨⟨done, hdone.kill⟩, trivial, hcounted⟩
  | timesOut hphase hdead =>
    rw [hphase] at hcounted
    exact ⟨⟨done, hdone⟩, ⟨rfl, Bool.eq_false_iff.mpr hdead, hcounted.1⟩, hcounted.2⟩
  | reads hphase hheld =>
    rw [hphase] at htells hcounted
    obtain ⟨hreaped, left, hlife⟩ := htells
    exact ⟨⟨done, hdone.drain hlife⟩, ⟨hreaped, left, hlife⟩, hcounted⟩
  | @hears status hphase hfree =>
    rw [hphase] at htells hcounted
    obtain ⟨hreaped, left, hlife⟩ := htells
    obtain ⟨hending, hfits, hops, hletsGo⟩ := hdone.exited status left hlife
    -- Nobody has the pipes any more, so all that is ever written to them has been.
    have hleft : left = none := Child.left_eq_none hlife hfree
    refine ⟨⟨done, hdone.drain hlife⟩,
      ⟨hreaped, hending, hfits, fun _ => hletsGo hleft, fun stream => ?_⟩, hcounted⟩
    rw [← hops, hleft, Option.getD_none, List.append_nil, ← hdone.pipes stream]
    rfl

theorem Sound.step (h : Sound command s) {action : Action}
    (hs : step program command s action = some t) : Sound command t := by
  cases action with
  | child =>
    obtain ⟨child, hchild, rfl⟩ := Option.map_eq_some_iff.mp hs
    exact h.child hchild
  | pass ms =>
    cases hs
    exact h.pass ms
  | loop fails => exact h.loop hs

/-- **What `run` and `run_interactive` return is true.** In every run, whatever the command does and
    however the steps fall: if the output is returned, the command has come to its end by itself,
    and the output is its status with all that has been written to its pipes, by it or by what it
    left behind, whole and in order; if it has timed out, 20 seconds are over and it is dead; either
    way it has been waited for. And the command is looked at 401 times at most. -/
theorem runs_tell (stdio : Stdio) (program : Text) (command : Command) (actions : List Action) :
    Throughout (step program command)
      (fun s => s.phase.Tells stdio command s ∧ s.polls ≤ 401) (start stdio command) actions := by
  refine throughout_of_step (I := Sound command) (fun s a t h hs => h.step hs)
    (fun s h => ⟨h.tells, ?_⟩) actions (sound_start command)
  have hcounted := h.counted
  unfold Phase.Counted at hcounted
  split at hcounted
  · exact Nat.le_succ_of_le hcounted.2
  · exact hcounted.2
  · exact Nat.le_succ_of_le hcounted.2
  · exact hcounted.2
  · exact hcounted.2
  · exact hcounted
  · exact hcounted

/-! ## Commands that say too much -/

theorem run_children {program : Text} {command : Command} {n : Nat} {s : Running stdio}
    {child : Child UInt8 Int stdio.capacity}
    (h : Transition.run (fun c (_ : Unit) => Child.step command c) s.child
      (List.replicate n ()) = some child) (rest : List Action) :
    Transition.run (step program command) s (List.replicate n .child ++ rest) =
      Transition.run (step program command) { s with child } rest := by
  induction n generalizing s with
  | zero =>
    cases h
    rfl
  | succ n ih =>
    rw [List.replicate_succ, run_cons] at h
    obtain ⟨next, hnext, h⟩ := Option.bind_eq_some_iff.mp h
    have hstep : step program command s .child = some { s with child := next } := by
      show (s.child.step command).map _ = _
      rw [hnext]
      rfl
    rw [List.replicate_succ, List.cons_append, run_cons, hstep]
    exact ih h

/-- A child that has come to its end is found so at the next look. -/
theorem loopStep_exited (program : Text) {status : Int}
    {left : Option (List (Child.Op Stream UInt8))} (hphase : s.phase = .polling)
    (hlife : s.child.life = .exited status left) :
    loopStep program s false =
      some { s with polls := s.polls + 1, phase := stdio.afterEnd status, reaped := true } := by
  unfold loopStep
  rw [hphase]
  dsimp only
  rw [hlife]
  rfl

theorem loopStep_reading (program : Text) {status : Int} (hphase : s.phase = .reading status)
    (hheld : s.child.drain.isHeld) (fails : Bool) :
    loopStep program s fails = some { s with child := s.child.drain } := by
  unfold loopStep
  rw [hphase]
  exact if_pos hheld

/-- The pipes are at their end. -/
theorem loopStep_read (program : Text) {status : Int} (hphase : s.phase = .reading status)
    (hheld : ¬ s.child.drain.isHeld) (fails : Bool) :
    ∃ t output, loopStep program s fails = some t ∧ t.phase = .returned (.ok output) := by
  let output : Output := { status, text := fun stream => (s.child.drain.pipes stream).taken }
  refine ⟨{ s with child := s.child.drain, phase := .returned (.ok output) }, output, ?_, rfl⟩
  unfold loopStep
  rw [hphase]
  exact if_neg hheld

/-- In some run the output of the command is returned. -/
def MayReturn (program : Text) (command : Command) (s : Running stdio) : Prop :=
  ∃ actions t output, Transition.run (step program command) s actions = some t ∧
    t.phase = .returned (.ok output)

theorem MayReturn.of_step {action : Action} (hs : step program command s action = some t)
    (h : MayReturn program command t) : MayReturn program command s := by
  obtain ⟨actions, u, output, hrun, hphase⟩ := h
  refine ⟨action :: actions, u, output, ?_, hphase⟩
  rw [run_cons, hs]
  exact hrun

theorem MayReturn.of_run {actions : List Action}
    (hr : Transition.run (step program command) s actions = some t)
    (h : MayReturn program command t) : MayReturn program command s := by
  induction actions generalizing s with
  | nil =>
    cases hr
    exact h
  | cons action actions ih =>
    rw [run_cons] at hr
    obtain ⟨u, hu, hr⟩ := Option.bind_eq_some_iff.mp hr
    exact .of_step hu (ih hr)

/-- A command that ends, and up to its end writes no more than its pipes hold. -/
def CanEnd (stdio : Stdio) (command : Command) : Prop :=
  command.ending.isSome ∧ Child.Fits stdio.capacity command.ops

/-- Such a command is seen to have ended in some run. -/
theorem exists_ended (program : Text) (h : CanEnd stdio command) :
    ∃ actions t status, Transition.run (step program command) (start stdio command) actions = some t ∧
      t.phase = stdio.afterEnd status ∧
      t.child.life = .exited status (command.descendants.map (·.ops)) := by
  obtain ⟨hending, hfits⟩ := h
  obtain ⟨status, hstatus⟩ := Option.isSome_iff_exists.mp hending
  obtain ⟨child, hchild, hlife⟩ :=
    Child.run_to_end hfits hstatus (Child.follows_start command) rfl
  let s : Running stdio := { start stdio command with child }
  let t := { s with polls := s.polls + 1, phase := stdio.afterEnd status, reaped := true }
  have hlook : step program command s (.loop false) = some t :=
    loopStep_exited (s := s) program rfl hlife
  refine ⟨List.replicate (command.ops.length + 1) .child ++ [.loop false], t, status, ?_, rfl,
    hlife⟩
  rw [run_children hchild, run_cons, hlook]
  rfl

/-- The pipes of a command that has ended are read to their end, if those that it left behind let go
    of them: what they write is taken out of their way. -/
theorem mayReturn_reading {status : Int} {ops : List (Child.Op Stream UInt8)}
    (hletsGo : command.letsGo) (hphase : s.phase = .reading status)
    (hlife : s.child.life = .exited status (some ops)) : MayReturn program command s := by
  induction ops generalizing s with
  | nil =>
    let t : Running stdio := { s with child := { s.child with life := .exited status none } }
    have hstep : step program command s .child = some t :=
      congrArg (Option.map _) (Child.step_close hlife hletsGo)
    obtain ⟨u, output, hread, hu⟩ := loopStep_read (s := t) program hphase Bool.false_ne_true false
    have hlast : step program command t (.loop false) = some u := hread
    exact .of_step hstep (.of_step hlast ⟨[], u, output, rfl, hu⟩)
  | cons op rest ih =>
    have hcapacity : ∀ stream, stdio.capacity stream ≠ some 0 := by
      cases stdio with
      | null => exact fun _ h => (nomatch h)
      | piped capacity => exact fun _ h => capacity.ne_zero (Option.some.inj h)
    obtain ⟨child, hchild, hnext⟩ : ∃ d, s.child.drain.step command = some d ∧ _ :=
      Child.step_left hcapacity hlife
    have hread : step program command s (.loop false) = some { s with child := s.child.drain } :=
      loopStep_reading program hphase (Child.isHeld_of_life hlife) false
    have hwrite : step program command { s with child := s.child.drain } .child =
        some { s with child } := congrArg (Option.map _) hchild
    exact .of_step hread (.of_step hwrite (ih hphase hnext))

theorem mayReturn_iff (stdio : Stdio) (program : Text) (command : Command) :
    MayReturn program command (start stdio command) ↔
      CanEnd stdio command ∧ (stdio.isPiped → command.letsGo) := by
  constructor
  · rintro ⟨actions, s, output, hrun, hphase⟩
    have htells := ((runs_tell stdio program command actions).of_run hrun).1
    rw [hphase] at htells
    obtain ⟨-, hending, hfits, hletsGo, -⟩ := htells
    exact ⟨⟨Option.isSome_iff_exists.mpr ⟨_, hending⟩, hfits⟩, hletsGo⟩
  · rintro ⟨hend, hletsGo⟩
    obtain ⟨actions, s, status, hrun, hphase, hlife⟩ := exists_ended program hend
    refine .of_run hrun ?_
    cases stdio with
    | null => exact ⟨[], s, _, rfl, hphase⟩
    | piped capacity =>
      cases hdescendants : command.descendants with
      | none =>
        rw [hdescendants] at hlife
        obtain ⟨u, output, hread, hu⟩ :=
          loopStep_read program hphase (Child.not_isHeld_of_life hlife) false
        have hlast : step program command s (.loop false) = some u := hread
        exact .of_step hlast ⟨[], u, output, rfl, hu⟩
      | some descendants =>
        rw [hdescendants] at hlife
        exact mayReturn_reading (hletsGo rfl) hphase hlife

/-! ## The loop comes to an end -/

/-- The loop waits for a child that it could not kill. -/
def Unkilled (s : Running stdio) : Prop := s.phase = .waiting ∧ s.child.isRunning = true

/-- The child has ended, but somebody else keeps its pipes open, and the loop reads them or is about to
    do so when it looks at the child again. -/
def Withheld (s : Running stdio) : Prop :=
  match s.phase with
  | .polling => stdio.isPiped ∧ s.child.isHeld
  | .sleeping _ => stdio.isPiped ∧ s.child.isHeld
  | .reading _ => s.child.isHeld
  | _ => False

/-- The loop cannot return by itself. -/
def Stuck (s : Running stdio) : Prop := Unkilled s ∨ Withheld s

/-- The loop has come to its end. -/
def Returned (s : Running stdio) : Prop := ∃ result, s.phase = .returned result

/-- Moves that need neither the child nor a failure. -/
def Own (_ : Running stdio) : Action → Prop
  | .child => False
  | .pass _ => True
  | .loop fails => fails = false

/-- How far the loop is from its end. -/
def distance (s : Running stdio) : Nat :=
  10 * (402 - s.polls) +
    match s.phase with
    | .polling => 0
    | .checking => if usbipCommandTimeout ≤ s.elapsed then 5 else 6
    | .sleeping wakeAt => if wakeAt ≤ s.elapsed then 3 else 4
    | .killing => 4
    | .waiting => 2
    | .reading _ => 2
    | .returned _ => 0

/-- Until the loop kills it, nobody has killed the child. -/
def Unharmed (s : Running stdio) : Prop :=
  match s.phase with
  | .waiting => True
  | .returned _ => True
  | _ => s.child.life ≠ .killed

theorem Unharmed.of_life (h : s.child.life ≠ .killed) : Unharmed s := by
  unfold Unharmed
  split
  · trivial
  · trivial
  · exact h

theorem Unharmed.loop (h : Unharmed s) {fails : Bool} (hs : loopStep program s fails = some t) :
    Unharmed t := by
  unfold Unharmed at h
  cases turn_of_loopStep hs with
  | pollFails hphase hfails => trivial
  | stillRuns hphase hlife =>
    rw [hphase] at h
    exact .of_life h
  | ended hphase hlife =>
    rw [hphase] at h
    exact .of_life h
  | late hphase hover =>
    rw [hphase] at h
    exact .of_life h
  | early hphase hearly =>
    rw [hphase] at h
    exact .of_life h
  | wakes hphase hdue =>
    rw [hphase] at h
    exact .of_life h
  | killFails hphase => trivial
  | kills hphase => trivial
  | timesOut hphase hdead => trivial
  | reads hphase hheld =>
    rw [hphase] at h
    exact .of_life h
  | hears hphase hfree => trivial

theorem Unharmed.step (h : Unharmed s) {action : Action}
    (hs : Runner.step program command s action = some t) : Unharmed t := by
  cases action with
  | child =>
    obtain ⟨child, hchild, rfl⟩ := Option.map_eq_some_iff.mp hs
    exact .of_life (Child.life_ne_killed_of_step hchild)
  | pass ms =>
    cases hs
    exact h
  | loop fails => exact h.loop hs

/-- Short of its end, the loop has a move that brings it nearer. -/
theorem Sound.advance (program : Text) (h : Sound command s) (hu : Unharmed s) (hstuck : ¬ Stuck s) :
    Returned s ∨ ∃ action t, Own s action ∧ Runner.step program command s action = some t ∧
      (Returned t ∨ ¬ Stuck t ∧ distance t < distance s) := by
  have hcounted := h.counted
  obtain ⟨child, elapsed, phase, reaped, polls⟩ := s
  cases phase with
  -- A look costs 10 of the distance, and everything up to the next one less than that.
  | polling =>
    have hpolls : polls ≤ 400 := hcounted.2
    cases hlife : child.life with
    | running rest =>
      refine Or.inr ⟨.loop false, ⟨child, elapsed, .checking, reaped, polls + 1⟩, rfl, ?_,
        Or.inr ⟨?_, ?_⟩⟩
      · show loopStep program ⟨child, elapsed, .polling, reaped, polls⟩ false = _
        unfold loopStep
        dsimp only
        rw [hlife]
        rfl
      · rintro (⟨hphase, -⟩ | hheld)
        · cases hphase
        · exact hheld
      · show 10 * (402 - (polls + 1)) + (if usbipCommandTimeout ≤ elapsed then 5 else 6) <
          10 * (402 - polls)
        split <;> omega
    | exited status left =>
      have hloop := loopStep_exited (s := ⟨child, elapsed, .polling, reaped, polls⟩) program rfl hlife
      cases stdio with
      | null => exact Or.inr ⟨.loop false, _, rfl, hloop, Or.inl ⟨_, rfl⟩⟩
      | piped capacity =>
        refine Or.inr ⟨.loop false, _, rfl, hloop, Or.inr ⟨?_, ?_⟩⟩
        · rintro (⟨hphase, -⟩ | hheld)
          · cases hphase
          · exact hstuck (Or.inr ⟨rfl, hheld⟩)
        · show 10 * (402 - (polls + 1)) + 2 < 10 * (402 - polls)
          omega
    | killed => exact absurd hlife hu
  | checking =>
    by_cases hover : usbipCommandTimeout ≤ elapsed
    · refine Or.inr ⟨.loop false, ⟨child, elapsed, .killing, reaped, polls⟩, rfl, if_pos hover,
        Or.inr ⟨?_, Nat.add_lt_add_left ?_ _⟩⟩
      · rintro (⟨hphase, -⟩ | hheld)
        · cases hphase
        · exact hheld
      · show 4 < if usbipCommandTimeout ≤ elapsed then 5 else 6
        rw [if_pos hover]
        decide
    · -- The clock may go on before it is looked at.
      refine Or.inr ⟨.pass usbipCommandTimeout,
        ⟨child, elapsed + usbipCommandTimeout, .checking, reaped, polls⟩, trivial, rfl,
        Or.inr ⟨?_, Nat.add_lt_add_left ?_ _⟩⟩
      · rintro (⟨hphase, -⟩ | hheld)
        · cases hphase
        · exact hheld
      · show (if usbipCommandTimeout ≤ elapsed + usbipCommandTimeout then 5 else 6) <
          if usbipCommandTimeout ≤ elapsed then 5 else 6
        rw [if_pos (Nat.le_add_left _ _), if_neg hover]
        decide
  -- To pass the time is a move of its own, so that the loop can always wake up.
  | sleeping wakeAt =>
    have hfree : ¬ (stdio.isPiped ∧ child.isHeld) := fun hheld => hstuck (Or.inr hheld)
    by_cases hdue : wakeAt ≤ elapsed
    · refine Or.inr ⟨.loop false, ⟨child, elapsed, .polling, reaped, polls⟩, rfl, if_pos hdue,
        Or.inr ⟨?_, Nat.add_lt_add_left ?_ _⟩⟩
      · rintro (⟨hphase, -⟩ | hheld)
        · cases hphase
        · exact hfree hheld
      · show 0 < if wakeAt ≤ elapsed then 3 else 4
        split <;> omega
    · refine Or.inr ⟨.pass wakeAt, ⟨child, elapsed + wakeAt, .sleeping wakeAt, reaped, polls⟩,
        trivial, rfl, Or.inr ⟨?_, Nat.add_lt_add_left ?_ _⟩⟩
      · rintro (⟨hphase, -⟩ | hheld)
        · cases hphase
        · exact hfree hheld
      · show (if wakeAt ≤ elapsed + wakeAt then 3 else 4) < if wakeAt ≤ elapsed then 3 else 4
        rw [if_pos (Nat.le_add_left _ _), if_neg hdue]
        decide
  | killing =>
    refine Or.inr ⟨.loop false, ⟨child.kill, elapsed, .waiting, reaped, polls⟩, rfl, rfl,
      Or.inr ⟨?_, Nat.add_lt_add_left (by decide : 2 < 4) _⟩⟩
    rintro (⟨-, hrunning⟩ | hheld)
    · exact Bool.false_ne_true ((Child.isRunning_kill child).symm.trans hrunning)
    · exact hheld
  | waiting =>
    refine Or.inr ⟨.loop false,
      ⟨child, elapsed, .returned (.error (.timedOut (timeoutMessage program))), true, polls⟩, rfl,
      if_neg fun hrunning => hstuck (Or.inl ⟨rfl, hrunning⟩), Or.inl ⟨_, rfl⟩⟩
  | reading status =>
    obtain ⟨t, output, hloop, ht⟩ :=
      loopStep_read (s := ⟨child, elapsed, .reading status, reaped, polls⟩) program rfl
        (fun hheld => hstuck (Or.inr hheld)) false
    exact Or.inr ⟨.loop false, t, rfl, hloop, Or.inl ⟨_, ht⟩⟩
  | returned result => exact Or.inl ⟨result, rfl⟩

/-- A loop that is stuck stays so, as long as neither the child nor those it left behind help. -/
theorem Stuck.step (h : Stuck s) {action : Action} (hown : Own s action)
    (hs : Runner.step program command s action = some t) : Stuck t := by
  cases action with
  | child => exact absurd hown id
  | pass ms =>
    cases hs
    exact h
  | loop fails =>
    obtain rfl : fails = false := hown
    have hs : loopStep program s false = some t := hs
    obtain ⟨child, elapsed, phase, reaped, polls⟩ := s
    rcases h with ⟨rfl, hrunning⟩ | hheld
    · have hwaits : loopStep program ⟨child, elapsed, .waiting, reaped, polls⟩ false = none :=
        if_pos hrunning
      exact absurd (hwaits.symm.trans hs) (Option.some_ne_none t).symm
    · cases phase with
      | polling =>
        obtain ⟨hpiped, hheld⟩ := hheld
        obtain ⟨status, ops, hlife⟩ := Child.exists_of_isHeld hheld
        rw [loopStep_exited (s := ⟨child, elapsed, .polling, reaped, polls⟩) program rfl hlife] at hs
        cases hs
        cases stdio with
        | null => cases hpiped
        | piped capacity => exact Or.inr hheld
      | sleeping wakeAt =>
        unfold loopStep at hs
        dsimp only at hs
        split at hs
        · cases hs
          exact Or.inr hheld
        · cases hs
      | reading status =>
        rw [loopStep_reading (s := ⟨child, elapsed, .reading status, reaped, polls⟩) program rfl
          hheld] at hs
        cases hs
        exact Or.inr hheld
      | _ => exact absurd hheld id

theorem not_canReach_of_stuck (h : Stuck s) :
    ¬ CanReach (Runner.step program command) Own Returned s := by
  intro hreach
  induction hreach with
  | here hreturned =>
    obtain ⟨result, hphase⟩ := hreturned
    unfold Stuck Unkilled Withheld at h
    rw [hphase] at h
    rcases h with ⟨hwaiting, -⟩ | hheld
    · cases hwaiting
    · exact hheld
  | next action hown hs _ ih => exact ih (h.step hown hs)

/-- The loop's own steps and the clock are enough for it to return. -/
theorem Sound.canReach_returned (program : Text) (h : Sound command s) (hu : Unharmed s)
    (hstuck : ¬ Stuck s) : CanReach (Runner.step program command) Own Returned s := by
  refine canReach_of_variant (I := fun s => (Sound command s ∧ Unharmed s) ∧ ¬ Stuck s) distance
    (fun s h => ?_) s ⟨⟨h, hu⟩, hstuck⟩
  refine (h.1.1.advance program h.1.2 h.2).imp_right ?_
  rintro ⟨action, t, hown, hs, hnext⟩
  exact ⟨action, t, hown, hs, hnext.imp_right fun hlt =>
    ⟨⟨⟨h.1.1.step hs, h.1.2.step hs⟩, hlt.1⟩, hlt.2⟩⟩

/-- **The loop comes to its end without the command.** In every state of every run, the loop's own
    steps and the clock are enough for it to return, whatever the command is doing, unless it waits
    for one that it could not kill, or for the pipes of one that has ended and left them to others. -/
theorem returns_iff_not_stuck (stdio : Stdio) (program : Text) (command : Command)
    (actions : List Action) :
    Throughout (step program command)
      (fun s => CanReach (step program command) Own Returned s ↔ ¬ Stuck s)
      (start stdio command) actions := by
  refine throughout_of_step (I := fun s => Sound command s ∧ Unharmed s)
    (fun s a t h hs => ⟨h.1.step hs, h.2.step hs⟩) (fun s h => ⟨?_, ?_⟩) actions
    ⟨sound_start command, .of_life (nomatch ·)⟩
  · exact fun hreach hstuck => not_canReach_of_stuck hstuck hreach
  · exact h.1.canReach_returned program h.2

/-! ## What runs into the timeout -/

/-- The loop has come to its end with the timeout. -/
def TimedOut (s : Running stdio) : Prop := ∃ message, s.phase = .returned (.error (.timedOut message))

/-- Nothing is returned but a failure, and as long as nothing is, the timeout is within the reach of
    the loop's own steps and the clock, unless there is a child that could not be killed. -/
def RunsOut (program : Text) (command : Command) (s : Running stdio) : Prop :=
  (∀ output, s.phase ≠ .returned (.ok output)) ∧
    (Returned s ∨ Unkilled s ∨ CanReach (step program command) Own TimedOut s)

/-- Only a look at the child that fails makes the loop return that failure. -/
theorem loopStep_ne_pollFailed (hs : loopStep program s false = some t) :
    t.phase ≠ .returned (.error .pollFailed) := by
  cases turn_of_loopStep hs with
  | pollFails hphase hfails => cases hfails
  | ended hphase hlife =>
    intro hfailed
    cases stdio with
    | null => cases hfailed
    | piped capacity => cases hfailed
  | reads hphase hheld => exact fun hfailed => nomatch hfailed
  | stillRuns hphase hlife => exact fun hfailed => nomatch hfailed
  | late hphase hover => exact fun hfailed => nomatch hfailed
  | early hphase hearly => exact fun hfailed => nomatch hfailed
  | wakes hphase hdue => exact fun hfailed => nomatch hfailed
  | killFails hphase => exact fun hfailed => nomatch hfailed
  | kills hphase => exact fun hfailed => nomatch hfailed
  | timesOut hphase hdead => exact fun hfailed => nomatch hfailed
  | hears hphase hfree => exact fun hfailed => nomatch hfailed

/-- What is returned of a command that cannot end is a failure. -/
theorem Sound.not_returned (h : Sound command s) (hend : ¬ CanEnd stdio command) (output : Output) :
    s.phase ≠ .returned (.ok output) := by
  intro hphase
  have htells := h.tells
  rw [hphase] at htells
  obtain ⟨-, hending, hfits, -⟩ := htells
  exact hend ⟨Option.isSome_iff_exists.mpr ⟨_, hending⟩, hfits⟩

/-- A command that cannot end leaves nothing behind. -/
theorem Sound.not_isHeld (h : Sound command s) (hend : ¬ CanEnd stdio command) :
    ¬ s.child.isHeld := by
  intro hheld
  obtain ⟨status, ops, hlife⟩ := Child.exists_of_isHeld hheld
  obtain ⟨done, hdone⟩ := h.follows
  obtain ⟨hending, hfits, -⟩ := hdone.exited _ _ hlife
  exact hend ⟨Option.isSome_iff_exists.mpr ⟨_, hending⟩, hfits⟩

/-- Of such a command the loop's own steps lead to no other return than the timeout. -/
theorem Sound.canReach_timedOut (h : Sound command s) (hend : ¬ CanEnd stdio command)
    (hphase : s.phase ≠ .returned (.error .pollFailed))
    (hreach : CanReach (Runner.step program command) Own Returned s) :
    CanReach (Runner.step program command) Own TimedOut s := by
  induction hreach with
  | here hreturned =>
    obtain ⟨result, hresult⟩ := hreturned
    cases result with
    | ok output => exact absurd hresult (h.not_returned hend output)
    | error err =>
      cases err with
      | pollFailed => exact absurd hresult hphase
      | timedOut message => exact .here ⟨message, hresult⟩
  | next action hown hs _ ih =>
    refine .next action hown hs (ih (h.step hs) ?_)
    cases action with
    | child => exact absurd hown id
    | pass ms =>
      cases hs
      exact hphase
    | loop fails =>
      obtain rfl : fails = false := hown
      exact loopStep_ne_pollFailed hs

theorem Sound.runsOut (program : Text) (h : Sound command s) (hu : Unharmed s)
    (hend : ¬ CanEnd stdio command) : RunsOut program command s := by
  refine ⟨h.not_returned hend, ?_⟩
  by_cases hreturned : Returned s
  · exact Or.inl hreturned
  · by_cases hunkilled : Unkilled s
    · exact Or.inr (Or.inl hunkilled)
    · have hstuck : ¬ Stuck s := by
        rintro (hwaits | hwithheld)
        · exact hunkilled hwaits
        · have hheld := h.not_isHeld hend
          unfold Withheld at hwithheld
          split at hwithheld
          · exact hheld hwithheld.2
          · exact hheld hwithheld.2
          · exact hheld hwithheld
          · exact hwithheld
      have hphase : s.phase ≠ .returned (.error .pollFailed) := fun hp => hreturned ⟨_, hp⟩
      exact Or.inr (Or.inr (h.canReach_timedOut hend hphase (h.canReach_returned program hu hstuck)))

/-- Once the pipes are read, there is no timeout any more. -/
theorem not_canReach_timedOut (h : (∃ status, s.phase = .reading status) ∨
      ∃ output, s.phase = .returned (.ok output)) :
    ¬ CanReach (Runner.step program command) Own TimedOut s := by
  intro hreach
  induction hreach with
  | here htimedOut =>
    obtain ⟨message, hphase⟩ := htimedOut
    rcases h with ⟨status, hs⟩ | ⟨output, hs⟩
    · cases hs.symm.trans hphase
    · cases hs.symm.trans hphase
  | next action hown hs _ ih =>
    refine ih ?_
    cases action with
    | child => exact absurd hown id
    | pass ms =>
      cases hs
      exact h
    | loop fails =>
      have hs : loopStep program _ fails = some _ := hs
      unfold loopStep at hs
      rcases h with ⟨status, hphase⟩ | ⟨output, hphase⟩
      · rw [hphase] at hs
        dsimp only at hs
        split at hs
        · cases hs
          exact Or.inl ⟨status, rfl⟩
        · cases hs
          exact Or.inr ⟨_, rfl⟩
      · rw [hphase] at hs
        cases hs

/-- A command runs into the timeout, whatever it does, if and only if it cannot end. -/
theorem runsOut_iff (stdio : Stdio) (program : Text) (command : Command) :
    (∀ actions, Throughout (step program command) (RunsOut program command) (start stdio command)
      actions) ↔ ¬ CanEnd stdio command := by
  constructor
  · intro hruns hend
    obtain ⟨actions, s, status, hrun, hphase, -⟩ := exists_ended program hend
    obtain ⟨hoks, hlater⟩ := (hruns actions).of_run hrun
    cases stdio with
    | null => exact hoks _ hphase
    | piped capacity =>
      rcases hlater with ⟨result, hreturned⟩ | ⟨hwaiting, -⟩ | hreach
      · cases hphase.symm.trans hreturned
      · cases hphase.symm.trans hwaiting
      · exact not_canReach_timedOut (Or.inl ⟨status, hphase⟩) hreach
  · exact fun hend actions => throughout_of_step (I := fun s => Sound command s ∧ Unharmed s)
      (fun s a t h hs => ⟨h.1.step hs, h.2.step hs⟩) (fun s h => h.1.runsOut program h.2 hend) actions
      ⟨sound_start command, .of_life (nomatch ·)⟩

theorem canEnd_null_iff {command : Command} : CanEnd .null command ↔ command.ending.isSome :=
  and_iff_left fun _ _ h => nomatch h

theorem canEnd_piped_iff {capacity : ℕ+} {command : Command} :
    CanEnd (.piped capacity) command ↔ command.ending.isSome ∧
      ∀ stream, (Child.written stream command.ops).length ≤ capacity :=
  and_congr_right fun _ =>
    ⟨fun h stream => h stream capacity rfl, fun h stream _ hn => Option.some.inj hn ▸ h stream⟩

/-- **A command can be heard out if and only if its pipes can hold what it says up to its end, and are
    not kept open after it.** `run` can return the output of a command that ends, that up to then
    writes no more to either stream than a pipe holds, and whose descendants let go of the pipes,
    and of no other. A command that writes more is as one that never ends: these run into the
    timeout, however quick they are, and no other command has to. `run_interactive` can return the
    status of every command that ends, and the others run into the timeout. -/
theorem returns_output_iff (capacity : ℕ+) (program : Text) (command : Command) :
    (MayReturn program command (run capacity command) ↔
      (command.ending.isSome ∧
        ∀ stream, (Child.written stream command.ops).length ≤ capacity) ∧ command.letsGo) ∧
    ((∀ actions, Throughout (step program command) (RunsOut program command)
        (run capacity command) actions) ↔
      ¬ (command.ending.isSome ∧
        ∀ stream, (Child.written stream command.ops).length ≤ capacity)) ∧
    (MayReturn program command (runInteractive command) ↔ command.ending.isSome) ∧
    ((∀ actions, Throughout (step program command) (RunsOut program command)
        (runInteractive command) actions) ↔ ¬ command.ending.isSome) := by
  refine ⟨?_, ?_, ?_, ?_⟩
  · rw [← canEnd_piped_iff, run, mayReturn_iff]
    exact and_congr_right fun _ => ⟨fun h => h rfl, fun h _ => h⟩
  · rw [← canEnd_piped_iff]
    exact runsOut_iff (.piped capacity) program command
  · rw [← canEnd_null_iff, runInteractive, mayReturn_iff]
    exact and_iff_left fun hpiped => nomatch hpiped
  · rw [← canEnd_null_iff]
    exact runsOut_iff .null program command

end Runner
end Lusbip
