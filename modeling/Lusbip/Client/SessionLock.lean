import Mathlib.Logic.Function.Basic
import Lusbip.Lib.Transition
import Lusbip.Lib.Fields
import Lusbip.Lib.Tenancy

/-!
# The session lock of the client

One session of a client for a remote and port at a time: a session makes a directory, which is
atomic and fails where there is one, and writes its process id into it. Whoever finds the directory
looks for the process; if there is none, the directory is stale, and goes. The file system is one
step away from every one of these decisions, and any number of processes take their steps in any
order; a process may also end between any two of them.

Every directory has a ticket here, so that a later one at the same path is told from it. The
processes do not see tickets.
-/

namespace Lusbip

open Lib
open Lib.Fields
open Lib.Tenancy
open Lib.Transition

/-- A process id. -/
abbrev Pid := UInt32

/-- The process id in a pid file, if it can be read as one. -/
def pidOf (content : Text) : Option Pid :=
  (parseUnsigned 4294967296 (trim isWhitespace content)).map UInt32.ofNat

theorem pidOf_decimal (pid : Pid) : pidOf (decimal pid.toNat) = some pid := by
  rw [pidOf, trim_decimal, parseUnsigned_decimal pid.toNat_lt, Option.map_some, UInt32.ofNat_toNat]

namespace SessionLock

/-- The directory at the path of the lock, with its pid file. -/
structure Directory where
  ticket : Nat
  pidFile : Option Text
  deriving DecidableEq, Repr

/-- Where a process is. From `writing` on it has made the directory of the ticket. -/
inductive Process where
  | absent
  | idle
  /-- About to `create_dir`. -/
  | creating
  /-- About to write the pid file. -/
  | writing (ticket : Nat)
  /-- About to remove the directory in which the pid file could not be written. -/
  | backingOut (ticket : Nat)
  /-- About to read the pid file of the directory that was there already. -/
  | reading
  /-- About to look into `/proc`. -/
  | checking (pid : Pid)
  /-- About to `remove_dir_all`. -/
  | removing
  | holding (ticket : Nat)
  /-- `drop`, about to remove the pid file. -/
  | droppingPid (ticket : Nat)
  /-- `drop`, about to remove the directory. -/
  | droppingDir (ticket : Nat)
  deriving DecidableEq, Repr

structure World where
  directory : Option Directory := none
  nextTicket : Nat := 0
  process : Pid → Process := fun _ => .absent
  /-- A `drop` has removed something of a directory that was not its own. -/
  foreignDrop : Bool := false

inductive Action where
  | start (pid : Pid)
  /-- The process ends, wherever it is. -/
  | die (pid : Pid)
  | acquire (pid : Pid)
  | drop (pid : Pid)
  /-- The next file-system call; `fails` where it fails for a reason of its own. -/
  | step (pid : Pid) (fails : Bool)
  deriving DecidableEq, Repr

def World.goto (s : World) (pid : Pid) (p : Process) : World :=
  { s with process := Function.update s.process pid p }

/-- `process_exists` -/
def World.exists (s : World) (pid : Pid) : Prop := s.process pid ≠ .absent

instance (s : World) (pid : Pid) : Decidable (s.exists pid) := inferInstanceAs (Decidable (_ ≠ _))

/-- `remove_dir`: it fails on a directory that is not empty. -/
def World.removeDir (s : World) : World :=
  match s.directory with
  | some { ticket := _, pidFile := none } => { s with directory := none }
  | _ => s

/-- Note a `drop` that is about to remove something of the directory of another ticket. -/
def World.noteDrop (s : World) (ticket : Nat) : World :=
  match s.directory with
  | some d => if d.ticket = ticket then s else { s with foreignDrop := true }
  | none => s

/-- The next call of `ClientSessionLock::acquire` or `drop`. -/
def fsStep (s : World) (pid : Pid) (fails : Bool) : Option World :=
  match s.process pid with
  | .absent | .idle | .holding _ => none
  | .creating =>
      if fails then some (s.goto pid .idle)
      else
        match s.directory with
        | some _ => some (s.goto pid .reading)
        | none =>
            some
              { s.goto pid (.writing s.nextTicket) with
                directory := some { ticket := s.nextTicket, pidFile := none }
                nextTicket := s.nextTicket + 1 }
  | .writing t =>
      match s.directory with
      | some d =>
          if fails then some (s.goto pid (.backingOut t))
          else
            some
              { s.goto pid (.holding t) with
                directory := some { d with pidFile := some (decimal pid.toNat) } }
      | none => some (s.goto pid (.backingOut t))
  | .backingOut _ => some ((if fails then s else s.removeDir).goto pid .idle)
  | .reading =>
      match s.directory with
      | some { ticket := _, pidFile := some content } =>
          match if fails then none else pidOf content with
          | some other => some (s.goto pid (.checking other))
          | none => some (s.goto pid .removing)
      | _ => some (s.goto pid .removing)
  | .checking other => some (s.goto pid (if s.exists other then .idle else .removing))
  | .removing =>
      if fails ∨ s.directory = none then some (s.goto pid .idle)
      else some { s.goto pid .creating with directory := none }
  | .droppingPid t =>
      if fails then some (s.goto pid (.droppingDir t))
      else
        some
          { (s.noteDrop t).goto pid (.droppingDir t) with
            directory := s.directory.map fun d => { d with pidFile := none } }
  | .droppingDir t =>
      if fails then some (s.goto pid .idle)
      else
        match s.directory with
        | some { ticket := _, pidFile := none } =>
            some { (s.noteDrop t).goto pid .idle with directory := none }
        | _ => some (s.goto pid .idle)

def step (s : World) : Action → Option World
  | .start pid => if s.process pid = .absent then some (s.goto pid .idle) else none
  | .die pid => if s.process pid = .absent then none else some (s.goto pid .absent)
  | .acquire pid => if s.process pid = .idle then some (s.goto pid .creating) else none
  | .drop pid =>
      match s.process pid with
      | .holding t => some (s.goto pid (.droppingPid t))
      | _ => none
  | .step pid fails => fsStep s pid fails

/-- Nobody runs, and an earlier session may have left its directory. -/
def init (left : Option (Option Text)) : World where
  directory := left.map fun pidFile => { ticket := 0, pidFile }
  nextTicket := 1

/-! ## What the lock is for -/

/-- At most one process has the lock, and no `drop` has touched the directory of another. -/
structure Exclusive (s : World) : Prop where
  one : ∀ p q t u, s.process p = .holding t → s.process q = .holding u → p = q
  ownDrop : s.foreignDrop = false

/-- The ticket of the directory the process has made, as long as it is not through with it. -/
def Process.own : Process → Option Nat
  | .writing t | .backingOut t | .holding t | .droppingPid t | .droppingDir t => some t
  | .absent | .idle | .creating | .reading | .checking _ | .removing => none

/-- The step does not remove, as stale, a directory that a living process has made and is not
    through with. -/
def RemovesStale (s : World) : Action → Prop
  | .step pid false => s.process pid = .removing →
      ∀ d ∈ s.directory, ∀ q, (s.process q).own ≠ some d.ticket
  | _ => True

/-- Whose directory is at the path of the lock. -/
def World.owner (s : World) (pid : Pid) : Option Nat := (s.process pid).own

def World.ticket (s : World) : Option Nat := s.directory.map (·.ticket)

/-- Whoever owns a directory has it at the path of the lock, and alone. -/
structure Owned (s : World) : Prop where
  held : Held s.owner s.ticket
  ownDrop : s.foreignDrop = false

variable {s s' : World} {pid p q : Pid} {t u : Nat} {x : Process} {fails : Bool}

theorem owner_of_eq (h : s.process pid = x) : s.owner pid = x.own := congrArg Process.own h

/-! ## One step of a process -/

/-- What a process owns is read off its state. -/
theorem Owned.owns (h : Owned s) : Held (fun q => (s.process q).own) s.ticket := h.held

/-- A process that goes on without a directory, or with the one it has. -/
theorem Owned.goto (h : Owned s) (hown : x.own = none ∨ x.own = s.owner pid) :
    Owned (s.goto pid x) := ⟨h.owns.move hown, h.ownDrop⟩

/-- The same where what is in the directory changes. -/
theorem Owned.rewrite (h : Owned s) (hown : x.own = none ∨ x.own = s.owner pid)
    {directory : Option Directory} (hticket : directory.map (·.ticket) = s.ticket) :
    Owned { s.goto pid x with directory := directory } := by
  refine ⟨?_, h.ownDrop⟩
  show Held (s.goto pid x).owner (directory.map (·.ticket))
  rw [hticket]
  exact h.owns.move hown

/-- A step after which nobody owns a directory. -/
theorem Owned.remove (h : Owned s) (hvacant : Vacant s'.owner)
    (hdrop : s'.foreignDrop = s.foreignDrop) : Owned s' :=
  ⟨hvacant.held _, hdrop.trans h.ownDrop⟩

/-- When the owner of the directory is through with it, nobody owns one. -/
theorem Owned.vacant (h : Owned s) (hown : s.owner pid = some t) (hx : x.own = none) :
    Vacant (s.goto pid x).owner := h.owns.moveOut hown hx

/-- A `drop` of an owner is of its own directory. -/
theorem Owned.noteDrop_eq (h : Owned s) (hown : s.owner pid = some t) : s.noteDrop t = s := by
  obtain ⟨d, hd, ht⟩ := Option.map_eq_some_iff.mp (h.held.there pid t hown)
  rw [World.noteDrop, hd]
  exact if_pos ht

/-- What `remove_dir` does. -/
theorem removeDir_cases (s : World) :
    s.removeDir = s ∨ s.removeDir = { s with directory := none } := by
  unfold World.removeDir
  split
  · exact Or.inr rfl
  · exact Or.inl rfl

/-- Making the directory. -/
theorem Owned.fsStep_creating (h : Owned s) (hp : s.process pid = .creating)
    (hs : fsStep s pid fails = some s') : Owned s' := by
  simp only [fsStep, hp] at hs
  split at hs
  · exact Option.some.inj hs ▸ h.goto (Or.inl rfl)
  · cases hd : s.directory with
    | some d =>
      simp only [hd] at hs
      exact Option.some.inj hs ▸ h.goto (Or.inl rfl)
    | none =>
      simp only [hd] at hs
      obtain rfl := Option.some.inj hs
      -- `create_dir` succeeds only where no directory is, and so where nobody owns one.
      have hnone : s.ticket = none := congrArg (Option.map _) hd
      have hvacant : Vacant fun q => (s.process q).own := (hnone ▸ h.owns).vacant
      exact ⟨hvacant.moveIn rfl, h.ownDrop⟩

/-- Writing the pid file. -/
theorem Owned.fsStep_writing (h : Owned s) (hp : s.process pid = .writing t)
    (hs : fsStep s pid fails = some s') : Owned s' := by
  have hown : s.owner pid = some t := owner_of_eq hp
  have hback : Owned (s.goto pid (.backingOut t)) := h.goto (Or.inr hown.symm)
  cases hd : s.directory with
  | none =>
    simp only [fsStep, hp, hd] at hs
    exact Option.some.inj hs ▸ hback
  | some d =>
    simp only [fsStep, hp, hd] at hs
    split at hs
    · exact Option.some.inj hs ▸ hback
    · obtain rfl := Option.some.inj hs
      exact h.rewrite (x := .holding t) (Or.inr hown.symm)
        (congrArg (Option.map (·.ticket)) hd).symm

/-- Removing what could not be written into. -/
theorem Owned.fsStep_backingOut (h : Owned s) (hp : s.process pid = .backingOut t)
    (hs : fsStep s pid fails = some s') : Owned s' := by
  have hown : s.owner pid = some t := owner_of_eq hp
  simp only [fsStep, hp] at hs
  obtain rfl := Option.some.inj hs
  split
  · exact h.goto (Or.inl rfl)
  · -- `remove_dir` may find a pid file that somebody has put there, and then removes nothing.
    rcases removeDir_cases s with heq | heq
    · rw [heq]
      exact h.goto (Or.inl rfl)
    · rw [heq]
      exact h.remove (h.vacant hown rfl) rfl

/-- Reading the pid file touches nothing. -/
theorem Owned.fsStep_reading (h : Owned s) (hp : s.process pid = .reading)
    (hs : fsStep s pid fails = some s') : Owned s' := by
  simp only [fsStep, hp] at hs
  split at hs
  · split at hs
    · exact Option.some.inj hs ▸ h.goto (Or.inl rfl)
    · exact Option.some.inj hs ▸ h.goto (Or.inl rfl)
  · exact Option.some.inj hs ▸ h.goto (Or.inl rfl)

/-- Removing a stale directory: nobody who owns it is left. -/
theorem Owned.fsStep_removing (h : Owned s) (hp : s.process pid = .removing)
    (hstale : RemovesStale s (.step pid fails)) (hs : fsStep s pid fails = some s') :
    Owned s' := by
  simp only [fsStep, hp] at hs
  split at hs
  · exact Option.some.inj hs ▸ h.goto (Or.inl rfl)
  · next hnot =>
    rw [not_or, Bool.not_eq_true] at hnot
    obtain ⟨rfl, -⟩ := hnot
    obtain rfl := Option.some.inj hs
    -- Whoever owns a directory owns the one at the path, and that one is stale.
    have hvacant : Vacant fun q => (s.process q).own := by
      refine h.owns.vacant_of_ne fun t ht q => ?_
      obtain ⟨d, hd, rfl⟩ := Option.map_eq_some_iff.mp ht
      exact hstale hp d hd q
    exact h.remove (hvacant.move rfl) rfl

/-- `drop` of the pid file. -/
theorem Owned.fsStep_droppingPid (h : Owned s) (hp : s.process pid = .droppingPid t)
    (hs : fsStep s pid fails = some s') : Owned s' := by
  have hown : s.owner pid = some t := owner_of_eq hp
  simp only [fsStep, hp, h.noteDrop_eq hown] at hs
  split at hs
  · exact Option.some.inj hs ▸ h.goto (Or.inr hown.symm)
  · obtain rfl := Option.some.inj hs
    exact h.rewrite (x := .droppingDir t) (Or.inr hown.symm) (Option.map_map _ _ _)

/-- `drop` of the directory. -/
theorem Owned.fsStep_droppingDir (h : Owned s) (hp : s.process pid = .droppingDir t)
    (hs : fsStep s pid fails = some s') : Owned s' := by
  have hown : s.owner pid = some t := owner_of_eq hp
  simp only [fsStep, hp, h.noteDrop_eq hown] at hs
  split at hs
  · exact Option.some.inj hs ▸ h.goto (Or.inl rfl)
  · split at hs
    · obtain rfl := Option.some.inj hs
      exact h.remove (h.vacant hown rfl) rfl
    · exact Option.some.inj hs ▸ h.goto (Or.inl rfl)

/-- **One step of a process keeps the directory with its owner**, where stale locks are stale. -/
theorem Owned.fsStep (h : Owned s) (hstale : RemovesStale s (.step pid fails))
    (hs : fsStep s pid fails = some s') : Owned s' := by
  cases hp : s.process pid with
  | absent | idle | holding t =>
    simp only [SessionLock.fsStep, hp] at hs
    cases hs
  | creating => exact h.fsStep_creating hp hs
  | writing t => exact h.fsStep_writing hp hs
  | backingOut t => exact h.fsStep_backingOut hp hs
  | reading => exact h.fsStep_reading hp hs
  | checking other =>
    simp only [SessionLock.fsStep, hp] at hs
    obtain rfl := Option.some.inj hs
    refine h.goto (Or.inl ?_)
    split <;> rfl
  | removing => exact h.fsStep_removing hp hstale hs
  | droppingPid t => exact h.fsStep_droppingPid hp hs
  | droppingDir t => exact h.fsStep_droppingDir hp hs

/-! ## Whole runs -/

theorem Owned.step (s : World) (a : Action) (s' : World) (h : Owned s) (hstale : RemovesStale s a)
    (hs : step s a = some s') : Owned s' := by
  cases a with
  | start pid =>
    simp only [SessionLock.step] at hs
    split at hs
    · exact Option.some.inj hs ▸ h.goto (Or.inl rfl)
    · cases hs
  | die pid =>
    simp only [SessionLock.step] at hs
    split at hs
    · cases hs
    · exact Option.some.inj hs ▸ h.goto (Or.inl rfl)
  | acquire pid =>
    simp only [SessionLock.step] at hs
    split at hs
    · exact Option.some.inj hs ▸ h.goto (Or.inl rfl)
    · cases hs
  | drop pid =>
    simp only [SessionLock.step] at hs
    split at hs
    · next t hp => exact Option.some.inj hs ▸ h.goto (Or.inr (owner_of_eq hp).symm)
    · cases hs
  | step pid fails => exact h.fsStep hstale hs

theorem owned_init (left : Option (Option Text)) : Owned (init left) :=
  ⟨Vacant.held (fun _ => rfl) _, rfl⟩

theorem Owned.exclusive (s : World) (h : Owned s) : Exclusive s where
  one p q t u hp hq := h.held.alone p q t u (owner_of_eq hp) (owner_of_eq hq)
  ownDrop := h.ownDrop

/-- **The lock is exclusive in every run that removes only stale directories**: whatever the order
    of the steps, whoever dies, and whatever fails. -/
theorem lock_exclusive (left : Option (Option Text)) (as : List Action)
    (h : Along step RemovesStale (init left) as) : Throughout step Exclusive (init left) as :=
  throughout_of_along Owned.step Owned.exclusive (owned_init left) h

/-! ## Two sessions at once -/

/-- Session 1 has made the directory, and not written its pid file yet, when session 2 looks for
    it. -/
def twoSessions : List Action :=
  [.start 1, .start 2, .acquire 1, .acquire 2, .step 1 false, .step 2 false, .step 2 false,
    .step 1 false, .step 2 false, .step 2 false, .step 2 false]

theorem twoSessions_not_exclusive : ¬ Throughout step Exclusive (init none) twoSessions := by
  intro h
  have hone := (h.of_run rfl).one 1 2 1 2 rfl rfl
  revert hone
  decide

/-- Session 1 dies before it writes its pid file, and session 2 takes over. -/
def takeOver : List Action :=
  [.start 1, .acquire 1, .step 1 false, .die 1, .start 2, .acquire 2, .step 2 false, .step 2 false,
    .step 2 false, .step 2 false, .step 2 false]

theorem takeOver_exclusive : Throughout step Exclusive (init none) takeOver := by
  refine lock_exclusive none takeOver ?_
  iterate 8
    intro s hs
    cases hs
    refine ⟨by first | trivial | exact fun h => (nomatch h), ?_⟩
  intro s hs
  cases hs
  refine ⟨fun _ d _ q hq => ?_, ?_⟩
  · -- The maker of the directory is gone.
    simp only [World.goto, Function.update_apply] at hq
    split_ifs at hq <;> cases hq
  iterate 2
    intro s hs
    cases hs
    refine ⟨fun h => (nomatch h), ?_⟩
  trivial

end SessionLock
end Lusbip
