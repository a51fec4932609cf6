import Lusbip.Client.SessionLock

/-!
# Servers coming and going

One server listens on a port at a time; the kernel sees to that. Which one it is, the others learn
from a pid file: a server writes its own once it listens and removes it when it is through, if it is
still its own, and whoever finds the port taken shows what the server of the pid file is doing and can
stop it. The port and the file change hands at different times, the file is read and removed in two
steps, and any process may end between any two. Whether the file could be written or removed, nobody
looks at.
-/

namespace Lusbip
namespace Server

open Lib
open Lib.Fields
open Lib.Tenancy
open Lib.Transition

/-- What `remove_server_pid` is part of. -/
inductive Purpose where
  /-- `run_server` returns. -/
  | stop
  /-- `run_server` starts a server in the background. -/
  | background
  /-- The view of another server has stopped it. -/
  | view
  deriving DecidableEq, Repr

/-- Where a process is in `run_server`. -/
inductive Stage where
  | absent
  /-- A process of another program. -/
  | foreign
  /-- About to bind the listener. -/
  | starting (background : Bool)
  /-- About to write the pid file. -/
  | bound (background : Bool)
  | serving (background : Bool)
  /-- The tasks are aborted; about to read the pid file in `remove_server_pid`. -/
  | leaving (purpose : Purpose)
  /-- The pid file was its own; about to remove it. -/
  | removing (purpose : Purpose)
  /-- `remove_server_pid` has returned. -/
  | left (purpose : Purpose)
  /-- The address is in use; about to read the pid file in `active_server_pid`. -/
  | refused
  /-- About to look into `/proc`. -/
  | looking (pid : Pid)
  /-- In `attach_existing_server_view`. -/
  | viewing (pid : Pid)
  deriving DecidableEq, Repr

/-- The processes of a machine, a port of it, and the pid file of the port. -/
structure Machine where
  stage : Pid → Stage := fun _ => .absent
  /-- The process whose socket has the port. -/
  listener : Option Pid := none
  pidFile : Option Text := none

/-- What comes of a write of the pid file. So few bytes are written all or not at all. -/
inductive Written where
  | whole
  /-- The file cannot be opened. -/
  | unopened
  /-- The file is opened, which empties it, and takes nothing. -/
  | emptied
  deriving DecidableEq, Repr

/-- The pid file after `write_server_pid`. -/
def Written.file (pid : Pid) (pidFile : Option Text) : Written → Option Text
  | .whole => some (decimal pid.toNat)
  | .unopened => pidFile
  | .emptied => some []

namespace Machine

inductive Action where
  | start (pid : Pid) (background : Bool)
  | startForeign (pid : Pid)
  /-- The process ends, wherever it is. -/
  | die (pid : Pid)
  /-- `TcpListener::bind` -/
  | bind (pid : Pid)
  | writePid (pid : Pid) (written : Written)
  /-- Ctrl+C. -/
  | stop (pid : Pid)
  /-- Esc, while `clients` are attached. -/
  | escape (pid : Pid) (clients : Nat)
  /-- The listener of the aborted task is dropped. -/
  | close (pid : Pid)
  | readOwnPid (pid : Pid)
  | removePid (pid : Pid) (removed : Bool)
  /-- `spawn_background_server`, of a process that returns then. -/
  | relaunch (pid child : Pid)
  /-- `run_server` returns. -/
  | finish (pid : Pid)
  | readPid (pid : Pid)
  | look (pid : Pid)
  /-- Ctrl+C in the view: `kill`, which `ends` the process or not. -/
  | kill (pid : Pid) (permitted ends : Bool)
  deriving DecidableEq, Repr

def goto (m : Machine) (pid : Pid) (stage : Stage) : Machine :=
  { m with stage := Function.update m.stage pid stage }

/-- The process is there no more, and what it listened on is free. -/
def exit (m : Machine) (pid : Pid) : Machine :=
  { m.goto pid .absent with listener := if m.listener = some pid then none else m.listener }

/-- The process id that the pid file names. -/
def filePid (m : Machine) : Option Pid := m.pidFile.bind pidOf

def step (m : Machine) : Action → Option Machine
  | .start pid background =>
      match m.stage pid with
      | .absent => some (m.goto pid (.starting background))
      | _ => none
  | .startForeign pid =>
      match m.stage pid with
      | .absent => some (m.goto pid .foreign)
      | _ => none
  | .die pid =>
      match m.stage pid with
      | .absent => none
      | _ => some (m.exit pid)
  | .bind pid =>
      match m.stage pid, m.listener with
      | .starting background, none =>
          some { m.goto pid (.bound background) with listener := some pid }
      | .starting _, some _ => some (m.goto pid .refused)
      | .foreign, none => some { m with listener := some pid }
      | _, _ => none
  | .writePid pid written =>
      match m.stage pid with
      | .bound background =>
          some { m.goto pid (.serving background) with pidFile := written.file pid m.pidFile }
      | _ => none
  | .stop pid =>
      match m.stage pid with
      | .serving _ => some (m.goto pid (.leaving .stop))
      | _ => none
  | .escape pid clients =>
      match m.stage pid with
      | .serving false =>
          if clients = 0 then some (m.goto pid (.leaving .background)) else some m
      | .viewing _ => some (m.exit pid)
      | _ => none
  | .close pid =>
      if m.listener = some pid then
        match m.stage pid with
        | .leaving _ | .removing _ | .left _ | .foreign => some { m with listener := none }
        | _ => none
      else none
  | .readOwnPid pid =>
      match m.stage pid with
      | .leaving purpose =>
          some (m.goto pid (if m.filePid = some pid then .removing purpose else .left purpose))
      | _ => none
  | .removePid pid removed =>
      match m.stage pid with
      | .removing purpose =>
          some
            { m.goto pid (.left purpose) with pidFile := if removed then none else m.pidFile }
      | _ => none
  | .relaunch pid child =>
      match m.stage pid, m.stage child with
      | .left .background, .absent => some ((m.exit pid).goto child (.starting true))
      | _, _ => none
  | .finish pid =>
      match m.stage pid with
      | .left .background => none
      | .left _ => some (m.exit pid)
      | _ => none
  | .readPid pid =>
      match m.stage pid with
      | .refused =>
          match m.filePid with
          | some other => some (m.goto pid (.looking other))
          | none => some (m.exit pid)
      | _ => none
  | .look pid =>
      match m.stage pid with
      | .looking other =>
          if m.stage other = .absent then some (m.exit pid) else some (m.goto pid (.viewing other))
      | _ => none
  | .kill pid permitted ends =>
      match m.stage pid with
      | .viewing other =>
          if m.stage other = .absent ∨ permitted = false then some (m.exit pid)
          else
            let m := if ends then m.exit other else m
            if m.stage pid = .absent then some m else some (m.goto pid (.leaving .view))
      | _ => none

/-- Nobody runs, and an earlier server may have left its file. -/
def init (pidFile : Option Text) : Machine := { pidFile }

/-! ## What a step can do -/

inductive Turn (m : Machine) : Action → Machine → Prop where
  | start (pid : Pid) (background : Bool) :
      Turn m (.start pid background) (m.goto pid (.starting background))
  | startForeign (pid : Pid) : Turn m (.startForeign pid) (m.goto pid .foreign)
  | die (pid : Pid) : Turn m (.die pid) (m.exit pid)
  | bind (pid : Pid) (background : Bool) (hstage : m.stage pid = .starting background)
      (hfree : m.listener = none) :
      Turn m (.bind pid) { m.goto pid (.bound background) with listener := some pid }
  | refuse (pid : Pid) (background : Bool) (hstage : m.stage pid = .starting background) :
      Turn m (.bind pid) (m.goto pid .refused)
  | bindForeign (pid : Pid) (hfree : m.listener = none) :
      Turn m (.bind pid) { m with listener := some pid }
  | writePid (pid : Pid) (written : Written) (background : Bool)
      (hstage : m.stage pid = .bound background) :
      Turn m (.writePid pid written)
        { m.goto pid (.serving background) with pidFile := written.file pid m.pidFile }
  | stop (pid : Pid) : Turn m (.stop pid) (m.goto pid (.leaving .stop))
  | background (pid : Pid) (clients : Nat) :
      Turn m (.escape pid clients) (m.goto pid (.leaving .background))
  | busy (pid : Pid) (clients : Nat) : Turn m (.escape pid clients) m
  | detach (pid : Pid) (clients : Nat) : Turn m (.escape pid clients) (m.exit pid)
  | close (pid : Pid) (hlistener : m.listener = some pid)
      (hstage : ∀ background, m.stage pid ≠ .bound background ∧ m.stage pid ≠ .serving background) :
      Turn m (.close pid) { m with listener := none }
  | readOwn (pid : Pid) (purpose : Purpose) (hstage : m.stage pid = .leaving purpose)
      (hown : m.filePid = some pid) :
      Turn m (.readOwnPid pid) (m.goto pid (.removing purpose))
  | readOther (pid : Pid) (purpose : Purpose) :
      Turn m (.readOwnPid pid) (m.goto pid (.left purpose))
  | removePid (pid : Pid) (removed : Bool) (purpose : Purpose)
      (hstage : m.stage pid = .removing purpose) :
      Turn m (.removePid pid removed)
        { m.goto pid (.left purpose) with pidFile := if removed then none else m.pidFile }
  | relaunch (pid child : Pid) :
      Turn m (.relaunch pid child) ((m.exit pid).goto child (.starting true))
  | finish (pid : Pid) : Turn m (.finish pid) (m.exit pid)
  | readPid (pid other : Pid) (hstage : m.stage pid = .refused) :
      Turn m (.readPid pid) (m.goto pid (.looking other))
  | unnamed (pid : Pid) : Turn m (.readPid pid) (m.exit pid)
  | view (pid other : Pid) (hstage : m.stage pid = .looking other) :
      Turn m (.look pid) (m.goto pid (.viewing other))
  | stale (pid : Pid) : Turn m (.look pid) (m.exit pid)
  | kill (pid other : Pid) (permitted ends : Bool) (hstage : m.stage pid = .viewing other) :
      Turn m (.kill pid permitted ends) ((m.exit other).goto pid (.leaving .view))
  | survive (pid other : Pid) (permitted ends : Bool) (hstage : m.stage pid = .viewing other) :
      Turn m (.kill pid permitted ends) (m.goto pid (.leaving .view))
  | killed (pid other : Pid) (permitted ends : Bool) :
      Turn m (.kill pid permitted ends) (m.exit other)

theorem turn_kill {m m' : Machine} {pid : Pid} {permitted ends : Bool}
    (hs : m.step (.kill pid permitted ends) = some m') : Turn m (.kill pid permitted ends) m' := by
  unfold step at hs
  dsimp only at hs
  split at hs
  · rename_i other hstage
    split at hs
    · cases hs
      exact .killed pid pid permitted ends
    · cases ends with
      | true =>
        rw [if_pos rfl] at hs
        split at hs
        · cases hs
          exact .killed pid other permitted true
        · cases hs
          exact .kill pid other permitted true hstage
      | false =>
        rw [if_neg Bool.false_ne_true, if_neg (by rw [hstage]; exact fun h => nomatch h)] at hs
        cases hs
        exact .survive pid other permitted false hstage
  · cases hs

theorem turn_of_step {m m' : Machine} {action : Action} (hs : m.step action = some m') :
    Turn m action m' := by
  cases action with
  | kill pid permitted ends => exact turn_kill hs
  | start pid background =>
    unfold step at hs
    dsimp only at hs
    split at hs <;> cases hs
    exact .start pid background
  | startForeign pid =>
    unfold step at hs
    dsimp only at hs
    split at hs <;> cases hs
    exact .startForeign pid
  | die pid =>
    unfold step at hs
    dsimp only at hs
    split at hs <;> cases hs
    exact .die pid
  -- One listener at most: who comes second is refused, and a foreign program is not modelled
  -- then.
  | bind pid =>
    unfold step at hs
    dsimp only at hs
    cases hstage : m.stage pid with
    | starting background =>
      cases hlistener : m.listener with
      | none =>
        rw [hstage, hlistener] at hs
        cases hs
        exact .bind pid background hstage hlistener
      | some other =>
        rw [hstage, hlistener] at hs
        cases hs
        exact .refuse pid background hstage
    | foreign =>
      cases hlistener : m.listener with
      | none =>
        rw [hstage, hlistener] at hs
        cases hs
        exact .bindForeign pid hlistener
      | some other =>
        rw [hstage, hlistener] at hs
        cases hs
    | _ =>
      rw [hstage] at hs
      cases hs
  | writePid pid written =>
    unfold step at hs
    dsimp only at hs
    split at hs <;> cases hs
    exact .writePid pid written _ ‹_›
  | stop pid =>
    unfold step at hs
    dsimp only at hs
    split at hs <;> cases hs
    exact .stop pid
  | escape pid clients =>
    unfold step at hs
    dsimp only at hs
    split at hs
    · split at hs <;> cases hs
      · exact .background pid clients
      · exact .busy pid clients
    · cases hs
      exact .detach pid clients
    · cases hs
  | close pid =>
    unfold step at hs
    dsimp only at hs
    split at hs
    · rename_i hlistener
      split at hs <;> cases hs
      all_goals
        rename_i hstage
        exact .close pid hlistener fun background => by simp [hstage]
    · cases hs
  -- The file is removed only by whom it names.
  | readOwnPid pid =>
    unfold step at hs
    dsimp only at hs
    split at hs
    · rename_i purpose hstage
      cases hs
      split
      · rename_i hown
        exact .readOwn pid purpose hstage hown
      · exact .readOther pid purpose
    · cases hs
  | removePid pid removed =>
    unfold step at hs
    dsimp only at hs
    split at hs <;> cases hs
    exact .removePid pid removed _ ‹_›
  | relaunch pid child =>
    unfold step at hs
    dsimp only at hs
    split at hs <;> cases hs
    exact .relaunch pid child
  | finish pid =>
    unfold step at hs
    dsimp only at hs
    split at hs
    · cases hs
    · cases hs
      exact .finish pid
    · cases hs
  | readPid pid =>
    unfold step at hs
    dsimp only at hs
    split at hs
    · rename_i hstage
      split at hs <;> cases hs
      · exact .readPid pid _ hstage
      · exact .unnamed pid
    · cases hs
  | look pid =>
    unfold step at hs
    dsimp only at hs
    split at hs
    · rename_i other hstage
      split at hs <;> cases hs
      · exact .stale pid
      · exact .view pid other hstage
    · cases hs

end Machine

/-! ## Who has the port, who is in the file -/

/-- The process has the port, for a server. -/
def Stage.listens : Stage → Bool
  | .bound _ | .serving _ => true
  | _ => false

def Stage.serves : Stage → Bool
  | .serving _ => true
  | _ => false

/-- The process has written the pid file, or the file does not name it and it leaves the file
    alone. -/
def Stage.Spares (filePid : Option Pid) (pid : Pid) : Stage → Prop
  | .foreign | .starting _ | .bound _ | .refused | .looking _ | .viewing _ | .leaving .view =>
      filePid ≠ some pid
  | .removing .view => False
  | .absent | .serving _ | .left _ | .leaving .stop | .leaving .background | .removing .stop
  | .removing .background => True

namespace Machine

/-- **The pid file is right**: whoever serves is in it. -/
def Named (m : Machine) : Prop := ∀ pid, (m.stage pid).serves = true → m.filePid = some pid

/-- No process takes the file away while a server needs it, and a server that begins to serve gets
    its id into the file. -/
def KeepsName (m : Machine) : Action → Prop
  | .writePid pid written => (written.file pid m.pidFile).bind pidOf = some pid
  | .removePid _ removed => removed = true → ∀ pid, (m.stage pid).serves = false
  | _ => True

/-- At most one process has the port, and at most one is in the pid file. -/
structure Guarded (m : Machine) : Prop where
  port : Held (byName Stage.listens m.stage) m.listener
  file : Held (byName Stage.serves m.stage) m.filePid

variable {m m' : Machine} {pid : Pid} {x : Stage}

theorem Guarded.named (h : Guarded m) : Named m := fun pid hserves =>
  h.file.there pid pid (byName_eq_some.mpr ⟨hserves, rfl⟩)

theorem listens_of_serves {stage : Stage} (h : stage.serves = true) : stage.listens = true := by
  cases stage with
  | serving _ => rfl
  | absent | foreign | starting _ | bound _ | leaving _ | removing _ | left _ | refused | looking _
  | viewing _ => cases h

/-- A process goes on and does not serve. -/
theorem Guarded.goto (h : Guarded m) (hx : x.listens = false) : Guarded (m.goto pid x) where
  port := h.port.moveByName fun hlistens => (nomatch hx.symm.trans hlistens)
  file := h.file.moveByName fun hserves => (nomatch hx.symm.trans (listens_of_serves hserves))

/-- The process with the port listens no more. -/
theorem Guarded.vacate (h : Guarded m) (hm : m.listener = some pid)
    (hx : (m.stage pid).listens = false) : Guarded { m with listener := none } where
  port := by
    refine (h.port.vacantByName fun k hk => ?_).held _
    rw [hm, Option.some.injEq] at hk
    exact hk ▸ hx
  file := h.file

theorem Guarded.exit (h : Guarded m) (pid : Pid) : Guarded (m.exit pid) := by
  have hgone : Guarded (m.goto pid .absent) := h.goto rfl
  unfold Machine.exit
  split
  · rename_i hlistener
    refine hgone.vacate hlistener ?_
    show (Function.update m.stage pid .absent pid).listens = false
    rw [Function.update_self]
    rfl
  · exact hgone

/-- Whoever has the port writes the file when nobody serves. -/
theorem Guarded.vacant_of_bound (h : Guarded m) {background : Bool}
    (hbound : m.stage pid = .bound background) : Vacant (byName Stage.serves m.stage) := by
  intro other
  rw [byName_eq_none, Bool.eq_false_iff]
  intro hserves
  have hport := h.port.alone other pid other pid
    (byName_eq_some.mpr ⟨listens_of_serves hserves, rfl⟩)
    (byName_eq_some.mpr ⟨by rw [hbound]; rfl, rfl⟩)
  rw [hport, hbound] at hserves
  cases hserves

/-! ## One step -/

theorem Guarded.bind (h : Guarded m) (hfree : m.listener = none) (background : Bool) :
    Guarded { m.goto pid (.bound background) with listener := some pid } := by
  have hvacant : Vacant (byName Stage.listens m.stage) := (hfree ▸ h.port).vacant
  exact ⟨hvacant.moveInByName rfl, h.file.moveByName fun hserves => (nomatch hserves)⟩

/-- Whoever has the port begins to serve when nobody does, under the name that it has left. -/
theorem Guarded.writePid (h : Guarded m) {background : Bool} {pidFile : Option Text}
    (hstage : m.stage pid = .bound background) (hname : pidFile.bind pidOf = some pid) :
    Guarded { m.goto pid (.serving background) with pidFile } := by
  refine ⟨h.port.moveByName fun _ => by rw [hstage]; rfl, ?_⟩
  show Held _ (pidFile.bind pidOf)
  rw [hname]
  exact (h.vacant_of_bound hstage).moveInByName rfl

/-- The file goes, when nobody serves. -/
theorem Guarded.removePid (h : Guarded m) {removed : Bool}
    (hown : removed = true → ∀ other, (m.stage other).serves = false) (purpose : Purpose) :
    Guarded
      { m.goto pid (.left purpose) with pidFile := if removed then none else m.pidFile } := by
  cases removed with
  | false => exact h.goto (x := .left purpose) rfl
  | true =>
    have hvacant : Vacant (byName Stage.serves m.stage) :=
      fun other => byName_eq_none.mpr (hown rfl other)
    refine ⟨h.port.moveByName fun hlistens => (nomatch hlistens), ?_⟩
    exact (hvacant.moveByName (x := .left purpose) rfl).held _

theorem Guarded.step (h : Guarded m) {action : Action} (hname : KeepsName m action)
    (hs : m.step action = some m') : Guarded m' := by
  cases turn_of_step hs with
  | start | startForeign | refuse | stop | background | readOwn | readOther | readPid | view
  | survive => exact h.goto rfl
  | die | detach | finish | unnamed | stale | killed => exact h.exit _
  | relaunch | kill => exact (h.exit _).goto rfl
  | busy => exact h
  | bind pid background hstage hfree => exact h.bind hfree background
  | bindForeign pid hfree => exact ⟨((hfree ▸ h.port).vacant).held _, h.file⟩
  | writePid pid written background hstage => exact h.writePid hstage hname
  | close pid hlistener hstage =>
    refine h.vacate hlistener ?_
    unfold Stage.listens
    split
    · exact absurd ‹_› (hstage _).1
    · exact absurd ‹_› (hstage _).2
    · rfl
  | removePid pid removed purpose hstage => exact h.removePid hname purpose

theorem guarded_init (pidFile : Option Text) : Guarded (init pidFile) := by
  refine ⟨Vacant.held (fun pid => ?_) _, Vacant.held (fun pid => ?_) _⟩
  · exact byName_eq_none.mpr rfl
  · exact byName_eq_none.mpr rfl

/-- No process gets the id that the pid file names. -/
def SparesId (m : Machine) : Action → Prop
  | .start pid _ | .startForeign pid | .relaunch _ pid => m.filePid ≠ some pid
  | _ => True

instance (m : Machine) : (action : Action) → Decidable (SparesId m action)
  | .start pid _ | .startForeign pid | .relaunch _ pid => inferInstanceAs (Decidable (_ ≠ some pid))
  | .die _ | .bind _ | .writePid _ _ | .stop _ | .escape _ _ | .close _ | .readOwnPid _
  | .removePid _ _ | .finish _ | .readPid _ | .look _ | .kill _ _ _ => isTrue trivial

/-- The file names no process that has not written it. -/
def Spared (m : Machine) : Prop := ∀ pid, (m.stage pid).Spares m.filePid pid

/-- The file changes only where a server that has the port writes its own id into it, or takes it
    away when it is through. -/
def KeepsFile (m : Machine) (action : Action) : Prop :=
  ∀ m', m.step action = some m' →
    m'.pidFile = m.pidFile ∨
      (∃ pid written background, action = .writePid pid written ∧
        m.stage pid = .bound background) ∨
      ∃ pid purpose, action = .removePid pid true ∧ m.stage pid = .removing purpose ∧
        purpose ≠ .view

theorem Spared.goto (h : Spared m) (hx : x.Spares m.filePid pid) : Spared (m.goto pid x) := by
  intro other
  show (Function.update m.stage pid x other).Spares m.filePid other
  by_cases hne : other = pid
  · subst hne
    rwa [Function.update_self]
  · rw [Function.update_of_ne hne]
    exact h other

theorem Spared.of_stage (h : Spared m) {stage : Stage} (hstage : m.stage pid = stage) :
    stage.Spares m.filePid pid := hstage ▸ h pid

theorem Spared.exit (h : Spared m) (pid : Pid) : Spared (m.exit pid) :=
  h.goto (x := .absent) trivial

/-- What is in the file is named by nobody who leaves it alone. -/
theorem Stage.Spares.imp {stage : Stage} {name name' : Option Pid} (h : stage.Spares name pid)
    (himp : name ≠ some pid → name' ≠ some pid) : stage.Spares name' pid := by
  unfold Stage.Spares at h ⊢
  split <;> simp_all

/-- What a write leaves in the file names the writer, whom it named before, or nobody. -/
theorem filePid_of_written (written : Written) (pidFile : Option Text) :
    (written.file pid pidFile).bind pidOf = some pid ∨
      (written.file pid pidFile).bind pidOf = pidFile.bind pidOf ∨
      (written.file pid pidFile).bind pidOf = none := by
  cases written with
  | whole => exact Or.inl (pidOf_decimal pid)
  | unopened => exact Or.inr (Or.inl rfl)
  | emptied => exact Or.inr (Or.inr rfl)

theorem Spared.writePid (h : Spared m) (written : Written) (background : Bool) :
    Spared { m.goto pid (.serving background) with pidFile := written.file pid m.pidFile } := by
  intro other
  show (Function.update m.stage pid (.serving background) other).Spares
    ((written.file pid m.pidFile).bind pidOf) other
  by_cases hne : other = pid
  · rw [hne, Function.update_self]
    trivial
  · -- Now the file names the writer, or nobody that it did not name before.
    rw [Function.update_of_ne hne]
    refine Stage.Spares.imp (h other) fun hbefore => ?_
    rcases filePid_of_written written m.pidFile with hfile | hfile | hfile
    · rw [hfile]
      exact fun heq => hne (Option.some.inj heq).symm
    · rw [hfile]
      exact hbefore
    · rw [hfile]
      exact nofun

/-- Only what it has written itself does a process find its own. -/
theorem Spared.readOwn (h : Spared m) {purpose : Purpose} (hstage : m.stage pid = .leaving purpose)
    (hown : m.filePid = some pid) : Spared (m.goto pid (.removing purpose)) := by
  have hspares := h.of_stage hstage
  cases purpose with
  | view => exact absurd hown hspares
  | stop => exact h.goto (x := .removing .stop) trivial
  | background => exact h.goto (x := .removing .background) trivial

theorem Spared.removePid (h : Spared m) (removed : Bool) (purpose : Purpose) :
    Spared
      { m.goto pid (.left purpose) with pidFile := if removed then none else m.pidFile } := by
  cases removed with
  | false => exact h.goto (x := .left purpose) trivial
  | true =>
    intro other
    show (Function.update m.stage pid (.left purpose) other).Spares none other
    by_cases hne : other = pid
    · rw [hne, Function.update_self]
      trivial
    · rw [Function.update_of_ne hne]
      exact Stage.Spares.imp (h other) fun _ heq => nomatch heq

theorem Spared.step (h : Spared m) {action : Action} (hid : SparesId m action)
    (hs : m.step action = some m') : Spared m' := by
  cases turn_of_step hs with
  | start pid background => exact h.goto (x := .starting background) hid
  | startForeign pid => exact h.goto (x := .foreign) hid
  | relaunch pid child => exact (h.exit pid).goto (x := .starting true) hid
  | die | detach | finish | unnamed | stale | killed => exact h.exit _
  | busy | close | bindForeign => exact h
  | stop => exact h.goto (x := .leaving .stop) trivial
  | background => exact h.goto (x := .leaving .background) trivial
  | readOther pid purpose => exact h.goto (x := .left purpose) trivial
  | bind pid background hstage hfree =>
    have hfile : m.filePid ≠ some pid := h.of_stage hstage
    exact h.goto (x := .bound background) hfile
  | refuse pid background hstage =>
    have hfile : m.filePid ≠ some pid := h.of_stage hstage
    exact h.goto (x := .refused) hfile
  | readPid pid other hstage =>
    have hfile : m.filePid ≠ some pid := h.of_stage hstage
    exact h.goto (x := .looking other) hfile
  | view pid other hstage =>
    have hfile : m.filePid ≠ some pid := h.of_stage hstage
    exact h.goto (x := .viewing other) hfile
  | kill pid other permitted ends hstage =>
    have hfile : m.filePid ≠ some pid := h.of_stage hstage
    exact (h.exit other).goto (x := .leaving .view) hfile
  | survive pid other permitted ends hstage =>
    have hfile : m.filePid ≠ some pid := h.of_stage hstage
    exact h.goto (x := .leaving .view) hfile
  | writePid pid written background hstage => exact h.writePid written background
  | readOwn pid purpose hstage hown => exact h.readOwn hstage hown
  | removePid pid removed purpose hstage => exact h.removePid removed purpose

theorem Spared.keepsFile (h : Spared m) (action : Action) : KeepsFile m action := by
  intro m' hs
  cases turn_of_step hs with
  | writePid pid written background hstage =>
    exact Or.inr (Or.inl ⟨pid, written, background, rfl, hstage⟩)
  | removePid pid removed purpose hstage =>
    cases removed with
    | false => exact Or.inl rfl
    | true =>
      refine Or.inr (Or.inr ⟨pid, purpose, rfl, hstage, ?_⟩)
      rintro rfl
      exact h.of_stage hstage
  | _ => exact Or.inl rfl

/-- **A view takes no pid file away**, not even that of the server it has stopped. As long as no
    process is given the id that the file names, in every run: the file changes only where a server
    that has the port writes its own id into it, and where a server that is through removes it. So
    what a view has killed stays in the file until the next server writes its own. -/
theorem views_keep_pidFile {pidFile : Option Text} {actions : List Action}
    (hid : Along step SparesId (init pidFile) actions) :
    Along step KeepsFile (init pidFile) actions :=
  have hspared : Spared (init pidFile) := fun _ => trivial
  along_of_throughout_within (I := Spared) (fun _ _ _ h hid _ hs => h.step hid hs)
    (fun _ action _ h _ _ _ => h.keepsFile action) hspared hid
    (throughout_of_along (P := SparesId) (I := Spared) (fun _ _ _ h hid hs => h.step hid hs)
      (fun _ h => h) hspared hid)

/-- A server is looked at and stopped. -/
def viewAndKill : List Action :=
  [.start 1 false, .bind 1, .writePid 1 .whole, .start 2 false, .bind 2, .readPid 2, .look 2,
    .kill 2 true true, .readOwnPid 2, .finish 2]

theorem viewAndKill_keeps_pidFile :
    (run step (init none) viewAndKill).map (·.pidFile) = some (some "1".toList) ∧
      Along step KeepsFile (init none) viewAndKill :=
  ⟨by decide +kernel, views_keep_pidFile (by decide +kernel)⟩

end Machine
end Server
end Lusbip
