import Lusbip.Client.SessionLock

/-!
# The runtime directory of the background agent

One background agent for an endpoint: it lives in a runtime directory, with a pid file and its
control socket. A start looks for the directory, asks whether the process of the pid file is alive,
removes what it finds stale, makes the directory, writes its process id, and binds the socket. Only
the last of these fails where another agent is in place; making the directory does not, and any
number of processes take these steps in any order, and end between any two of them.

As in the session lock, a directory has a ticket which no process sees.
-/

namespace Lusbip
namespace AgentRuntime

open Lib
open Lib.Fields
open Lib.Tenancy
open Lib.Transition

/-- The runtime directory of the endpoint. -/
structure Directory where
  ticket : Nat
  pidFile : Option Text
  /-- There is a file at the path of the control socket. -/
  socket : Bool
  deriving DecidableEq, Repr

/-- Where a process is. From `writing` on, its runtime directory is that of the ticket. -/
inductive Process where
  | absent
  | idle
  /-- `spawn_background_agent`, about to read the pid file. -/
  | spawnReading
  | spawnChecking (pid : Pid)
  /-- About to start the child. -/
  | launching
  /-- `run_background_agent`, about to look for the runtime directory. -/
  | finding
  /-- About to read the pid file of the directory that is there. -/
  | reading
  | checking (pid : Pid)
  /-- About to `remove_dir_all` what is stale. -/
  | removing
  /-- About to `create_dir_all`. -/
  | making
  /-- About to write the pid file. -/
  | writing (ticket : Nat)
  /-- About to bind the control socket. -/
  | binding (ticket : Nat)
  | serving (ticket : Nat)
  /-- About to `remove_runtime_dir`. -/
  | leaving (ticket : Nat)
  deriving DecidableEq, Repr

/-- The directory of an endpoint, and the processes. -/
structure World where
  directory : Option Directory := none
  nextTicket : Nat := 0
  process : Pid → Process := fun _ => .absent

/-- What happens next: a process starts or dies, or goes on by one call of the system. -/
inductive Action where
  | start (pid : Pid)
  /-- The process ends, wherever it is. -/
  | die (pid : Pid)
  /-- `client --background` -/
  | spawn (pid : Pid)
  /-- `client --background --agent-child` -/
  | run (pid : Pid)
  /-- The child of `spawn_background_agent` begins to run. -/
  | launch (pid child : Pid)
  /-- A `SHUTDOWN` is answered OK, or `accept` fails for good. -/
  | leave (pid : Pid)
  /-- The next file-system call; `fails` where it fails for a reason of its own. -/
  | step (pid : Pid) (fails : Bool)
  deriving DecidableEq, Repr

/-- A process goes on. -/
def World.goto (s : World) (pid : Pid) (p : Process) : World :=
  { s with process := Function.update s.process pid p }

/-- `process_exists` -/
def World.exists (s : World) (pid : Pid) : Prop := s.process pid ≠ .absent

instance (s : World) (pid : Pid) : Decidable (s.exists pid) := inferInstanceAs (Decidable (_ ≠ _))

/-- The pid file, if there is a directory for it. -/
def World.pidFile (s : World) : Option Text := s.directory.bind (·.pidFile)

/-- The process of the pid file exists. Whether it is an agent is not asked. -/
def backgroundAgentIsLive (s : World) : Bool :=
  match s.pidFile.bind pidOf with
  | some pid => s.exists pid
  | none => false

/-- The process id that `background_agent_is_live` reads, before it asks for the process. -/
def World.readPid (s : World) (fails : Bool) : Option Pid :=
  if fails then none else s.pidFile.bind pidOf

/-- The next call of `spawn_background_agent` or `run_background_agent`. A process whose call fails
    ends, as does an agent that finds another. -/
def fsStep (s : World) (pid : Pid) (fails : Bool) : Option World :=
  match s.process pid with
  | .absent | .idle | .launching | .serving _ => none
  | .spawnReading =>
      match s.readPid fails with
      | some other => some (s.goto pid (.spawnChecking other))
      | none => some (s.goto pid .launching)
  | .spawnChecking other => some (s.goto pid (if s.exists other then .idle else .launching))
  | .finding => some (s.goto pid (if fails ∨ s.directory = none then .making else .reading))
  | .reading =>
      match s.readPid fails with
      | some other => some (s.goto pid (.checking other))
      | none => some (s.goto pid .removing)
  | .checking other => some (s.goto pid (if s.exists other then .absent else .removing))
  | .removing =>
      if fails ∨ s.directory = none then some (s.goto pid .absent)
      else some { s.goto pid .making with directory := none }
  | .making =>
      if fails then some (s.goto pid .absent)
      else
        match s.directory with
        | some d => some (s.goto pid (.writing d.ticket))
        | none =>
            some
              { s.goto pid (.writing s.nextTicket) with
                directory := some { ticket := s.nextTicket, pidFile := none, socket := false }
                nextTicket := s.nextTicket + 1 }
  | .writing t =>
      match s.directory with
      | some d =>
          if fails then some (s.goto pid .absent)
          else
            some
              { s.goto pid (.binding t) with
                directory := some { d with pidFile := some (decimal pid.toNat) } }
      | none => some (s.goto pid .absent)
  | .binding t =>
      match s.directory with
      | some d =>
          if fails || d.socket then some (s.goto pid .absent)
          else some { s.goto pid (.serving t) with directory := some { d with socket := true } }
      | none => some (s.goto pid .absent)
  | .leaving _ =>
      if fails then some (s.goto pid .absent)
      else some { s.goto pid .absent with directory := none }

/-- The processes go on in any order. -/
def step (s : World) : Action → Option World
  | .start pid => if s.process pid = .absent then some (s.goto pid .idle) else none
  | .die pid => if s.process pid = .absent then none else some (s.goto pid .absent)
  | .spawn pid => if s.process pid = .idle then some (s.goto pid .spawnReading) else none
  | .run pid => if s.process pid = .idle then some (s.goto pid .finding) else none
  | .launch pid child =>
      if s.process pid = .launching ∧ s.process child = .absent then
        some ((s.goto pid .idle).goto child .finding)
      else none
  | .leave pid =>
      match s.process pid with
      | .serving t => some (s.goto pid (.leaving t))
      | _ => none
  | .step pid fails => fsStep s pid fails

/-- Nobody runs, and an earlier agent may have left its directory. -/
def init (left : Option (Option Text × Bool)) : World where
  directory := left.map fun (pidFile, socket) => { ticket := 0, pidFile, socket }
  nextTicket := 1

/-! ## What the directory is for -/

/-- The directory that is there now; one that is made anew is another one. -/
def World.ticket (s : World) : Option Nat := s.directory.map (·.ticket)

/-- At most one agent serves; its directory stays, and says that it lives. -/
structure OneAgent (s : World) : Prop where
  one : ∀ p q t u, s.process p = .serving t → s.process q = .serving u → p = q
  kept : ∀ p t, s.process p = .serving t → s.ticket = some t
  live : ∀ p t, s.process p = .serving t → backgroundAgentIsLive s = true

/-- The ticket of the directory the process took for its own, as long as it lives. -/
def Process.own : Process → Option Nat
  | .writing t | .binding t | .serving t | .leaving t => some t
  | .absent | .idle | .spawnReading | .spawnChecking _ | .launching | .finding | .reading
  | .checking _ | .removing | .making => none

/-- The process has written its pid file. -/
def Process.signed : Process → Bool
  | .binding _ | .serving _ | .leaving _ => true
  | _ => false

/-- A start neither removes, as stale, nor takes over, as its own, the directory of a living
    agent. -/
def StartsAlone (s : World) : Action → Prop
  | .step pid false => s.process pid = .removing ∨ s.process pid = .making →
      ∀ d ∈ s.directory, ∀ q, (s.process q).own ≠ some d.ticket
  | _ => True

/-- Whose directory is at the path, and whose pid is in it. -/
structure Settled (s : World) : Prop where
  held : Held (fun p => (s.process p).own) s.ticket
  signed : ∀ p, (s.process p).signed = true → s.pidFile = some (decimal p.toNat)

variable {s s' : World} {pid p q : Pid} {t u : Nat} {x : Process} {fails : Bool}

@[simp] theorem goto_self (s : World) (pid : Pid) (x : Process) :
    (s.goto pid x).process pid = x := Function.update_self _ _ _

theorem goto_of_ne (h : q ≠ pid) : (s.goto pid x).process q = s.process q :=
  Function.update_of_ne h _ _

theorem ticket_of_eq {d : Directory} (h : s.directory = some d) : s.ticket = some d.ticket := by
  rw [World.ticket, h, Option.map_some]

theorem pidFile_of_eq {d : Directory} (h : s.directory = some d) : s.pidFile = d.pidFile := by
  rw [World.pidFile, h, Option.bind_some]

/-- Only an owner has written its pid file. -/
theorem own_of_signed (h : x.signed = true) : ∃ t, x.own = some t := by
  cases x with
  | binding t | serving t | leaving t => exact ⟨t, rfl⟩
  | _ => cases h

/-! ## One step of a process -/

/-- Where nobody has a directory, there is nothing to keep. -/
theorem settled_of_vacant (h : Vacant fun p => (s.process p).own) : Settled s := by
  refine ⟨h.held _, fun p hp => ?_⟩
  obtain ⟨t, ht⟩ := own_of_signed hp
  exact nomatch (h p).symm.trans ht

/-- A process that goes on without a directory, or with the one it has. -/
theorem Settled.goto (h : Settled s) (hown : x.own = none ∨ x.own = (s.process pid).own)
    (hsigned : x.signed = true → (s.process pid).signed = true) : Settled (s.goto pid x) := by
  refine ⟨h.held.move hown, fun p hp => ?_⟩
  by_cases hpp : p = pid
  · subst hpp
    rw [goto_self] at hp
    exact h.signed p (hsigned hp)
  · rw [goto_of_ne hpp] at hp
    exact h.signed p hp

/-- A process that has no directory from here on. -/
theorem Settled.lose (h : Settled s) (hown : x.own = none) : Settled (s.goto pid x) := by
  refine h.goto (Or.inl hown) fun hx => ?_
  obtain ⟨t, ht⟩ := own_of_signed hx
  exact nomatch hown.symm.trans ht

/-- The only owner of the directory has written its pid file, or is about to. -/
theorem Settled.sign (h : Settled s) (hown : (s.process pid).own = some t) (hx : x.own = some t)
    (hprocess : s'.process = Function.update s.process pid x) (hticket : s'.ticket = s.ticket)
    (hpid : x.signed = true → s'.pidFile = some (decimal pid.toNat)) : Settled s' := by
  constructor
  · rw [hprocess, hticket]
    exact h.held.move (Or.inr (hx.trans hown.symm))
  · intro p hp
    rw [hprocess] at hp
    by_cases hpp : p = pid
    · subst hpp
      rw [Function.update_self] at hp
      exact hpid hp
    · rw [Function.update_of_ne hpp] at hp
      -- Whoever else is signed would own the directory too.
      obtain ⟨u, hu⟩ := own_of_signed hp
      exact absurd (h.held.alone p pid u t hu hown) hpp

/-- Nobody has the directory that a start removes or takes over. -/
theorem Settled.vacant (h : Settled s)
    (halone : ∀ d ∈ s.directory, ∀ q, (s.process q).own ≠ some d.ticket) :
    Vacant fun p => (s.process p).own := by
  refine h.held.vacant_of_ne fun t ht q => ?_
  obtain ⟨d, hd, rfl⟩ := Option.map_eq_some_iff.mp ht
  exact halone d hd q

/-- Removing a stale directory. -/
theorem Settled.fsStep_removing (h : Settled s) (hp : s.process pid = .removing)
    (halone : StartsAlone s (.step pid fails)) (hs : fsStep s pid fails = some s') :
    Settled s' := by
  simp only [fsStep, hp] at hs
  split at hs
  · exact Option.some.inj hs ▸ h.lose rfl
  · next hnot =>
    rw [not_or, Bool.not_eq_true] at hnot
    obtain ⟨rfl, -⟩ := hnot
    obtain rfl := Option.some.inj hs
    have hvacant := h.vacant (halone (Or.inl hp))
    exact settled_of_vacant (hvacant.move rfl)

/-- Making the directory, or taking over the one that is there. -/
theorem Settled.fsStep_making (h : Settled s) (hp : s.process pid = .making)
    (halone : StartsAlone s (.step pid fails)) (hs : fsStep s pid fails = some s') :
    Settled s' := by
  cases fails with
  | true =>
    simp only [fsStep, hp] at hs
    exact Option.some.inj hs ▸ h.lose rfl
  | false =>
    have hvacant := h.vacant (halone (Or.inr hp))
    -- Whoever is signed is an owner, so nobody is but the one that has just come.
    have hunsigned : ∀ t p, (Function.update s.process pid (.writing t) p).signed ≠ true := by
      intro t p hsig
      by_cases hpp : p = pid
      · rw [hpp, Function.update_self] at hsig
        cases hsig
      · rw [Function.update_of_ne hpp] at hsig
        obtain ⟨u, hu⟩ := own_of_signed hsig
        exact nomatch (hvacant p).symm.trans hu
    cases hd : s.directory with
    | some d =>
      simp only [fsStep, hp, hd] at hs
      obtain rfl := Option.some.inj hs
      have hticket : s.ticket = some d.ticket := ticket_of_eq hd
      refine ⟨?_, fun p hsig => absurd hsig (hunsigned _ p)⟩
      have hheld : Held (fun p => (Function.update s.process pid (.writing d.ticket) p).own)
          (some d.ticket) := hvacant.moveIn rfl
      exact hticket ▸ hheld
    | none =>
      simp only [fsStep, hp, hd] at hs
      obtain rfl := Option.some.inj hs
      exact ⟨hvacant.moveIn rfl, fun p hsig => absurd hsig (hunsigned _ p)⟩

/-- Writing the pid file. -/
theorem Settled.fsStep_writing (h : Settled s) (hp : s.process pid = .writing t)
    (hs : fsStep s pid fails = some s') : Settled s' := by
  have hown : (s.process pid).own = some t := congrArg Process.own hp
  cases hd : s.directory with
  | none =>
    simp only [fsStep, hp, hd] at hs
    exact Option.some.inj hs ▸ h.lose rfl
  | some d =>
    simp only [fsStep, hp, hd] at hs
    split at hs
    · exact Option.some.inj hs ▸ h.lose rfl
    · obtain rfl := Option.some.inj hs
      have hticket : s.ticket = some d.ticket := ticket_of_eq hd
      exact h.sign hown rfl rfl hticket.symm fun _ => rfl

/-- Binding the control socket. -/
theorem Settled.fsStep_binding (h : Settled s) (hp : s.process pid = .binding t)
    (hs : fsStep s pid fails = some s') : Settled s' := by
  have hown : (s.process pid).own = some t := congrArg Process.own hp
  have hsigned : (s.process pid).signed = true := congrArg Process.signed hp
  cases hd : s.directory with
  | none =>
    simp only [fsStep, hp, hd] at hs
    exact Option.some.inj hs ▸ h.lose rfl
  | some d =>
    simp only [fsStep, hp, hd] at hs
    split at hs
    · exact Option.some.inj hs ▸ h.lose rfl
    · obtain rfl := Option.some.inj hs
      have hticket : s.ticket = some d.ticket := ticket_of_eq hd
      have hpid : s.pidFile = d.pidFile := pidFile_of_eq hd
      exact h.sign hown rfl rfl hticket.symm fun _ => hpid.symm.trans (h.signed pid hsigned)

/-- The agent removes its own directory. -/
theorem Settled.fsStep_leaving (h : Settled s) (hp : s.process pid = .leaving t)
    (hs : fsStep s pid fails = some s') : Settled s' := by
  have hown : (s.process pid).own = some t := congrArg Process.own hp
  simp only [fsStep, hp] at hs
  split at hs
  · exact Option.some.inj hs ▸ h.lose rfl
  · obtain rfl := Option.some.inj hs
    exact settled_of_vacant (h.held.moveOut hown rfl)

/-- **One step of a process keeps the directory with its owner**, where starts are alone. -/
theorem Settled.fsStep (h : Settled s) (halone : StartsAlone s (.step pid fails))
    (hs : fsStep s pid fails = some s') : Settled s' := by
  cases hp : s.process pid with
  | absent | idle | launching | serving t =>
    simp only [AgentRuntime.fsStep, hp] at hs
    cases hs
  | spawnReading | reading =>
    simp only [AgentRuntime.fsStep, hp] at hs
    split at hs
    · exact Option.some.inj hs ▸ h.lose rfl
    · exact Option.some.inj hs ▸ h.lose rfl
  | spawnChecking other | checking other | finding =>
    simp only [AgentRuntime.fsStep, hp] at hs
    obtain rfl := Option.some.inj hs
    refine h.lose ?_
    split <;> rfl
  | removing => exact h.fsStep_removing hp halone hs
  | making => exact h.fsStep_making hp halone hs
  | writing t => exact h.fsStep_writing hp hs
  | binding t => exact h.fsStep_binding hp hs
  | leaving t => exact h.fsStep_leaving hp hs

/-! ## Whole runs -/

theorem Settled.step (s : World) (a : Action) (s' : World) (h : Settled s)
    (halone : StartsAlone s a) (hs : step s a = some s') : Settled s' := by
  cases a with
  | start pid =>
    simp only [AgentRuntime.step] at hs
    split at hs
    · exact Option.some.inj hs ▸ h.lose rfl
    · cases hs
  | die pid =>
    simp only [AgentRuntime.step] at hs
    split at hs
    · cases hs
    · exact Option.some.inj hs ▸ h.lose rfl
  | spawn pid | run pid =>
    simp only [AgentRuntime.step] at hs
    split at hs
    · exact Option.some.inj hs ▸ h.lose rfl
    · cases hs
  | launch pid child =>
    simp only [AgentRuntime.step] at hs
    split at hs
    · -- The parent is through; the child is a new process that owns nothing yet.
      have hparent : Settled (s.goto pid .idle) := h.lose rfl
      exact Option.some.inj hs ▸ hparent.lose rfl
    · cases hs
  | leave pid =>
    simp only [AgentRuntime.step] at hs
    split at hs
    · next t hp =>
      refine Option.some.inj hs ▸ h.goto (Or.inr (congrArg Process.own hp).symm) fun _ => ?_
      exact congrArg Process.signed hp
    · cases hs
  | step pid fails => exact h.fsStep halone hs

theorem settled_init (left : Option (Option Text × Bool)) : Settled (init left) :=
  settled_of_vacant fun _ => rfl

/-- Where the directory is with its owner, its pid file names the agent that serves. -/
theorem Settled.oneAgent (s : World) (h : Settled s) : OneAgent s where
  one p q t u hp hq :=
    h.held.alone p q t u (congrArg Process.own hp) (congrArg Process.own hq)
  kept p t hp := h.held.there p t (congrArg Process.own hp)
  live p t hp := by
    have hpid : s.pidFile = some (decimal p.toNat) := h.signed p (congrArg Process.signed hp)
    have hlives : s.exists p := by
      rw [World.exists, hp]
      exact nofun
    rw [backgroundAgentIsLive, hpid, Option.bind_some, pidOf_decimal]
    exact decide_eq_true hlives

/-- **One background agent for an endpoint, in every run whose starts are alone**: whatever the
    order of the steps, whoever dies, and whatever fails. -/
theorem agent_alone (left : Option (Option Text × Bool)) (as : List Action)
    (h : Along step StartsAlone (init left) as) : Throughout step OneAgent (init left) as :=
  throughout_of_along Settled.step Settled.oneAgent (settled_init left) h

/-! ## Two starts at once -/

theorem startsAlone_of_none {a : Action} (h : s.directory = none) : StartsAlone s a := by
  unfold StartsAlone
  split
  · exact fun _ d hd => nomatch h.symm.trans hd
  · trivial

theorem startsAlone_of_busy (hr : s.process pid ≠ .removing) (hm : s.process pid ≠ .making) :
    StartsAlone s (.step pid false) := by
  intro h
  exact absurd h (not_or_intro hr hm)

/-- Agents 1 and 2 both find no directory. Agent 1 makes it, signs it and serves; agent 2 finds
    nothing wrong with making it again, signs it, and fails to bind. Its pid is not alive for the
    start of agent 3. -/
def threeStarts : List Action :=
  [.start 1, .start 2, .start 3, .run 1, .run 2, .step 1 false, .step 2 false, .step 1 false,
    .step 1 false, .step 1 false, .step 2 false, .step 2 false, .step 2 false, .run 3,
    .step 3 false, .step 3 false, .step 3 false, .step 3 false, .step 3 false, .step 3 false,
    .step 3 false]

theorem threeStarts_not_oneAgent : ¬ Throughout step OneAgent (init none) threeStarts := by
  intro h
  have hone := (h.of_run rfl).one 1 3 1 2 rfl rfl
  revert hone
  decide

/-- Agent 1 dies while it serves, and agent 2 takes over. -/
def takeOver : List Action :=
  [.start 1, .run 1, .step 1 false, .step 1 false, .step 1 false, .step 1 false, .die 1, .start 2,
    .run 2, .step 2 false, .step 2 false, .step 2 false, .step 2 false, .step 2 false,
    .step 2 false, .step 2 false]

theorem takeOver_oneAgent : Throughout step OneAgent (init none) takeOver := by
  refine agent_alone none takeOver ?_
  iterate 12
    intro s hs
    cases hs
    refine ⟨by first
      | trivial
      | exact startsAlone_of_none rfl
      | exact startsAlone_of_busy (by decide) (by decide), ?_⟩
  intro s hs
  cases hs
  refine ⟨fun _ d _ q hq => ?_, ?_⟩
  · -- Agent 1, whose directory is removed, is gone.
    simp only [World.goto, Function.update_apply] at hq
    split_ifs at hq <;> cases hq
  iterate 3
    intro s hs
    cases hs
    refine ⟨by first
      | exact startsAlone_of_none rfl
      | exact startsAlone_of_busy (by decide) (by decide), ?_⟩
  trivial

end AgentRuntime
end Lusbip
