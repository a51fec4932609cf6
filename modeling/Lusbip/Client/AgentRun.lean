import Mathlib.Logic.Function.Basic
import Lusbip.Lib.Transition
import Lusbip.Client.Agent

/-!
# The agent among the other programs of the machine

The kernel's table of virtual ports belongs to nobody. The agent attaches and detaches through
`usbip`, other programs do the same, and the kernel gives every attachment a port that is free. A
run interleaves the calls of the agent with what the others do: between any two calls of a request
the table may change. How a command is answered, whether a failing one has had its effect, and
which port an attachment comes to is up to the run.

Beside the table the world keeps what the run says about the agent: the ports it has attached and
not detached, the detaches of the request that failed, and whether it has ever detached a port that
was not its to detach. The agent sees none of this.
-/

namespace Lusbip
namespace Agent

open Lib
open Lib.Transition
open Client

/-! ## Calls and the table -/

/-- What `usbip` is asked for. -/
inductive Deed where
  | readPorts
  | readDevices
  | attach (remote busId : Text)
  | detach (port : Text)
  | other
  deriving DecidableEq, Repr

/-- What the words of a command line do. -/
def deedOf : List Text → Deed
  | [verb] => if verb = "port".toList then .readPorts else .other
  | [_, _, verb, _, port] =>
      if verb = "detach".toList then .detach port
      else if verb = "list".toList then .readDevices
      else .other
  | [_, _, _, _, verb, _, remote, _, busId] =>
      if verb = "attach".toList then .attach remote busId else .other
  | _ => .other

/-- What a call does to the ports, as far as the agent is concerned. -/
def deed : Call → Deed
  | .run _ args => deedOf args
  | _ => .other

/-- What a command has printed. -/
def outputOf : (c : Call) → c.Answer → Except Text Output
  | .run _ _, r => r
  | _, _ => .error []

/-- The command has been run, and says that it has succeeded. -/
def succeeded : Except Text Output → Bool
  | .ok output => output.success
  | .error _ => false

/-- What occupies a port. -/
structure Attachment where
  byAgent : Bool
  /-- The command that made it has reported success. -/
  reported : Bool
  remote : Text
  busId : Text
  deriving DecidableEq, Repr

/-- The ports of the machine, with what is attached at each. -/
abbrev PortTable := Text → Option Attachment

/-- The table after a command that was `reported` as successful, or has had its effect for all that.
    An attachment comes to `port`. -/
def PortTable.answered (table : PortTable) (d : Deed) (reported unreported : Bool) (port : Text) :
    PortTable :=
  if reported || unreported then
    match d with
    | .attach remote busId =>
        Function.update table port (some { byAgent := true, reported, remote, busId })
    | .detach p => Function.update table p none
    | .readPorts | .readDevices | .other => table
  else table

/-- What the run says about the agent. -/
structure Notes where
  /-- The port table the request has read last. -/
  ports : List AttachedUsbPort := []
  /-- The port of the attachment the request has made. -/
  fresh : Option Text := none
  /-- The ports of the successful attaches, less those of the successful detaches. -/
  created : PortSet := ∅
  /-- The ports of the detaches of the request that have failed. -/
  failed : PortSet := ∅

/-- What is noted of an answer. -/
def Notes.answered (notes : Notes) (d : Deed) (output : Except Text Output) (port : Text) : Notes :=
  match d, succeeded output with
  | .readPorts, _ => { notes with ports := unwrapOrDefault (readPortTable output) }
  | .attach _ _, true =>
      { notes with fresh := some port, created := insert port notes.created }
  | .detach p, true => { notes with created := notes.created.erase p }
  | .detach p, false => { notes with failed := insert p notes.failed }
  | .attach _ _, false | .readDevices, _ | .other, _ => notes

/-! ## The loop of `run_background_agent` -/

/-- Where the agent is. -/
inductive Stage where
  /-- A request is being answered. -/
  | responding (request : Except Text ControlRequest) (m : Command Answered)
  /-- The status file is being written: once at the start, and after every response. -/
  | reporting (managedPorts : PortSet) (stop : Bool) (m : Command Text)
  /-- About to `accept`. -/
  | waiting (managedPorts : PortSet)
  | stopped

/-- The ports of the machine, the agent, and what has been noted of the run. -/
structure World where
  table : PortTable := fun _ => none
  notes : Notes := {}
  stage : Stage
  statusFile : Text := []
  /-- A port was detached that was not the agent's to detach. -/
  stray : Bool := false

/-- What happens next: a request arrives, a call is answered, something is written, or somebody else
    changes a port. -/
inductive Action where
  | request (request : Except Text ControlRequest)
  /-- The next call of the agent is answered. -/
  | answer (reply : (c : Call) → c.Answer) (unreported : Bool) (port : Text)
  /-- The response, or the status file, is written. -/
  | write
  /-- `accept` fails for good. -/
  | acceptFails
  | othersAttach (port remote busId : Text)
  | othersDetach (port : Text)

/-- The bus id of the attachment of the agent to its remote that occupies the port. -/
def PortTable.own (endpoint : ClientEndpoint) (table : PortTable) (port : Text) : Option Text :=
  match table port with
  | some a => if a.byAgent && a.remote = endpoint.remote then some a.busId else none
  | none => none

/-- The port may be detached: it is the agent's own, and in a `TOGGLE` that of the bus id. -/
def MayDetach (request : Except Text ControlRequest) (own : Text → Option Text) (port : Text) :
    Prop :=
  match request with
  | .ok (.toggle busId) => own port = some busId
  | _ => own port ≠ none

instance (request : Except Text ControlRequest) (own : Text → Option Text) (port : Text) :
    Decidable (MayDetach request own port) :=
  match request with
  | .ok (.toggle _) => inferInstanceAs (Decidable (_ = _))
  | .ok .status | .ok .shutdown | .error _ => inferInstanceAs (Decidable (_ ≠ _))

/-- What a call of the agent and its answer do to the world. The kernel takes no port that is
    occupied. -/
def World.answered (s : World) (endpoint : ClientEndpoint) (request : Except Text ControlRequest)
    (d : Deed) (output : Except Text Output) (unreported : Bool) (port : Text) (stage : Stage) :
    Option World :=
  let next : World :=
    { s with
      table := s.table.answered d (succeeded output) unreported port
      notes := s.notes.answered d output port
      stage }
  match d with
  | .attach _ _ =>
      if (succeeded output || unreported) && (s.table port).isSome then none else some next
  | .detach p =>
      if MayDetach request (s.table.own endpoint) p then some next
      else some { next with stray := true }
  | .readPorts | .readDevices | .other => some next

/-- The agent makes its calls one after another; others change the ports whenever they like. -/
def step (endpoint : ClientEndpoint) (s : World) : Action → Option World
  | .request request =>
      match s.stage with
      | .waiting managedPorts =>
          some
            { s with
              stage := .responding request (respond endpoint managedPorts request)
              notes := { s.notes with fresh := none, failed := ∅ } }
      | _ => none
  | .answer reply unreported port =>
      match s.stage with
      | .responding request (.call c k) =>
          s.answered endpoint request (deed c) (outputOf c (reply c)) unreported port
            (.responding request (k (reply c)))
      | .reporting managedPorts stop (.call c k) =>
          s.answered endpoint (.ok .status) (deed c) (outputOf c (reply c)) unreported port
            (.reporting managedPorts stop (k (reply c)))
      | _ => none
  | .write =>
      match s.stage with
      | .responding _ (.ret answered) =>
          some
            { s with
              stage := .reporting answered.managedPorts answered.stop (writeSnapshot endpoint) }
      | .reporting managedPorts stop (.ret body) =>
          some
            { s with
              statusFile := body
              stage := if stop then .stopped else .waiting managedPorts }
      | _ => none
  | .acceptFails =>
      match s.stage with
      | .waiting _ => some { s with stage := .stopped }
      | _ => none
  | .othersAttach port remote busId =>
      if s.table port = none then
        some
          { s with
            table := Function.update s.table port
              (some { byAgent := false, reported := true, remote, busId }) }
      else none
  | .othersDetach port => some { s with table := Function.update s.table port none }

/-- The agent begins, with nothing of its own attached, and whatever the others have attached. -/
def init (endpoint : ClientEndpoint) (left : Text → Option (Text × Text)) : World where
  table := fun port => (left port).map fun (remote, busId) =>
    { byAgent := false, reported := true, remote, busId }
  stage := .reporting ∅ false (writeSnapshot endpoint)

/-! ## Calls of the agent -/

@[simp] theorem deed_portCall : deed portCall = .readPorts := rfl

@[simp] theorem deed_listCall (remote : Text) (tcpPort : UInt16) :
    deed (listCall remote tcpPort) = .readDevices := rfl

@[simp] theorem deed_attachCall (remote : Text) (tcpPort : UInt16) (busId : Text) :
    deed (attachCall remote tcpPort busId) = .attach remote busId := rfl

@[simp] theorem deed_detachCall (port : Text) : deed (detachCall port) = .detach port := rfl

variable {endpoint : ClientEndpoint} {s s' : World} {request : Except Text ControlRequest} {d : Deed}
  {output : Except Text Output} {unreported : Bool} {port : Text} {stage : Stage}

/-- What a call and its answer do, whether or not the call was allowed. -/
theorem answered_eq (h : s.answered endpoint request d output unreported port stage = some s') :
    s'.table = s.table.answered d (succeeded output) unreported port ∧
      s'.notes = s.notes.answered d output port ∧ s'.stage = stage := by
  unfold World.answered at h
  cases d with
  | attach remote busId =>
    dsimp only at h
    split at h
    · cases h
    · exact Option.some.inj h ▸ ⟨rfl, rfl, rfl⟩
  | detach p =>
    dsimp only at h
    split at h
    · exact Option.some.inj h ▸ ⟨rfl, rfl, rfl⟩
    · exact Option.some.inj h ▸ ⟨rfl, rfl, rfl⟩
  | readPorts | readDevices | other => exact Option.some.inj h ▸ ⟨rfl, rfl, rfl⟩

/-! ## What each action can do -/

theorem request_cases {r : Except Text ControlRequest}
    (hs : step endpoint s (.request r) = some s') :
    ∃ managedPorts, s.stage = .waiting managedPorts ∧
      s' = { s with
        stage := .responding r (respond endpoint managedPorts r)
        notes := { s.notes with fresh := none, failed := ∅ } } := by
  cases hstage : s.stage with
  | waiting managedPorts =>
    simp only [step, hstage] at hs
    exact ⟨managedPorts, rfl, (Option.some.inj hs).symm⟩
  | _ => simp [step, hstage] at hs

theorem answer_cases {reply : (c : Call) → c.Answer}
    (hs : step endpoint s (.answer reply unreported port) = some s') :
    (∃ r c k, s.stage = .responding r (.call c k) ∧
        s.answered endpoint r (deed c) (outputOf c (reply c)) unreported port
          (.responding r (k (reply c))) = some s') ∨
      ∃ managedPorts stop c k, s.stage = .reporting managedPorts stop (.call c k) ∧
        s.answered endpoint (.ok .status) (deed c) (outputOf c (reply c)) unreported port
          (.reporting managedPorts stop (k (reply c))) = some s' := by
  cases hstage : s.stage with
  | responding r m =>
    cases m with
    | ret answered => simp [step, hstage] at hs
    | call c k =>
      simp only [step, hstage] at hs
      exact Or.inl ⟨r, c, k, rfl, hs⟩
  | reporting managedPorts stop m =>
    cases m with
    | ret body => simp [step, hstage] at hs
    | call c k =>
      simp only [step, hstage] at hs
      exact Or.inr ⟨managedPorts, stop, c, k, rfl, hs⟩
  | waiting managedPorts => simp [step, hstage] at hs
  | stopped => simp [step, hstage] at hs

theorem write_cases (hs : step endpoint s .write = some s') :
    (∃ r answered, s.stage = .responding r (.ret answered) ∧
        s' = { s with
          stage := .reporting answered.managedPorts answered.stop (writeSnapshot endpoint) }) ∨
      ∃ managedPorts stop body, s.stage = .reporting managedPorts stop (.ret body) ∧
        s' = { s with
          statusFile := body
          stage := if stop then .stopped else .waiting managedPorts } := by
  cases hstage : s.stage with
  | responding r m =>
    cases m with
    | call c k => simp [step, hstage] at hs
    | ret answered =>
      simp only [step, hstage] at hs
      exact Or.inl ⟨r, answered, rfl, (Option.some.inj hs).symm⟩
  | reporting managedPorts stop m =>
    cases m with
    | call c k => simp [step, hstage] at hs
    | ret body =>
      simp only [step, hstage] at hs
      exact Or.inr ⟨managedPorts, stop, body, rfl, (Option.some.inj hs).symm⟩
  | waiting managedPorts => simp [step, hstage] at hs
  | stopped => simp [step, hstage] at hs

theorem acceptFails_cases (hs : step endpoint s .acceptFails = some s') :
    s' = { s with stage := .stopped } := by
  cases hstage : s.stage with
  | waiting managedPorts =>
    simp only [step, hstage] at hs
    exact (Option.some.inj hs).symm
  | _ => simp [step, hstage] at hs

theorem othersAttach_cases {remote busId : Text}
    (hs : step endpoint s (.othersAttach port remote busId) = some s') :
    s.table port = none ∧
      s' = { s with
        table := Function.update s.table port
          (some { byAgent := false, reported := true, remote, busId }) } := by
  simp only [step] at hs
  split at hs
  · next hfree => exact ⟨hfree, (Option.some.inj hs).symm⟩
  · cases hs

/-! ## What the agent makes of the answers -/

theorem readDetach_of_succeeded (h : succeeded output = true) : readDetach port output = .ok () := by
  cases output with
  | error err => cases h
  | ok output => exact if_pos h

theorem readDetach_of_failed (port : Text) (h : succeeded output = false) :
    ∃ err, readDetach port output = .error err := by
  cases output with
  | error err => exact ⟨_, rfl⟩
  | ok output => exact ⟨_, if_neg (Bool.eq_false_iff.mp h)⟩

theorem readAttach_of_succeeded (h : succeeded output = true) : readAttach output = .ok () := by
  cases output with
  | error err => cases h
  | ok output => exact if_pos h

theorem readAttach_of_failed (h : succeeded output = false) :
    ∃ err, readAttach output = .error err := by
  cases output with
  | error err => exact ⟨_, rfl⟩
  | ok output => exact ⟨_, if_neg (Bool.eq_false_iff.mp h)⟩

/-! ## A server with two adapters of one kind -/

/-- A remote. -/
def adapterEndpoint : ClientEndpoint where
  remote := "h".toList
  tcpPort := 3240

/-- Every command is answered, and nothing else is asked for. -/
def commandsOnly (answer : Text → List Text → Except Text Output) : (c : Call) → c.Answer
  | .run program args => answer program args
  | .runInteractive _ _ => .error []
  | .readVhciStatus => .error []
  | .readOccupancy _ => .error []
  | .selectOne _ _ _ => .error []
  | .acquireSessionLock _ _ => .error []
  | .dropSessionLock _ _ => ()
  | .println _ => ()

/-- `usbip` prints these tables, and does what it is asked to do. -/
def printed (portTable deviceList : Text) : (c : Call) → c.Answer :=
  commandsOnly fun _ args =>
    .ok
      { success := true
        stdout :=
          match deedOf args with
          | .readPorts => portTable
          | .readDevices => deviceList
          | .attach _ _ | .detach _ | .other => []
        stderr := [] }

/-- Two devices of one kind. -/
def twoAdapters : Text := "1-1: A (1a86:7523)\n1-2: A (1a86:7523)".toList

/-- Nothing is attached yet. -/
def beforeAttach : (c : Call) → c.Answer := printed [] twoAdapters

/-- The first adapter is attached. -/
def afterAttach : (c : Call) → c.Answer :=
  printed "Port 00:\nA (1a86:7523)\nusbip://h/1-1".toList twoAdapters

/-- The agent starts, and attaches the first adapter. -/
def attachFirst : List Action :=
  [.answer beforeAttach false [], .answer beforeAttach false [], .write,
    .request (.ok (.toggle "1-1".toList)), .answer beforeAttach false [],
    .answer beforeAttach false [], .answer beforeAttach false "00".toList,
    .answer afterAttach false [], .answer afterAttach false [], .write,
    .answer afterAttach false [], .answer afterAttach false [], .write]

end Agent
end Lusbip
