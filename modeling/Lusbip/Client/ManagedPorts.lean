import Lusbip.Client.AgentRows

/-!
# What the agent knows of its ports

The set of managed ports is meant to be the agent's account of what it has attached: the ports of
its successful attaches, less those of its successful detaches. The detaches keep the account by
themselves. An attach does only where the agent finds its port: the table and the device list are
asked for again, each of which may fail, and of the two the port of the attach must come out as the
one in the row of the bus id.
-/

namespace Lusbip
namespace Agent

open Lib
open Lib.Program
open Lib.Transition
open Client

/-- After an attach at `fresh` the table of the ports is read, and with the devices that the server
    lists (or without, if it does not answer while something of it is attached) the table puts
    `fresh` into the row of the bus id. -/
def LearnsFresh (endpoint : ClientEndpoint) (busId : Text) (notes : Notes) (fresh : Text)
    (output : Except Text Output) : Deed → Prop
  | .readPorts => isOk (readPortTable output) = true
  | .readDevices => Unbarred fresh ∧
      ∃ devices ∈ snapshotDevices endpoint.remote notes.ports (readDeviceList output),
        ∃ port, PutFor endpoint.remote devices notes.ports busId port ∧ port.port = fresh
  | .attach _ _ | .detach _ | .other => True

/-- After an attach the tables lead `TOGGLE` to the port of the attach. -/
def Learns (endpoint : ClientEndpoint) (notes : Notes) (d : Deed) (output : Except Text Output) :
    Except Text ControlRequest → Prop
  | .ok (.toggle busId) =>
      ∀ fresh ∈ notes.fresh, LearnsFresh endpoint busId notes fresh output d
  | .ok .status | .ok .shutdown | .error _ => True

/-- The call of the agent does not lose the port of an attach. -/
def Stage.LearnsPort (endpoint : ClientEndpoint) (notes : Notes) (reply : (c : Call) → c.Answer) :
    Stage → Prop
  | .responding request (.call c _) =>
      Learns endpoint notes (deed c) (outputOf c (reply c)) request
  | .responding _ (.ret _) | .reporting _ _ _ | .waiting _ | .stopped => True

def LearnsPort (endpoint : ClientEndpoint) (s : World) : Action → Prop
  | .answer reply _ _ => s.stage.LearnsPort endpoint s.notes reply
  | .request _ | .write | .acceptFails | .othersAttach _ _ _ | .othersDetach _ => True

/-! ## The account -/

/-- The managed ports, once a request is answered. -/
def Stage.managedPorts : Stage → Option PortSet
  | .responding _ (.ret answered) => some answered.managedPorts
  | .reporting managedPorts _ _ => some managedPorts
  | .waiting managedPorts => some managedPorts
  | .responding _ (.call _ _) | .stopped => none

/-- The agent has made the attachment, and knows that it has. -/
def Attachment.Acknowledged (a : Attachment) : Prop := a.byAgent = true ∧ a.reported = true

/-- After every request the managed ports are those the agent has attached and not detached; a
    `SHUTDOWN` that fails keeps those whose detach has failed, and one that does not leaves none of
    the agent's attachments. -/
structure Accounted (s : World) : Prop where
  exact : ∀ managedPorts ∈ s.stage.managedPorts, managedPorts = s.notes.created
  failed : ∀ answered, s.stage = .responding (.ok .shutdown) (.ret answered) →
    answered.managedPorts = s.notes.failed
  gone : ∀ request answered, s.stage = .responding request (.ret answered) →
    answered.stop = true → ∀ port, ∀ a ∈ s.table port, ¬ a.Acknowledged

/-- Every acknowledged attachment is on the books. -/
def Booked (table : PortTable) (notes : Notes) : Prop :=
  ∀ port, ∀ a ∈ table port, a.Acknowledged → port ∈ notes.created

variable {endpoint : ClientEndpoint} {request : Except Text ControlRequest} {table : PortTable}
  {notes : Notes} {busId port : Text} {managedPorts : PortSet}

/-- A change of one port keeps the books, if it is entered. -/
theorem Booked.update {a : Option Attachment} {notes' : Notes} (h : Booked table notes)
    (hothers : ∀ p, p ≠ port → p ∈ notes.created → p ∈ notes'.created)
    (hport : ∀ b ∈ a, b.Acknowledged → port ∈ notes'.created) :
    Booked (Function.update table port a) notes' := by
  intro p b hb hack
  by_cases hp : p = port
  · subst hp
    rw [Function.update_self] at hb
    exact hport b hb hack
  · rw [Function.update_of_ne hp] at hb
    exact hothers p hp (h p b hb hack)

theorem Booked.answered (h : Booked table notes) (d : Deed) (output : Except Text Output)
    (unreported : Bool) :
    Booked (table.answered d (succeeded output) unreported port)
      (notes.answered d output port) := by
  cases d with
  | attach remote busId =>
    unfold PortTable.answered Notes.answered
    cases hsucceeded : succeeded output with
    | true =>
      exact h.update (fun p _ hp => Finset.mem_insert_of_mem hp)
        fun b _ _ => Finset.mem_insert_self port _
    | false =>
      cases unreported with
      | false => exact h
      | true =>
        refine h.update (fun p _ hp => hp) fun b hb hack => ?_
        obtain rfl := Option.some.inj hb
        exact nomatch hack.2
  | detach p =>
    unfold PortTable.answered Notes.answered
    cases hsucceeded : succeeded output with
    | true => exact h.update (fun q hq hmem => Finset.mem_erase.mpr ⟨hq, hmem⟩) nofun
    | false =>
      cases unreported with
      | false => exact h
      | true => exact h.update (fun q _ hmem => hmem) nofun
  | readPorts | readDevices | other =>
    unfold PortTable.answered Notes.answered
    rw [ite_self]
    exact h

/-! ## What a request may meet -/

/-- What the answer to a call may do. -/
def MayLearn (endpoint : ClientEndpoint) (request : Except Text ControlRequest) (c : Call)
    (r : c.Answer) (notes notes' : Notes) : Prop :=
  ∃ port, Learns endpoint notes (deed c) (outputOf c r) request ∧
    notes' = notes.answered (deed c) (outputOf c r) port

/-- The contract of a program of the agent. -/
abbrev Accounts {α : Type} (endpoint : ClientEndpoint) (request : Except Text ControlRequest)
    (goal : α → Notes → Prop) (m : Command α) (notes : Notes) : Prop :=
  Meets (MayLearn endpoint request) (fun _ _ => True) goal m notes

variable {α : Type} {goal : α → Notes → Prop}

/-- One call of `usbip`. -/
theorem accounts_ask {β : Type} {program : Text} {args : List Text} {d : Deed}
    {read : Except Text Output → β} {f : β → Command α} (hd : deed (.run program args) = d)
    (h : ∀ output fresh, Learns endpoint notes d output request →
      Accounts endpoint request goal (f (read output)) (notes.answered d output fresh)) :
    Accounts endpoint request goal ((ask (.run program args) read).bind f) notes := by
  subst hd
  refine ⟨trivial, ?_⟩
  rintro output notes' ⟨fresh, hlearns, rfl⟩
  exact h output fresh hlearns

theorem accounts_queryAttachedPorts {f : Except Text (List AttachedUsbPort) → Command α}
    (hok : ∀ ports, Accounts endpoint request goal (f (.ok ports)) { notes with ports })
    (herr : ∀ err output ports, Learns endpoint notes .readPorts output request →
      readPortTable output = .error err →
        Accounts endpoint request goal (f (.error err)) { notes with ports }) :
    Accounts endpoint request goal (queryAttachedPorts.bind f) notes := by
  refine accounts_ask deed_portCall fun output fresh hlearns => ?_
  rw [Notes.answered]
  cases hports : readPortTable output with
  | ok ports => exact hok ports
  | error err => exact herr err output _ hlearns hports

theorem accounts_queryRemoteDevices {f : Except Text (List RemoteUsbDevice) → Command α}
    (h : ∀ output, Learns endpoint notes .readDevices output request →
      Accounts endpoint request goal (f (readDeviceList output)) notes) :
    Accounts endpoint request goal
      ((queryRemoteDevices endpoint.remote endpoint.tcpPort).bind f) notes := by
  refine accounts_ask (deed_listCall _ _) fun output fresh hlearns => ?_
  rw [Notes.answered]
  exact h output hlearns

/-- A snapshot whose result does not matter. -/
theorem accounts_snapshot {f : Except Text (List TuiItem) → Command α}
    (h : ∀ items ports, Accounts endpoint request goal (f items) { notes with ports }) :
    Accounts endpoint request goal ((snapshot endpoint).bind f) notes := by
  refine Meets.bind (accounts_queryAttachedPorts (fun ports => ?_) fun err _ ports _ _ => ?_)
  · exact accounts_queryRemoteDevices fun output _ => h _ ports
  · exact h _ ports

theorem accounts_detachPort {f : Except Text Unit → Command α}
    (hok : Accounts endpoint request goal (f (.ok ()))
      { notes with created := notes.created.erase port })
    (herr : ∀ err, Accounts endpoint request goal (f (.error err))
      { notes with failed := insert port notes.failed }) :
    Accounts endpoint request goal ((detachPort port).bind f) notes := by
  refine accounts_ask (deed_detachCall port) fun output fresh _ => ?_
  cases hsucceeded : succeeded output with
  | true =>
    simp only [readDetach_of_succeeded hsucceeded, Notes.answered, hsucceeded]
    exact hok
  | false =>
    obtain ⟨err, herror⟩ := readDetach_of_failed port hsucceeded
    simp only [herror, Notes.answered, hsucceeded]
    exact herr err

/-! ## The requests -/

/-- The port of a `TOGGLE` leaves the account with its attachment. -/
theorem accounts_detachManaged (h : managedPorts = notes.created) :
    Accounts endpoint request (fun a n => a.2 = n.created) (detachManaged managedPorts port)
      notes := by
  unfold detachManaged
  split
  · exact h
  · refine accounts_detachPort ?_ fun err => ?_
    · exact congrArg (Finset.erase · port) h
    · exact h

/-- The port of an attach enters the account, where it is found. -/
theorem accounts_attachAndLearn (h : managedPorts = notes.created) :
    Accounts endpoint (.ok (.toggle busId)) (fun a n => a.2 = n.created)
      (attachAndLearn endpoint managedPorts busId) notes := by
  refine accounts_ask (deed_attachCall _ _ _) fun output fresh _ => ?_
  cases hsucceeded : succeeded output with
  | false =>
    obtain ⟨err, herror⟩ := readAttach_of_failed hsucceeded
    simp only [herror, Notes.answered, hsucceeded]
    exact h
  | true =>
    simp only [readAttach_of_succeeded hsucceeded, Notes.answered, hsucceeded]
    -- Neither query fails, and the tables put the fresh port into the row.
    refine Meets.bind (Meets.bind (accounts_queryAttachedPorts (fun ports => ?_) ?_))
    · refine accounts_queryRemoteDevices fun output' hlearns => ?_
      obtain ⟨hbar, devices, hdevices, port, hput, rfl⟩ := hlearns fresh rfl
      have hitems : snapshotOf endpoint ports (readDeviceList output')
          = .ok (rowItems endpoint devices ports) :=
        snapshotOf_eq_ok_iff.mpr ⟨devices, hdevices, rfl⟩
      have hfound : learnedPort busId (rowItems endpoint devices ports) = some port.port :=
        learnedPort_of_putFor hput hbar
      simp only [meets_ret, hitems, learn, hfound]
      exact congrArg (insert port.port) h
    · intro err output' ports hlearns herror
      have hok := hlearns fresh rfl
      simp only [LearnsFresh, herror] at hok
      cases hok

theorem accounts_toggle (h : managedPorts = notes.created) :
    Accounts endpoint (.ok (.toggle busId)) (fun a n => a.2 = n.created)
      (toggle endpoint managedPorts busId) notes := by
  refine accounts_queryAttachedPorts (fun ports => ?_) fun err _ ports _ _ => h
  cases hmatching : matchingPort endpoint busId ports with
  | some port =>
    simp only [hmatching]
    exact accounts_detachManaged h
  | none =>
    simp only [hmatching]
    refine accounts_queryRemoteDevices fun output _ => ?_
    cases readDeviceList output with
    | error err => exact h
    | ok devices =>
      cases hrow : selectedRow endpoint busId devices ports with
      | none =>
        simp only [hrow]
        exact h
      | some selected =>
        simp only [hrow, toggleRow]
        cases selected.attachedPort with
        | some port => exact accounts_detachManaged h
        | none =>
          cases selected.occupiedBy with
          | some client => exact h
          | none => exact accounts_attachAndLearn h

/-- What a `SHUTDOWN` leaves: the ports whose detach has failed. -/
structure ShutDown (managedPorts : PortSet) (complete : Prop) (notes : Notes) : Prop where
  exact : managedPorts = notes.created
  failed : managedPorts = notes.failed
  gone : complete → notes.failed = ∅

/-- The loop of `shutdown`: a managed port has failed, or is left to be detached. -/
theorem accounts_shutdownEach {ports : List Text} (hnodup : ports.Nodup) :
    ∀ {managedPorts notes failures}, managedPorts = notes.created →
      (∀ port, port ∈ managedPorts ↔ port ∈ notes.failed ∨ port ∈ ports) →
      (∀ port ∈ ports, port ∉ notes.failed) → (failures = [] → notes.failed = ∅) →
        Accounts endpoint (.ok .shutdown) (fun a n => ShutDown a.1 (a.2 = []) n)
          (shutdownEach managedPorts failures ports) notes := by
  induction ports with
  | nil =>
    intro managedPorts notes failures h hmem _ hgone
    refine ⟨h, Finset.ext fun port => ?_, hgone⟩
    rw [hmem port, or_iff_left List.not_mem_nil]
  | cons port ports ih =>
    intro managedPorts notes failures h hmem hleft hgone
    obtain ⟨hnotMem, hnodup⟩ := List.nodup_cons.mp hnodup
    have hnotFailed : port ∉ notes.failed := hleft port List.mem_cons_self
    refine accounts_detachPort ?_ fun err => ?_
    · -- The detach succeeds: the port leaves the account, and those that have failed stay.
      refine ih hnodup (congrArg (Finset.erase · port) h) (fun p => ?_)
        (fun p hp => hleft p (List.mem_cons_of_mem port hp)) hgone
      rw [Finset.mem_erase, hmem p, List.mem_cons]
      constructor
      · rintro ⟨hne, hp | rfl | hp⟩
        · exact Or.inl hp
        · exact absurd rfl hne
        · exact Or.inr hp
      · rintro (hp | hp)
        · exact ⟨fun heq => hnotFailed (heq ▸ hp), Or.inl hp⟩
        · exact ⟨fun heq => hnotMem (heq ▸ hp), Or.inr (Or.inr hp)⟩
    · -- It fails: the port stays in the account, among those that have failed.
      refine ih hnodup h (fun p => ?_) (fun p hp => ?_) fun hnil => ?_
      · rw [hmem p, List.mem_cons, Finset.mem_insert]
        tauto
      · rw [Finset.mem_insert, not_or]
        exact ⟨fun heq => hnotMem (heq ▸ hp), hleft p (List.mem_cons_of_mem port hp)⟩
      · exact absurd hnil (List.append_ne_nil_of_right_ne_nil _ (List.cons_ne_nil _ _))

theorem accounts_shutdown (h : managedPorts = notes.created) (hfailed : notes.failed = ∅) :
    Accounts endpoint (.ok .shutdown) (fun a n => ShutDown a.2 (isOk a.1 = true) n)
      (shutdown managedPorts) notes := by
  have hmem : ∀ port, port ∈ managedPorts ↔ port ∈ notes.failed ∨ port ∈ managedPorts.sort := by
    intro port
    rw [hfailed, Finset.mem_sort, or_iff_right (Finset.notMem_empty port)]
  have hleft : ∀ port ∈ managedPorts.sort, port ∉ notes.failed :=
    fun port _ => hfailed.symm ▸ Finset.notMem_empty port
  refine Meets.bind ((accounts_shutdownEach (Finset.sort_nodup _ _) h hmem hleft
    fun _ => hfailed).imp ?_)
  rintro ⟨managedPorts', failures⟩ notes' hdown
  dsimp only at hdown ⊢
  split
  · next hnil => exact ⟨hdown.exact, hdown.failed, fun _ => hdown.gone hnil⟩
  · exact ⟨hdown.exact, hdown.failed, nofun⟩

/-- The account is right when a request is answered. -/
structure Settled (request : Except Text ControlRequest) (answered : Answered) (notes : Notes) :
    Prop where
  exact : answered.managedPorts = notes.created
  failed : request = .ok .shutdown → answered.managedPorts = notes.failed
  gone : answered.stop = true → notes.created = ∅

/-- **A request keeps the account**, where an attach finds its port. -/
theorem accounts_respond (h : managedPorts = notes.created) (hfailed : notes.failed = ∅) :
    Accounts endpoint request (Settled request) (respond endpoint managedPorts request) notes := by
  match request with
  | .error err => exact ⟨h, nofun, nofun⟩
  | .ok .status =>
    refine accounts_snapshot fun items ports => ?_
    cases items with
    | ok items => exact ⟨h, nofun, nofun⟩
    | error err => exact ⟨h, nofun, nofun⟩
  | .ok (.toggle busId) =>
    exact Meets.bind ((accounts_toggle h).imp fun _ _ h => ⟨h, nofun, nofun⟩)
  | .ok .shutdown =>
    refine Meets.bind ((accounts_shutdown h hfailed).imp ?_)
    rintro ⟨result, managedPorts'⟩ notes' hdown
    cases result with
    | ok u =>
      refine ⟨hdown.exact, fun _ => hdown.failed, fun _ => ?_⟩
      exact hdown.exact.symm.trans (hdown.failed.trans (hdown.gone rfl))
    | error err => exact ⟨hdown.exact, fun _ => hdown.failed, nofun⟩

/-! ## Whole runs -/

/-- A call that reads a table. -/
def Looks (c : Call) : Prop := deed c = .readPorts ∨ deed c = .readDevices

/-- What the agent is about to do keeps the account. -/
def Stage.Accounts (endpoint : ClientEndpoint) (notes : Notes) : Stage → Prop
  | .responding request m => Agent.Accounts endpoint request (Settled request) m notes
  | .reporting managedPorts _ m => managedPorts = notes.created ∧ m.Calls Looks
  | .waiting managedPorts => managedPorts = notes.created
  | .stopped => True

/-- The account is kept, and the table is on it. -/
structure Kept (endpoint : ClientEndpoint) (s : World) : Prop where
  booked : Booked s.table s.notes
  stage : s.stage.Accounts endpoint s.notes

variable {s s' : World}

theorem created_answered_of_looks {c : Call} {output : Except Text Output} (h : Looks c) :
    (notes.answered (deed c) output port).created = notes.created := by
  rcases h with hd | hd
  · rw [hd, Notes.answered]
  · rw [hd, Notes.answered]

theorem looks_writeSnapshot : (writeSnapshot endpoint).Calls Looks := by
  refine Calls.bind (Calls.andThen ⟨Or.inl rfl, fun _ => trivial⟩ fun ports => ?_) fun _ => trivial
  exact Calls.bind ⟨Or.inr rfl, fun _ => trivial⟩ fun _ => trivial

theorem Kept.step_answer {reply : (c : Call) → c.Answer} {unreported : Bool}
    (h : Kept endpoint s) (hp : LearnsPort endpoint s (.answer reply unreported port))
    (hs : step endpoint s (.answer reply unreported port) = some s') : Kept endpoint s' := by
  have hstage := h.stage
  rcases answer_cases hs with ⟨r, c, k, heq, hs⟩ | ⟨managedPorts, stop, c, k, heq, hs⟩
  · simp only [LearnsPort, heq] at hp
    rw [heq] at hstage
    obtain ⟨htable, hnotes, hnext⟩ := answered_eq hs
    refine ⟨htable ▸ hnotes ▸ h.booked.answered _ _ _, ?_⟩
    rw [hnext, hnotes]
    exact hstage.2 (reply c) _ ⟨port, hp, rfl⟩
  · rw [heq] at hstage
    obtain ⟨htable, hnotes, hnext⟩ := answered_eq hs
    refine ⟨htable ▸ hnotes ▸ h.booked.answered _ _ _, ?_⟩
    -- The status page only looks, so it touches no account.
    obtain ⟨hexact, hlooks⟩ := hstage
    rw [hnext, hnotes]
    exact ⟨hexact.trans (created_answered_of_looks hlooks.1).symm, hlooks.2 (reply c)⟩

theorem Kept.step_write (h : Kept endpoint s) (hs : step endpoint s .write = some s') :
    Kept endpoint s' := by
  have hstage := h.stage
  rcases write_cases hs with ⟨r, answered, heq, rfl⟩ | ⟨managedPorts, stop, body, heq, rfl⟩
  · rw [heq] at hstage
    have hsettled : Settled r answered s.notes := hstage
    exact ⟨h.booked, hsettled.exact, looks_writeSnapshot⟩
  · rw [heq] at hstage
    refine ⟨h.booked, ?_⟩
    cases stop with
    | true => trivial
    | false => exact hstage.1

theorem Kept.step (s : World) (a : Action) (s' : World) (h : Kept endpoint s)
    (hp : LearnsPort endpoint s a) (hs : step endpoint s a = some s') : Kept endpoint s' := by
  cases a with
  | request request =>
    obtain ⟨managedPorts, heq, rfl⟩ := request_cases hs
    have hexact : managedPorts = s.notes.created := by
      have hstage := h.stage
      rwa [heq] at hstage
    exact ⟨h.booked, accounts_respond hexact rfl⟩
  | answer reply unreported port => exact h.step_answer hp hs
  | write => exact h.step_write hs
  | acceptFails =>
    obtain rfl := acceptFails_cases hs
    exact ⟨h.booked, trivial⟩
  | othersAttach port remote busId =>
    obtain ⟨-, rfl⟩ := othersAttach_cases hs
    refine ⟨h.booked.update (fun p _ hp => hp) fun b hb hack => ?_, h.stage⟩
    obtain rfl := Option.some.inj hb
    exact nomatch hack.1
  | othersDetach port =>
    obtain rfl := Option.some.inj hs
    exact ⟨h.booked.update (fun p _ hp => hp) nofun, h.stage⟩

theorem kept_init (left : Text → Option (Text × Text)) : Kept endpoint (init endpoint left) := by
  refine ⟨fun port a ha hack => ?_, rfl, looks_writeSnapshot⟩
  obtain ⟨found, -, rfl⟩ := Option.map_eq_some_iff.mp ha
  exact nomatch hack.1

theorem Kept.accounted (s : World) (h : Kept endpoint s) : Accounted s where
  exact managedPorts hmem := by
    have hstage := h.stage
    cases hstageEq : s.stage with
    | responding request m =>
      rw [hstageEq] at hstage hmem
      cases m with
      | call c k => cases hmem
      | ret answered =>
        have hsettled : Settled request answered s.notes := hstage
        exact Option.some.inj hmem ▸ hsettled.exact
    | reporting managedPorts' stop m =>
      rw [hstageEq] at hstage hmem
      exact Option.some.inj hmem ▸ hstage.1
    | waiting managedPorts' =>
      rw [hstageEq] at hstage hmem
      exact Option.some.inj hmem ▸ hstage
    | stopped =>
      rw [hstageEq] at hmem
      cases hmem
  failed answered heq := by
    have hstage := h.stage
    rw [heq] at hstage
    exact hstage.failed rfl
  gone request answered heq hstop port a ha hack := by
    have hstage := h.stage
    rw [heq] at hstage
    have hempty : s.notes.created = ∅ := hstage.gone hstop
    exact Finset.notMem_empty port (hempty ▸ h.booked port a ha hack)

/-- **The managed ports are the agent's account of its attachments, in every run in which no attach
    is followed by a failure to find its port.** -/
theorem accounts_for_ports (endpoint : ClientEndpoint) (left : Text → Option (Text × Text))
    (as : List Action) (h : Along (step endpoint) (LearnsPort endpoint) (init endpoint left) as) :
    Throughout (step endpoint) Accounted (init endpoint left) as :=
  throughout_of_along Kept.step Kept.accounted (kept_init left) h

/-! ## A query that times out -/

instance (endpoint : ClientEndpoint) (busId : Text) (notes : Notes) (fresh : Text)
    (output : Except Text Output) :
    (d : Deed) → Decidable (LearnsFresh endpoint busId notes fresh output d)
  | .readPorts => inferInstanceAs (Decidable (_ = _))
  | .readDevices => inferInstanceAs (Decidable (_ ∧ ∃ devices ∈ snapshotDevices _ _ _, _))
  | .attach _ _ | .detach _ | .other => instDecidableTrue

instance (endpoint : ClientEndpoint) (notes : Notes) (d : Deed) (output : Except Text Output) :
    (request : Except Text ControlRequest) → Decidable (Learns endpoint notes d output request)
  | .ok (.toggle _) => inferInstanceAs (Decidable (∀ fresh ∈ notes.fresh, _))
  | .ok .status | .ok .shutdown | .error _ => instDecidableTrue

instance (endpoint : ClientEndpoint) (notes : Notes) (reply : (c : Call) → c.Answer) :
    (stage : Stage) → Decidable (stage.LearnsPort endpoint notes reply)
  | .responding _ (.call _ _) => inferInstanceAs (Decidable (Learns _ _ _ _ _))
  | .responding _ (.ret _) | .reporting _ _ _ | .waiting _ | .stopped => instDecidableTrue

instance (endpoint : ClientEndpoint) (s : World) : (a : Action) → Decidable (LearnsPort endpoint s a)
  | .answer _ _ _ => inferInstanceAs (Decidable (Stage.LearnsPort _ _ _ _))
  | .request _ | .write | .acceptFails | .othersAttach _ _ _ | .othersDetach _ => instDecidableTrue

/-- No command answers in time. -/
def timedOut : (c : Call) → c.Answer :=
  commandsOnly fun program _ => .error (program ++ " timed out after 20 seconds".toList)

/-- The first adapter comes to port 0, and the `usbip port` that is to say so times out. -/
def attachUnseen : List Action :=
  [.answer beforeAttach false [], .answer beforeAttach false [], .write,
    .request (.ok (.toggle "1-1".toList)), .answer beforeAttach false [],
    .answer beforeAttach false [], .answer beforeAttach false "00".toList,
    .answer timedOut false []]

theorem attachUnseen_not_accounted :
    ¬ Throughout (step adapterEndpoint) Accounted (init adapterEndpoint fun _ => none)
      attachUnseen := by
  intro h
  have hrun : (run (step adapterEndpoint) (init adapterEndpoint fun _ => none) attachUnseen).map
      (fun s => (s.stage.managedPorts, s.notes.created)) = some (some ∅, {"00".toList}) := by
    decide +kernel
  obtain ⟨s, hs, hbooks⟩ := Option.map_eq_some_iff.mp hrun
  obtain ⟨hmanaged, hcreated⟩ := Prod.mk.inj hbooks
  have hexact : ∅ = s.notes.created := (h.of_run hs).exact ∅ hmanaged
  exact nomatch Finset.singleton_ne_empty _ (hcreated.symm.trans hexact.symm)

theorem attachFirst_accounted :
    Throughout (step adapterEndpoint) Accounted (init adapterEndpoint fun _ => none) attachFirst :=
  accounts_for_ports adapterEndpoint (fun _ => none) attachFirst (by decide +kernel)

end Agent
end Lusbip
