import Lusbip.Client.AgentRows

/-!
# What the agent detaches

The agent means to detach nothing but its own attachments, and in a `TOGGLE` nothing but that of the
bus id. All it has to go by are port numbers: those it remembers, and those it reads off the tables.
A number it remembers is right as long as nobody else detaches the attachment behind it, for the
kernel gives the port to somebody else then. A number it reads is right where the tables put a port
of the bus id into its row, and a port that is put there for its VID:PID need not be one.
-/

namespace Lusbip
namespace Agent

open Lib
open Lib.Program
open Lib.Transition
open Client

/-- The bus ids of the ports that the agent's attachments occupy. -/
abbrev Owned := Text → Option Text

/-- The port is not the agent's for another bus id. -/
def Owned.Fits (own : Owned) (busId port : Text) : Prop := own port = none ∨ own port = some busId

/-- The tables do not mislead a `TOGGLE`. Before an attach: the first port that is listed for the bus
    id, and the port that the tables put into its row, are not ports that the agent has attached for
    another bus id. After it: what the tables put into the row is a port of the agent, under a
    number that can be read back. -/
def ReadsFor (endpoint : ClientEndpoint) (busId : Text) (own : Owned) (notes : Notes)
    (output : Except Text Output) : Deed → Prop
  | .readPorts => notes.fresh = none →
      ∀ ports, readPortTable output = .ok ports →
        ∀ port, IsFirst ports (AttachedFor endpoint.remote busId) port → own.Fits busId port.port
  | .readDevices =>
      (notes.fresh = none →
        ∀ devices, readDeviceList output = .ok devices →
          ∀ port, PutFor endpoint.remote devices notes.ports busId port →
            own.Fits busId port.port) ∧
      (notes.fresh ≠ none →
        ∀ devices ∈ snapshotDevices endpoint.remote notes.ports (readDeviceList output),
          ∀ port, PutFor endpoint.remote devices notes.ports busId port →
            own port.port ≠ none ∧ Unbarred port.port)
  | .attach _ _ | .detach _ | .other => True

def Reads (endpoint : ClientEndpoint) (own : Owned) (notes : Notes) (d : Deed)
    (output : Except Text Output) : Except Text ControlRequest → Prop
  | .ok (.toggle busId) => ReadsFor endpoint busId own notes output d
  | .ok .status | .ok .shutdown | .error _ => True

/-- A detach that reports a failure has not detached. -/
def Honest (output : Except Text Output) (unreported : Bool) : Deed → Prop
  | .detach _ => unreported = true → succeeded output = true
  | .attach _ _ | .readPorts | .readDevices | .other => True

/-- The call of the agent finds no detach that took effect unsaid, and no table that misleads it. -/
def Stage.Undisturbed (endpoint : ClientEndpoint) (own : Owned) (notes : Notes)
    (reply : (c : Call) → c.Answer) (unreported : Bool) : Stage → Prop
  | .responding request (.call c _) =>
      Honest (outputOf c (reply c)) unreported (deed c) ∧
        Reads endpoint own notes (deed c) (outputOf c (reply c)) request
  | .reporting _ _ (.call c _) => Honest (outputOf c (reply c)) unreported (deed c)
  | .responding _ (.ret _) | .reporting _ _ (.ret _) | .waiting _ | .stopped => True

/-- Nobody else detaches a port of the agent, a failing detach leaves its port attached, and the
    tables do not mislead a `TOGGLE`. -/
def Undisturbed (endpoint : ClientEndpoint) (s : World) : Action → Prop
  | .othersDetach port => s.table.own endpoint port = none
  | .answer reply unreported _ =>
      s.stage.Undisturbed endpoint (s.table.own endpoint) s.notes reply unreported
  | .request _ | .write | .acceptFails | .othersAttach _ _ _ => True

/-! ## The agent's share of the table -/

/-- What a command does to the ports of the agent. -/
def Owned.answered (own : Owned) (endpoint : ClientEndpoint) (d : Deed) (took : Bool)
    (port : Text) : Owned :=
  if took then
    match d with
    | .attach remote busId =>
        Function.update own port (if remote = endpoint.remote then some busId else none)
    | .detach p => Function.update own p none
    | .readPorts | .readDevices | .other => own
  else own

variable {endpoint : ClientEndpoint} {table : PortTable} {own : Owned} {notes : Notes}
  {request : Except Text ControlRequest} {port busId : Text} {managedPorts : PortSet}

theorem own_update_of_ne {a : Option Attachment} {p : Text} (h : p ≠ port) :
    PortTable.own endpoint (Function.update table port a) p = table.own endpoint p := by
  rw [PortTable.own, PortTable.own, Function.update_of_ne h]

theorem own_update_none :
    PortTable.own endpoint (Function.update table port none)
      = Function.update (table.own endpoint) port none := by
  funext p
  by_cases hp : p = port
  · rw [hp, PortTable.own, Function.update_self, Function.update_self]
  · rw [own_update_of_ne hp, Function.update_of_ne hp]

theorem own_answered (d : Deed) (reported unreported : Bool) :
    (table.answered d reported unreported port).own endpoint
      = Owned.answered (table.own endpoint) endpoint d (reported || unreported) port := by
  unfold PortTable.answered Owned.answered
  split
  · cases d with
    | attach remote busId =>
      funext p
      by_cases hp : p = port
      · subst hp
        simp [PortTable.own]
      · dsimp only
        rw [own_update_of_ne hp, Function.update_of_ne hp]
    | detach p => exact own_update_none
    | readPorts | readDevices | other => rfl
  · rfl

/-- What others attach is not the agent's. -/
theorem own_othersAttach {a : Attachment} (hfree : table port = none) (ha : a.byAgent = false) :
    PortTable.own endpoint (Function.update table port (some a)) = table.own endpoint := by
  funext p
  by_cases hp : p = port
  · subst hp
    simp [PortTable.own, hfree, ha]
  · exact own_update_of_ne hp

/-! ## What a request may meet -/

/-- What the answer to a call may do. -/
def MayOwn (endpoint : ClientEndpoint) (request : Except Text ControlRequest) (c : Call)
    (r : c.Answer) (w w' : Owned × Notes) : Prop :=
  ∃ unreported port, Honest (outputOf c r) unreported (deed c) ∧
    Reads endpoint w.1 w.2 (deed c) (outputOf c r) request ∧
    w' = (w.1.answered endpoint (deed c) (succeeded (outputOf c r) || unreported) port,
      w.2.answered (deed c) (outputOf c r) port)

def NeedsOwn (request : Except Text ControlRequest) (c : Call) (w : Owned × Notes) : Prop :=
  ∀ port, deed c = .detach port → MayDetach request w.1 port

/-- The agent has an attachment at every port it manages. -/
def AllOwned (ports : PortSet) (w : Owned × Notes) : Prop := ∀ port ∈ ports, w.1 port ≠ none

/-- The contract of a program of the agent. -/
abbrev Keeps {α : Type} (endpoint : ClientEndpoint) (request : Except Text ControlRequest)
    (goal : α → Owned × Notes → Prop) (m : Command α) (w : Owned × Notes) : Prop :=
  Meets (MayOwn endpoint request) (NeedsOwn request) goal m w

variable {α : Type} {goal : α → Owned × Notes → Prop}

/-- One call of `usbip`. -/
theorem keeps_ask {β : Type} {program : Text} {args : List Text} {d : Deed}
    {read : Except Text Output → β} {f : β → Command α} (hd : deed (.run program args) = d)
    (hneed : ∀ p, d = .detach p → MayDetach request own p)
    (h : ∀ output unreported fresh, Honest output unreported d →
      Reads endpoint own notes d output request →
        Keeps endpoint request goal (f (read output))
          (own.answered endpoint d (succeeded output || unreported) fresh,
            notes.answered d output fresh)) :
    Keeps endpoint request goal ((ask (.run program args) read).bind f) (own, notes) := by
  subst hd
  refine ⟨hneed, ?_⟩
  rintro output w' ⟨unreported, fresh, hhonest, hreads, rfl⟩
  exact h output unreported fresh hhonest hreads

theorem Owned.answered_readPorts (took : Bool) :
    own.answered endpoint .readPorts took port = own := ite_self own

theorem Owned.answered_readDevices (took : Bool) :
    own.answered endpoint .readDevices took port = own := ite_self own

/-- Reading the port table. -/
theorem keeps_queryAttachedPorts {f : Except Text (List AttachedUsbPort) → Command α}
    (hok : ∀ output ports, Reads endpoint own notes .readPorts output request →
      readPortTable output = .ok ports →
        Keeps endpoint request goal (f (.ok ports)) (own, { notes with ports }))
    (herr : ∀ err ports, Keeps endpoint request goal (f (.error err)) (own, { notes with ports })) :
    Keeps endpoint request goal (queryAttachedPorts.bind f) (own, notes) := by
  refine keeps_ask deed_portCall nofun fun output unreported fresh _ hreads => ?_
  rw [Owned.answered_readPorts, Notes.answered]
  cases hports : readPortTable output with
  | ok ports => exact hok output ports hreads hports
  | error err => exact herr err _

/-- Reading the devices of the server. -/
theorem keeps_queryRemoteDevices {f : Except Text (List RemoteUsbDevice) → Command α}
    (h : ∀ output, Reads endpoint own notes .readDevices output request →
      Keeps endpoint request goal (f (readDeviceList output)) (own, notes)) :
    Keeps endpoint request goal
      ((queryRemoteDevices endpoint.remote endpoint.tcpPort).bind f) (own, notes) := by
  refine keeps_ask (deed_listCall _ _) nofun fun output unreported fresh _ hreads => ?_
  rw [Owned.answered_readDevices, Notes.answered]
  exact h output hreads

/-- A snapshot changes no port. -/
theorem keeps_snapshot {f : Except Text (List TuiItem) → Command α}
    (hok : ∀ output ports,
      Reads endpoint own { notes with ports } .readDevices output request →
        Keeps endpoint request goal (f (snapshotOf endpoint ports (readDeviceList output)))
          (own, { notes with ports }))
    (herr : ∀ err ports, Keeps endpoint request goal (f (.error err)) (own, { notes with ports })) :
    Keeps endpoint request goal ((snapshot endpoint).bind f) (own, notes) := by
  refine Meets.bind ?_
  refine keeps_queryAttachedPorts (fun output ports _ _ => ?_) fun err ports => herr err ports
  exact keeps_queryRemoteDevices fun output hreads => hok output ports hreads

/-- Detaching a port that may be detached. -/
theorem keeps_detachPort {f : Except Text Unit → Command α} (hmay : MayDetach request own port)
    (hok : ∀ notes, Keeps endpoint request goal (f (.ok ())) (Function.update own port none, notes))
    (herr : ∀ err notes, Keeps endpoint request goal (f (.error err)) (own, notes)) :
    Keeps endpoint request goal ((detachPort port).bind f) (own, notes) := by
  have hneed : ∀ p, Deed.detach port = .detach p → MayDetach request own p :=
    fun p h => Deed.detach.inj h ▸ hmay
  refine keeps_ask (deed_detachCall port) hneed fun output unreported fresh hhonest _ => ?_
  cases hsucceeded : succeeded output with
  | true =>
    rw [readDetach_of_succeeded hsucceeded]
    exact hok _
  | false =>
    obtain ⟨err, herror⟩ := readDetach_of_failed port hsucceeded
    -- A detach that reports a failure has had no effect, so the port is still the agent's.
    have hunreported : unreported = false := by
      cases unreported with
      | false => rfl
      | true => exact nomatch hsucceeded.symm.trans (hhonest rfl)
    rw [herror, hunreported]
    exact herr err _

/-! ## The requests -/

/-- A port that is detached leaves the managed ports with it. -/
theorem AllOwned.erase (h : AllOwned managedPorts (own, notes)) (notes' : Notes) :
    AllOwned (managedPorts.erase port) (Function.update own port none, notes') := by
  intro p hp
  obtain ⟨hne, hp⟩ := Finset.mem_erase.mp hp
  change Function.update own port none p ≠ none
  rw [Function.update_of_ne hne]
  exact h p hp

/-- An attach takes no port away. -/
theorem AllOwned.attach (h : AllOwned managedPorts (own, notes)) (notes' : Notes) :
    AllOwned managedPorts (Function.update own port (some busId), notes') := by
  intro p hp
  change Function.update own port (some busId) p ≠ none
  by_cases hpp : p = port
  · rw [hpp, Function.update_self]
    exact Option.some_ne_none busId
  · rw [Function.update_of_ne hpp]
    exact h p hp

theorem AllOwned.insert (h : AllOwned managedPorts (own, notes)) (hport : own port ≠ none) :
    AllOwned (insert port managedPorts) (own, notes) := by
  intro p hp
  rcases Finset.mem_insert.mp hp with rfl | hp
  · exact hport
  · exact h p hp

/-- The port of a `TOGGLE`, where it fits the bus id. -/
theorem keeps_detachManaged (hall : AllOwned managedPorts (own, notes))
    (hfits : own.Fits busId port) :
    Keeps endpoint (.ok (.toggle busId)) (fun a w => AllOwned a.2 w)
      (detachManaged managedPorts port) (own, notes) := by
  unfold detachManaged
  split
  · exact hall
  · next hmem =>
    -- A managed port is the agent's, so where it fits it is that of the bus id.
    have hown : own port = some busId := hfits.resolve_left (hall port (not_not.mp hmem))
    refine keeps_detachPort hown (fun notes' => ?_) fun err notes' => ?_
    · exact hall.erase notes'
    · exact hall

/-- What is learned after an attach is a port of the agent. -/
theorem keeps_attachAndLearn (hall : AllOwned managedPorts (own, notes)) :
    Keeps endpoint (.ok (.toggle busId)) (fun a w => AllOwned a.2 w)
      (attachAndLearn endpoint managedPorts busId) (own, notes) := by
  refine keeps_ask (deed_attachCall _ _ _) nofun fun output unreported fresh _ _ => ?_
  -- Also an attach that reports a failure may have had its effect.
  have hall' : ∀ took notes', AllOwned managedPorts
      (own.answered endpoint (.attach endpoint.remote busId) took fresh, notes') := by
    intro took notes'
    unfold Owned.answered
    split
    · dsimp only
      rw [if_pos rfl]
      exact hall.attach notes'
    · exact hall
  cases hsucceeded : succeeded output with
  | false =>
    obtain ⟨err, herror⟩ := readAttach_of_failed hsucceeded
    rw [herror]
    exact hall' _ _
  | true =>
    rw [readAttach_of_succeeded hsucceeded]
    have hnotes : (notes.answered (.attach endpoint.remote busId) output fresh).fresh
        = some fresh := by
      simp only [Notes.answered, hsucceeded]
    refine keeps_snapshot (fun output' ports hreads => ?_) fun err ports => hall' _ _
    cases hitems : snapshotOf endpoint ports (readDeviceList output') with
    | error err => exact hall' _ _
    | ok items =>
      cases hlearned : learnedPort busId items with
      | none =>
        simp only [learn, hlearned]
        exact hall' _ _
      | some port =>
        simp only [learn, hlearned]
        -- The row is read after an attach, so what it shows is one of the agent's.
        have hattached : (notes.answered (.attach endpoint.remote busId) output fresh).fresh
            ≠ none := hnotes.symm ▸ Option.some_ne_none fresh
        obtain ⟨devices, hdevices, rfl⟩ := snapshotOf_eq_ok_iff.mp hitems
        obtain ⟨shown, hput, hshown⟩ := putFor_of_learnedPort hlearned
        obtain ⟨hown, hbar⟩ := hreads.2 hattached devices hdevices shown hput
        obtain rfl := hshown hbar
        exact (hall' _ _).insert hown

theorem keeps_toggleRow {selected : RemoteUsbDeviceState}
    (hall : AllOwned managedPorts (own, notes))
    (hfits : ∀ port ∈ selected.attachedPort, own.Fits busId port) :
    Keeps endpoint (.ok (.toggle busId)) (fun a w => AllOwned a.2 w)
      (toggleRow endpoint managedPorts busId selected) (own, notes) := by
  unfold toggleRow
  cases hport : selected.attachedPort with
  | some port => exact keeps_detachManaged hall (hfits port hport)
  | none =>
    cases selected.occupiedBy with
    | some client => exact hall
    | none => exact keeps_attachAndLearn hall

theorem keeps_toggle (hall : AllOwned managedPorts (own, notes)) (hfresh : notes.fresh = none) :
    Keeps endpoint (.ok (.toggle busId)) (fun a w => AllOwned a.2 w)
      (toggle endpoint managedPorts busId) (own, notes) := by
  refine keeps_queryAttachedPorts (fun output ports hreads hports => ?_) fun err ports => hall
  cases hmatching : matchingPort endpoint busId ports with
  | some port =>
    simp only [hmatching]
    have hfirst := matchingPort_iff.mp hmatching
    exact keeps_detachManaged hall (hreads hfresh ports hports port hfirst)
  | none =>
    simp only [hmatching]
    refine keeps_queryRemoteDevices fun output' hreads' => ?_
    cases hdevices : readDeviceList output' with
    | error err => exact hall
    | ok devices =>
      cases hrow : selectedRow endpoint busId devices ports with
      | none =>
        simp only [hrow]
        exact hall
      | some selected =>
        simp only [hrow]
        have hfits := forall_selectedPort_iff.mpr (hreads'.1 hfresh devices hdevices)
        rw [hrow, Option.bind_some] at hfits
        exact keeps_toggleRow hall hfits

/-- The loop of `shutdown`: the ports that are left are the agent's until they are detached. -/
theorem keeps_shutdownEach {ports : List Text} (hnodup : ports.Nodup) :
    ∀ {managedPorts own notes failures}, AllOwned managedPorts (own, notes) →
      (∀ port ∈ ports, own port ≠ none) →
        Keeps endpoint (.ok .shutdown) (fun a w => AllOwned a.1 w)
          (shutdownEach managedPorts failures ports) (own, notes) := by
  induction ports with
  | nil => exact fun hall _ => hall
  | cons port ports ih =>
    intro managedPorts own notes failures hall hports
    obtain ⟨hnotMem, hnodup⟩ := List.nodup_cons.mp hnodup
    refine keeps_detachPort (hports port List.mem_cons_self) (fun notes' => ?_) fun err notes' => ?_
    · refine ih hnodup (hall.erase notes') fun p hp => ?_
      have hne : p ≠ port := fun h => hnotMem (h ▸ hp)
      rw [Function.update_of_ne hne]
      exact hports p (List.mem_cons_of_mem port hp)
    · exact ih hnodup hall fun p hp => hports p (List.mem_cons_of_mem port hp)

theorem keeps_shutdown (hall : AllOwned managedPorts (own, notes)) :
    Keeps endpoint (.ok .shutdown) (fun a w => AllOwned a.2 w) (shutdown managedPorts)
      (own, notes) := by
  have hports : ∀ port ∈ managedPorts.sort, own port ≠ none :=
    fun port hport => hall port ((Finset.mem_sort _).mp hport)
  refine Meets.bind ((keeps_shutdownEach (Finset.sort_nodup _ _) hall hports).imp ?_)
  rintro ⟨managedPorts', failures⟩ w hall'
  dsimp only
  split
  · exact hall'
  · exact hall'

/-- **A request detaches only what is the agent's**, and leaves it managing nothing else. -/
theorem keeps_respond (hall : AllOwned managedPorts (own, notes)) (hfresh : notes.fresh = none) :
    Keeps endpoint request (fun a w => AllOwned a.managedPorts w)
      (respond endpoint managedPorts request) (own, notes) := by
  match request with
  | .error err => exact hall
  | .ok .status =>
    refine keeps_snapshot (fun output ports _ => ?_) fun err ports => hall
    cases snapshotOf endpoint ports (readDeviceList output) with
    | ok items => exact hall
    | error err => exact hall
  | .ok (.toggle busId) =>
    exact Meets.bind ((keeps_toggle hall hfresh).imp fun _ _ h => h)
  | .ok .shutdown =>
    refine Meets.bind ((keeps_shutdown hall).imp ?_)
    rintro ⟨result, managedPorts'⟩ w hall'
    cases result with
    | ok u => exact hall'
    | error err => exact hall'

/-! ## Whole runs -/

/-- What the agent is about to do keeps to its own attachments. -/
def Stage.Faithful (endpoint : ClientEndpoint) (own : Owned) (notes : Notes) : Stage → Prop
  | .responding request m =>
      Keeps endpoint request (fun a w => AllOwned a.managedPorts w) m (own, notes)
  | .reporting managedPorts _ m =>
      Keeps endpoint (.ok .status) (fun _ w => AllOwned managedPorts w) m (own, notes)
  | .waiting managedPorts => AllOwned managedPorts (own, notes)
  | .stopped => True

/-- The agent has detached nothing but its own, and keeps to that. -/
structure Faithful (endpoint : ClientEndpoint) (s : World) : Prop where
  notStray : s.stray = false
  stage : s.stage.Faithful endpoint (s.table.own endpoint) s.notes

variable {s s' : World} {d : Deed} {output : Except Text Output} {unreported : Bool} {stage : Stage}

/-- Taking the status of the ports changes none of them. -/
theorem keeps_writeSnapshot (hall : AllOwned managedPorts (own, notes)) :
    Keeps endpoint request (fun _ w => AllOwned managedPorts w) (writeSnapshot endpoint)
      (own, notes) :=
  keeps_snapshot (fun _ _ _ => hall) fun _ _ => hall

/-- A call that was allowed, and its answer. -/
theorem Faithful.answered (h : Faithful endpoint s)
    (hneed : ∀ p, d = .detach p → MayDetach request (s.table.own endpoint) p)
    (hstage : stage.Faithful endpoint
      (Owned.answered (s.table.own endpoint) endpoint d (succeeded output || unreported) port)
      (s.notes.answered d output port))
    (hs : s.answered endpoint request d output unreported port stage = some s') :
    Faithful endpoint s' := by
  rw [← own_answered] at hstage
  cases d with
  | attach remote busId =>
    simp only [World.answered] at hs
    split at hs
    · cases hs
    · exact Option.some.inj hs ▸ ⟨h.notStray, hstage⟩
  | detach p =>
    simp only [World.answered, if_pos (hneed p rfl)] at hs
    exact Option.some.inj hs ▸ ⟨h.notStray, hstage⟩
  | readPorts | readDevices | other => exact Option.some.inj hs ▸ ⟨h.notStray, hstage⟩

/-- What leaves the ports of the agent alone keeps it faithful. -/
theorem Faithful.undisturbed (h : Faithful endpoint s) (hstray : s'.stray = s.stray)
    (hown : s'.table.own endpoint = s.table.own endpoint)
    (hstage : s'.stage.Faithful endpoint (s.table.own endpoint) s'.notes) :
    Faithful endpoint s' :=
  ⟨hstray.trans h.notStray, hown.symm ▸ hstage⟩

theorem Faithful.step_answer {reply : (c : Call) → c.Answer} (h : Faithful endpoint s)
    (hp : Undisturbed endpoint s (.answer reply unreported port))
    (hs : step endpoint s (.answer reply unreported port) = some s') : Faithful endpoint s' := by
  have hstage := h.stage
  rcases answer_cases hs with ⟨r, c, k, heq, hs⟩ | ⟨managedPorts, stop, c, k, heq, hs⟩
  · simp only [Undisturbed, heq] at hp
    rw [heq] at hstage
    refine h.answered hstage.1 ?_ hs
    exact hstage.2 (reply c) _ ⟨unreported, port, hp.1, hp.2, rfl⟩
  · simp only [Undisturbed, heq] at hp
    rw [heq] at hstage
    refine h.answered hstage.1 ?_ hs
    exact hstage.2 (reply c) _ ⟨unreported, port, hp, trivial, rfl⟩

theorem Faithful.step_write (h : Faithful endpoint s) (hs : step endpoint s .write = some s') :
    Faithful endpoint s' := by
  have hstage := h.stage
  rcases write_cases hs with ⟨r, answered, heq, rfl⟩ | ⟨managedPorts, stop, body, heq, rfl⟩
  · rw [heq] at hstage
    exact h.undisturbed rfl rfl (keeps_writeSnapshot hstage)
  · rw [heq] at hstage
    refine h.undisturbed rfl rfl ?_
    cases stop with
    | true => trivial
    | false => exact hstage

theorem Faithful.step (s : World) (a : Action) (s' : World) (h : Faithful endpoint s)
    (hp : Undisturbed endpoint s a) (hs : step endpoint s a = some s') : Faithful endpoint s' := by
  cases a with
  | request request =>
    obtain ⟨managedPorts, heq, rfl⟩ := request_cases hs
    have hall : AllOwned managedPorts (s.table.own endpoint, s.notes) := by
      have hstage := h.stage
      rwa [heq] at hstage
    exact h.undisturbed rfl rfl (keeps_respond hall rfl)
  | answer reply unreported port => exact h.step_answer hp hs
  | write => exact h.step_write hs
  | acceptFails =>
    obtain rfl := acceptFails_cases hs
    exact h.undisturbed rfl rfl trivial
  | othersAttach port remote busId =>
    obtain ⟨hfree, rfl⟩ := othersAttach_cases hs
    exact h.undisturbed rfl (own_othersAttach hfree rfl) h.stage
  | othersDetach port =>
    have hnone : s.table.own endpoint port = none := hp
    obtain rfl := Option.some.inj hs
    refine h.undisturbed rfl ?_ h.stage
    rw [own_update_none, ← hnone, Function.update_eq_self]

theorem faithful_init (left : Text → Option (Text × Text)) :
    Faithful endpoint (init endpoint left) :=
  ⟨rfl, keeps_writeSnapshot fun _ hport => absurd hport (Finset.notMem_empty _)⟩

/-- **The agent detaches only what it has attached, in every run that leaves it undisturbed.** -/
theorem detaches_own (endpoint : ClientEndpoint) (left : Text → Option (Text × Text))
    (as : List Action) (h : Along (step endpoint) (Undisturbed endpoint) (init endpoint left) as) :
    Throughout (step endpoint) (fun s => s.stray = false) (init endpoint left) as :=
  throughout_of_along Faithful.step (fun _ h => h.notStray) (faithful_init left) h

/-! ## Two adapters of one kind -/

/-- What is read off a table that cannot be read holds. -/
instance decidableForallOk {ε α : Type} (e : Except ε α) (p : α → Prop) [∀ a, Decidable (p a)] :
    Decidable (∀ a, e = .ok a → p a) :=
  match e with
  | .ok a => decidable_of_iff (p a) ⟨fun h _ hb => Except.ok.inj hb ▸ h, fun h => h a rfl⟩
  | .error _ => isTrue nofun

instance (own : Owned) (busId port : Text) : Decidable (own.Fits busId port) :=
  inferInstanceAs (Decidable (_ ∨ _))

instance (endpoint : ClientEndpoint) (busId : Text) (own : Owned) (notes : Notes)
    (output : Except Text Output) :
    (d : Deed) → Decidable (ReadsFor endpoint busId own notes output d)
  | .readPorts =>
      have (ports : List AttachedUsbPort) := decidableFirst endpoint busId ports (own.Fits busId)
      inferInstanceAs (Decidable (_ → ∀ ports, _ = Except.ok ports → _))
  | .readDevices =>
      have (devices : List RemoteUsbDevice) :=
        decidablePut endpoint busId devices notes.ports (own.Fits busId)
      have (devices : List RemoteUsbDevice) :=
        decidablePut endpoint busId devices notes.ports fun number =>
          own number ≠ none ∧ Unbarred number
      inferInstanceAs (Decidable ((_ → ∀ devices, _ = Except.ok devices → _) ∧
        (_ → ∀ devices ∈ snapshotDevices _ _ _, _)))
  | .attach _ _ | .detach _ | .other => instDecidableTrue

instance (endpoint : ClientEndpoint) (own : Owned) (notes : Notes) (d : Deed)
    (output : Except Text Output) :
    (request : Except Text ControlRequest) → Decidable (Reads endpoint own notes d output request)
  | .ok (.toggle busId) => inferInstanceAs (Decidable (ReadsFor endpoint busId own notes output d))
  | .ok .status | .ok .shutdown | .error _ => instDecidableTrue

instance (output : Except Text Output) (unreported : Bool) :
    (d : Deed) → Decidable (Honest output unreported d)
  | .detach _ => inferInstanceAs (Decidable (_ → _))
  | .attach _ _ | .readPorts | .readDevices | .other => instDecidableTrue

instance (endpoint : ClientEndpoint) (own : Owned) (notes : Notes)
    (reply : (c : Call) → c.Answer) (unreported : Bool) :
    (stage : Stage) → Decidable (stage.Undisturbed endpoint own notes reply unreported)
  | .responding _ (.call _ _) => inferInstanceAs (Decidable (Honest _ _ _ ∧ Reads _ _ _ _ _ _))
  | .reporting _ _ (.call _ _) => inferInstanceAs (Decidable (Honest _ _ _))
  | .responding _ (.ret _) | .reporting _ _ (.ret _) | .waiting _ | .stopped => instDecidableTrue

instance (endpoint : ClientEndpoint) (s : World) : (a : Action) → Decidable (Undisturbed endpoint s a)
  | .othersDetach _ => inferInstanceAs (Decidable (_ = _))
  | .answer _ _ _ => inferInstanceAs (Decidable (Stage.Undisturbed _ _ _ _ _ _))
  | .request _ | .write | .acceptFails | .othersAttach _ _ _ => instDecidableTrue

/-- The second adapter is toggled, and the row of the second adapter shows the port of the first. -/
def toggleSecond : List Action :=
  attachFirst ++
    [.request (.ok (.toggle "1-2".toList)), .answer afterAttach false [],
      .answer afterAttach false [], .answer afterAttach false []]

theorem toggleSecond_detaches_first :
    ¬ Throughout (step adapterEndpoint) (fun s => s.stray = false)
      (init adapterEndpoint fun _ => none) toggleSecond := by
  intro h
  have hrun : (run (step adapterEndpoint) (init adapterEndpoint fun _ => none) toggleSecond).map
      (·.stray) = some true := by decide +kernel
  obtain ⟨s, hs, hstray⟩ := Option.map_eq_some_iff.mp hrun
  exact nomatch hstray.symm.trans (h.of_run hs)

/-- The first adapter is toggled again. -/
def toggleFirst : List Action :=
  attachFirst ++
    [.request (.ok (.toggle "1-1".toList)), .answer afterAttach false [],
      .answer afterAttach false []]

theorem toggleFirst_detaches_own :
    Throughout (step adapterEndpoint) (fun s => s.stray = false)
      (init adapterEndpoint fun _ => none) toggleFirst :=
  detaches_own adapterEndpoint (fun _ => none) toggleFirst (by decide +kernel)

end Agent
end Lusbip
