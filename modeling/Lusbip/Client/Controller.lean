import Lusbip.Client.Agent
import Lusbip.Client.PortTable
import Lusbip.Client.Recovery
import Lusbip.Client.Rows
import Lusbip.Tui.Provenance

/-!
# The controller of the background agent

`run_controller_tui` is the list of the remote ports once more, but what it does is done by the agent:
each closure of the list writes a request to the socket and reads a response. Between the two the
response is in flight, the list goes on, the agent serves others, and the connection may fail.

Beside this system stands one without a socket, where the closures are the agent's own functions. The
two have the same runs. What stands between them is the protocol, which gives back every request but
the toggle of a row without an id, and every response; so the rows have to be looked after: none that
the agent sends is without an id, and the list makes none up.
-/

namespace Lusbip
namespace Agent

open Lib
open Lib.Fields
open Lib.Program
open Lib.Transition
open Client
open Tui (ActionList Move)

/-! ## The agent at the socket -/

/-- A request that has been served: the reply, and where the agent stands. -/
structure Served (ρ : Type) where
  reply : ρ
  managedPorts : PortSet
  stop : Bool

/-- One round of `run_background_agent`, from the bytes of the request to those of the response. -/
def serveRequest (endpoint : ClientEndpoint) (managedPorts : PortSet) (request : List UInt8) :
    Command (Served (List UInt8)) :=
  (respond endpoint managedPorts (readRequest request)).bind fun answered =>
    (writeSnapshot endpoint).bind fun _ =>
      .ret
        { reply := writeResponse answered.response
          managedPorts := answered.managedPorts
          stop := answered.stop }

/-- `send_request`, up to the response. -/
def sendRequest (endpoint : ClientEndpoint) (managedPorts : PortSet) (request : ControlRequest) :
    Command (Served (List UInt8)) :=
  serveRequest endpoint managedPorts (encode request.line)

/-! ## The closures of the list -/

/-- `snapshot_from_agent` -/
def snapshotFromAgent : Except Text ControlResponse → Except Text (List TuiItem)
  | .ok (.snapshot items) => .ok items
  | .ok (.error err) => .error err
  | .ok (.message _) => .error "Invalid response to status request".toList
  | .error err => .error err

/-- What the list makes of the response to a `TOGGLE`. -/
def messageFromAgent : Except Text ControlResponse → Except Text Text
  | .ok (.message message) => .ok message
  | .ok (.error err) => .error err
  | .ok (.snapshot _) => .error "Invalid response to toggle request".toList
  | .error err => .error err

/-- What the list makes of the response to a `SHUTDOWN`. -/
def exitFromAgent : Except Text ControlResponse → Except Text Unit
  | .ok (.message _) => .ok ()
  | .ok (.error err) => .error err
  | .ok (.snapshot _) => .error "Invalid response to shutdown request".toList
  | .error err => .error err

/-- The three closures, each with a request of its own. -/
inductive Closure where
  | load
  | activate
  | exit
  deriving DecidableEq

/-- What the closure asks for, if it is running. -/
def Closure.request (list : ActionList) : Closure → Option ControlRequest
  | .load =>
      match list.refreshThread with
      | .working _ => some .status
      | _ => none
  | .activate =>
      match list.actionThread with
      | .working action => some (.toggle action.item.id)
      | _ => none
  | .exit =>
      match list.phase with
      | .exiting _ => some .shutdown
      | _ => none

/-- The closure returns what it makes of the response. -/
def Closure.returns : Closure → Except Text ControlResponse → Move
  | .load, response => .loaded (snapshotFromAgent response)
  | .activate, response => .activated (messageFromAgent response)
  | .exit, response => .exited (some (exitFromAgent response))

/-! ## The list and the agent -/

/-- The list, the agent, and the replies that no closure has read yet. -/
structure Controlled (ρ : Type) where
  list : ActionList
  managedPorts : PortSet
  stopped : Bool := false
  replies : Closure → Option ρ := fun _ => none

namespace Controlled

/-- What happens next: the list makes a move, the agent serves a request, or a closure reads its
    reply. -/
inductive Action where
  | move (move : Move)
  /-- The agent serves the request of a closure. -/
  | serve (closure : Closure) (env : Environment)
  /-- The closure reads its reply, and returns. -/
  | receive (closure : Closure)
  /-- There is no connection, or no more. -/
  | disconnect (closure : Closure) (err : Text)
  /-- The agent serves somebody else. -/
  | other (request : List UInt8) (env : Environment)

/-- A move that a closure makes. -/
def isReturn : Move → Bool
  | .loaded _ | .activated _ | .exited (some _) => true
  | _ => false

/-- Nobody waits for the reply to a closure that does not run any more. -/
def awaited {ρ : Type} (list : ActionList) (replies : Closure → Option ρ) (closure : Closure) :
    Option ρ :=
  if (closure.request list).isSome then replies closure else none

section

variable {ρ : Type} (endpoint : ClientEndpoint)
  (serve : PortSet → ControlRequest → Command (Served ρ)) (read : Closure → ρ → Move)

/-- A closure is at work from the move that calls it to the one that has its result. -/
def step (s : Controlled ρ) : Action → Option (Controlled ρ)
  | .move move =>
      if isReturn move then none
      else
        (s.list.step move).map fun list => { s with list, replies := awaited list s.replies }
  | .serve closure env =>
      match closure.request s.list, s.replies closure with
      | some request, none =>
          if s.stopped then none
          else
            let served := result env 0 (serve s.managedPorts request)
            some
              { s with
                managedPorts := served.managedPorts
                stopped := served.stop
                replies := Function.update s.replies closure (some served.reply) }
      | _, _ => none
  | .receive closure =>
      match s.replies closure with
      | some reply =>
          (s.list.step (read closure reply)).map fun list =>
            { s with list, replies := Function.update s.replies closure none }
      | none => none
  | .disconnect closure err =>
      match closure.request s.list, s.replies closure with
      | some _, none =>
          (s.list.step (closure.returns (.error err))).map fun list => { s with list }
      | _, _ => none
  | .other request env =>
      if s.stopped then none
      else
        let served := result env 0 (serveRequest endpoint s.managedPorts request)
        some { s with managedPorts := served.managedPorts, stopped := served.stop }

/-- The first rows are loaded before there are threads. -/
def start (managedPorts : PortSet) (env : Environment) : Option (Controlled ρ) :=
  let served := result env 0 (serve managedPorts .status)
  match read .load served.reply with
  | .loaded (.ok items) =>
      some { list := .start items, managedPorts := served.managedPorts, stopped := served.stop }
  | _ => none

end

/-- What can be seen of the list and of the agent. -/
structure SameView {ρ σ : Type} (s : Controlled ρ) (t : Controlled σ) : Prop where
  list : s.list = t.list
  managedPorts : s.managedPorts = t.managedPorts
  stopped : s.stopped = t.stopped

end Controlled

/-! ## Without a socket -/

/-- What `toggle` says; it makes no snapshots. -/
def said : ControlResponse → Except Text Text
  | .message message => .ok message
  | .error err => .error err
  | .snapshot _ => .ok []

variable (endpoint : ClientEndpoint) (managedPorts : PortSet)

/-- What a closure would return if it called the function of the agent. -/
def performRequest : ControlRequest → Command (Served Move)
  | .status =>
      (snapshot endpoint).bind fun items =>
        .ret { reply := .loaded items, managedPorts, stop := false }
  | .toggle busId =>
      (toggle endpoint managedPorts busId).bind fun (response, managedPorts) =>
        .ret { reply := .activated (said response), managedPorts, stop := false }
  | .shutdown =>
      (shutdown managedPorts).bind fun (result, managedPorts) =>
        .ret { reply := .exited (some result), managedPorts, stop := isOk result }

/-- The list over the socket. -/
def controllerStep : Controlled (List UInt8) → Controlled.Action → Option (Controlled (List UInt8)) :=
  Controlled.step endpoint (sendRequest endpoint) fun closure body =>
    closure.returns (readResponse body)

/-- The list with the functions of the agent for its closures. -/
def directStep : Controlled Move → Controlled.Action → Option (Controlled Move) :=
  Controlled.step endpoint (performRequest endpoint) fun _ move => move

/-- The list of a controller: what comes back are bytes, which have to be read. -/
def startController (env : Environment) : Option (Controlled (List UInt8)) :=
  Controlled.start (sendRequest endpoint) (fun closure body => closure.returns (readResponse body))
    managedPorts env

/-- The list without a socket in between. -/
def startDirect (env : Environment) : Option (Controlled Move) :=
  Controlled.start (performRequest endpoint) (fun _ move => move) managedPorts env

/-! ## Every row has an id -/

variable {endpoint : ClientEndpoint} {managedPorts : PortSet}

/-- The row can be asked for. -/
def TuiItem.HasId (item : TuiItem) : Prop := item.id ≠ []

theorem busId_of_parseListLine {line : Text} {device : RemoteUsbDevice}
    (h : parseListLine line = some device) : device.busId ≠ [] := by
  unfold parseListLine at h
  dsimp only at h
  split at h
  · cases h
  · obtain ⟨⟨busId, description⟩, -, h⟩ := Option.bind_eq_some_iff.mp h
    dsimp only at h
    split at h
    · cases h
    · rename_i hne
      cases h
      exact fun hnil => hne (Or.inl hnil)

theorem busId_of_extractUsbipUrl {line host busId : Text}
    (h : extractUsbipUrl line = some (host, busId)) : busId ≠ [] := by
  unfold extractUsbipUrl at h
  obtain ⟨⟨_, url⟩, -, h⟩ := Option.bind_eq_some_iff.mp h
  obtain ⟨⟨hostPort, rest⟩, -, h⟩ := Option.bind_eq_some_iff.mp h
  obtain ⟨word, -, h⟩ := Option.bind_eq_some_iff.mp h
  dsimp only at h
  split_ifs at h with hne
  obtain ⟨-, rfl⟩ := Prod.mk.inj (Option.some.inj h)
  exact fun hnil => hne (Or.inr hnil)

theorem busId_of_mem_parseUsbipListOutput {stdout : Text} {device : RemoteUsbDevice}
    (h : device ∈ parseUsbipListOutput stdout) : device.busId ≠ [] := by
  obtain ⟨line, -, hline⟩ := List.mem_filterMap.mp (mem_uniqueFrom h).1
  exact busId_of_parseListLine hline

theorem busId_of_mem_parseUsbipPortOutput {stdout : Text} {port : AttachedUsbPort}
    (h : port ∈ parseUsbipPortOutput stdout) : ∀ busId ∈ port.remoteBusId, busId ≠ [] := by
  rw [parseUsbipPortOutput_eq, parsePorts_eq] at h
  obtain ⟨block, -, rfl⟩ := List.mem_map.mp h
  intro busId hbusId
  obtain ⟨⟨host, last⟩, hlast, rfl⟩ := Option.map_eq_some_iff.mp hbusId
  obtain ⟨line, -, hline⟩ := List.mem_filterMap.mp (List.mem_of_getLast? hlast)
  exact busId_of_extractUsbipUrl hline

theorem hasId_rowItems {devices : List RemoteUsbDevice} {ports : List AttachedUsbPort}
    (hdevices : ∀ device ∈ devices, device.busId ≠ [])
    (hports : ∀ port ∈ ports, ∀ busId ∈ port.remoteBusId, busId ≠ []) :
    ∀ item ∈ rowItems endpoint devices ports, item.HasId := by
  intro item hitem
  obtain ⟨state, hstate, rfl⟩ := List.mem_map.mp hitem
  rw [remoteDeviceStates_eq] at hstate
  rcases List.mem_append.mp hstate with hstate | hstate
  · obtain ⟨device, hdevice, rfl⟩ := List.mem_map.mp hstate
    exact hdevices device (mem_uniqueFrom hdevice).1
  · -- A port without a bus id is called by its number.
    obtain ⟨port, hport, rfl⟩ := List.mem_map.mp hstate
    show port.remoteBusId.getD ("attached-port-".toList ++ port.port) ≠ []
    cases hbusId : port.remoteBusId with
    | none => exact fun hnil => nomatch hnil
    | some busId => exact hports port (List.mem_filter.mp hport).1 busId hbusId

theorem mem_of_readDeviceList {output : Except Text Output} {devices : List RemoteUsbDevice}
    (h : readDeviceList output = .ok devices) : ∀ device ∈ devices, device.busId ≠ [] := by
  unfold readDeviceList at h
  split at h
  · cases h
  · split at h
    · cases h
      exact fun device => busId_of_mem_parseUsbipListOutput
    · cases h

theorem mem_of_readPortTable {output : Except Text Output} {ports : List AttachedUsbPort}
    (h : readPortTable output = .ok ports) :
    ∀ port ∈ ports, ∀ busId ∈ port.remoteBusId, busId ≠ [] := by
  unfold readPortTable at h
  split at h
  · cases h
  · split at h
    · cases h
      exact fun port => busId_of_mem_parseUsbipPortOutput
    · cases h

/-- **The agent sends no row without an id.** -/
theorem hasId_snapshot {env : Environment} {n : Nat} {items : List TuiItem}
    (h : result env n (snapshot endpoint) = .ok items) : ∀ item ∈ items, item.HasId := by
  unfold snapshot Program.andThen at h
  rw [result_bind] at h
  cases hports : result env n queryAttachedPorts with
  | error err =>
    rw [hports] at h
    cases h
  | ok ports =>
    rw [hports] at h
    dsimp only at h
    rw [result_bind, result_ret] at h
    have hports := mem_of_readPortTable hports
    cases hdevices : result env (n + (events env n queryAttachedPorts).length)
        (queryRemoteDevices endpoint.remote endpoint.tcpPort) with
    | ok devices =>
      rw [hdevices] at h
      cases h
      exact hasId_rowItems (mem_of_readDeviceList hdevices) hports
    | error err =>
      rw [hdevices] at h
      unfold snapshotOf at h
      dsimp only at h
      split at h
      · cases h
        exact hasId_rowItems (fun device hm => absurd hm List.not_mem_nil) hports
      · cases h

theorem closed_hasId : ActionList.Closed TuiItem.HasId := fun _ _ h => h

/-! ## The socket loses nothing -/

/-- A response that is no snapshot. -/
def ControlResponse.Says (response : ControlResponse) : Prop :=
  ∀ items, response ≠ .snapshot items

theorem says_message (message : Text) : (ControlResponse.message message).Says :=
  fun _ h => nomatch h

theorem says_error (err : Text) : (ControlResponse.error err).Says := fun _ h => nomatch h

variable {env : Environment} {n : Nat} {busId : Text}

theorem says_detachManaged (port : Text) :
    (result env n (detachManaged managedPorts port)).1.Says := by
  unfold detachManaged
  split
  · exact says_error _
  · rw [result_bind]
    cases result env n (detachPort port) with
    | ok _ => exact says_message _
    | error err => exact says_error _

theorem says_learn (items : Except Text (List TuiItem)) :
    (learn endpoint managedPorts busId items).1.Says := by
  unfold learn
  split
  · split
    · exact says_message _
    · exact says_error _
  · exact says_error _

theorem says_attachAndLearn :
    (result env n (attachAndLearn endpoint managedPorts busId)).1.Says := by
  unfold attachAndLearn
  rw [result_bind]
  cases result env n (attachRemoteDevice endpoint.remote endpoint.tcpPort busId) with
  | error err => exact says_error _
  | ok _ =>
    dsimp only
    rw [result_bind]
    exact says_learn _

theorem says_toggleRow (selected : RemoteUsbDeviceState) :
    (result env n (toggleRow endpoint managedPorts busId selected)).1.Says := by
  unfold toggleRow
  split
  · exact says_detachManaged _
  · exact says_error _
  · exact says_attachAndLearn

/-- `toggle` makes no snapshots. -/
theorem says_toggle : (result env n (toggle endpoint managedPorts busId)).1.Says := by
  unfold toggle
  rw [result_bind]
  cases result env n queryAttachedPorts with
  | error err => exact says_error _
  | ok ports =>
    dsimp only
    split
    · exact says_detachManaged _
    · rw [result_bind]
      cases result env _ (queryRemoteDevices endpoint.remote endpoint.tcpPort) with
      | error err => exact says_error _
      | ok devices =>
        dsimp only
        split
        · exact says_error _
        · exact says_toggleRow _

theorem ControlResponse.Says.message_eq {response : ControlResponse} (h : response.Says) :
    messageFromAgent (.ok response) = said response := by
  cases response with
  | snapshot items => exact absurd rfl (h items)
  | message message => rfl
  | error err => rfl

theorem result_serveRequest (request : List UInt8) :
    result env n (serveRequest endpoint managedPorts request) =
      { reply :=
          writeResponse (result env n (respond endpoint managedPorts (readRequest request))).response
        managedPorts :=
          (result env n (respond endpoint managedPorts (readRequest request))).managedPorts
        stop := (result env n (respond endpoint managedPorts (readRequest request))).stop } := by
  unfold serveRequest
  rw [result_bind, result_bind, result_ret]

/-- What is read from the socket is what the function of the agent has given. -/
structure SameAnswer (closure : Closure) (a : Served (List UInt8)) (b : Served Move) : Prop where
  reply : closure.returns (readResponse a.reply) = b.reply
  managedPorts : a.managedPorts = b.managedPorts
  stop : a.stop = b.stop

theorem sameAnswer_of_respond {closure : Closure} {request : ControlRequest}
    (hnamed : request.Named) {b : Served Move}
    (hreply : closure.returns
      (.ok (result env n (respond endpoint managedPorts (.ok request))).response) = b.reply)
    (hports : (result env n (respond endpoint managedPorts (.ok request))).managedPorts =
      b.managedPorts)
    (hstop : (result env n (respond endpoint managedPorts (.ok request))).stop = b.stop) :
    SameAnswer closure (result env n (sendRequest endpoint managedPorts request)) b := by
  have hserved : result env n (serveRequest endpoint managedPorts (encode request.line)) = _ :=
    result_serveRequest (encode request.line)
  rw [readRequest_line hnamed] at hserved
  refine ⟨?_, ?_, ?_⟩
  · rw [sendRequest, hserved]
    dsimp only
    rw [readResponse_writeResponse]
    exact hreply
  · rw [sendRequest, hserved]
    exact hports
  · rw [sendRequest, hserved]
    exact hstop

theorem sameAnswer_status :
    SameAnswer .load (result env n (sendRequest endpoint managedPorts .status))
      (result env n (performRequest endpoint managedPorts .status)) := by
  have hnamed : ControlRequest.status.Named := trivial
  refine sameAnswer_of_respond hnamed ?_ ?_ ?_ <;>
    · rw [respond, performRequest, result_bind, result_bind, result_ret]
      cases result env n (snapshot endpoint) <;> rfl

theorem sameAnswer_toggle (h : busId ≠ []) :
    SameAnswer .activate (result env n (sendRequest endpoint managedPorts (.toggle busId)))
      (result env n (performRequest endpoint managedPorts (.toggle busId))) := by
  have hnamed : (ControlRequest.toggle busId).Named := h
  refine sameAnswer_of_respond hnamed ?_ ?_ ?_
  · rw [respond, performRequest, result_bind, result_bind]
    exact congrArg Move.activated says_toggle.message_eq
  · rw [respond, performRequest, result_bind, result_bind]
    rfl
  · rw [respond, performRequest, result_bind, result_bind]
    rfl

theorem sameAnswer_shutdown :
    SameAnswer .exit (result env n (sendRequest endpoint managedPorts .shutdown))
      (result env n (performRequest endpoint managedPorts .shutdown)) := by
  have hnamed : ControlRequest.shutdown.Named := trivial
  refine sameAnswer_of_respond hnamed ?_ ?_ ?_ <;>
    · rw [respond, performRequest, result_bind, result_bind]
      rcases result env n (shutdown managedPorts) with ⟨_ | _, _⟩ <;> rfl

/-- **A closure over the socket gets what the function of the agent gives.** -/
theorem sameAnswer {list : ActionList} (hrows : list.Holds TuiItem.HasId) {closure : Closure}
    {request : ControlRequest} (h : closure.request list = some request) :
    SameAnswer closure (result env n (sendRequest endpoint managedPorts request))
      (result env n (performRequest endpoint managedPorts request)) := by
  cases closure with
  | load =>
    unfold Closure.request at h
    dsimp only at h
    split at h
    · cases h
      exact sameAnswer_status
    · cases h
  | activate =>
    unfold Closure.request at h
    dsimp only at h
    split at h
    · rename_i action hthread
      cases h
      refine sameAnswer_toggle (hrows.actions action ?_)
      simp [ActionList.unfinished, ActionList.underway, Tui.Thread.jobs, hthread]
    · cases h
  | exit =>
    unfold Closure.request at h
    dsimp only at h
    split at h
    · cases h
      exact sameAnswer_shutdown
    · cases h

/-! ## The two systems -/

/-- The list over the socket and the one without it stand alike: what is in flight will be read as
    what the other closure will return, and every row can be asked for. -/
structure Tracks (s : Controlled (List UInt8)) (t : Controlled Move) : Prop where
  same : Controlled.SameView s t
  replies : ∀ closure,
    Option.Rel (fun body move => closure.returns (readResponse body) = move)
      (s.replies closure) (t.replies closure)
  rows : t.list.Holds TuiItem.HasId
  loads : ∀ closure, ∀ move ∈ t.replies closure, ActionList.Move.Loads TuiItem.HasId move

variable {s : Controlled (List UInt8)} {t : Controlled Move}

theorem loads_of_not_isReturn {move : Move} (h : ¬ Controlled.isReturn move = true) :
    ActionList.Move.Loads TuiItem.HasId move := by
  unfold ActionList.Move.Loads
  split
  · exact absurd rfl h
  · trivial

/-- A move of the list makes the same list of both. -/
theorem Tracks.list_step (h : Tracks s t) {move : Move}
    (hmove : ActionList.Move.Loads TuiItem.HasId move) {s' : ActionList → Controlled (List UInt8)}
    {t' : ActionList → Controlled Move}
    (hnext : ∀ list : ActionList, list.Holds TuiItem.HasId → Tracks (s' list) (t' list)) :
    Option.Rel Tracks ((s.list.step move).map s') ((t.list.step move).map t') := by
  rw [h.same.list]
  cases hstep : t.list.step move with
  | none => exact .none
  | some list => exact .some (hnext list (h.rows.step closed_hasId hmove hstep))

theorem Tracks.move (h : Tracks s t) (move : Move) :
    Option.Rel Tracks (controllerStep endpoint s (.move move))
      (directStep endpoint t (.move move)) := by
  unfold controllerStep directStep Controlled.step
  dsimp only
  by_cases hreturn : Controlled.isReturn move = true
  · rw [if_pos hreturn, if_pos hreturn]
    exact .none
  · rw [if_neg hreturn, if_neg hreturn]
    refine h.list_step (loads_of_not_isReturn hreturn) fun list hlist => ?_
    refine ⟨⟨rfl, h.same.managedPorts, h.same.stopped⟩, fun closure => ?_, hlist,
      fun closure move hmove => ?_⟩
    · show Option.Rel _ (Controlled.awaited list s.replies closure)
        (Controlled.awaited list t.replies closure)
      unfold Controlled.awaited
      split
      · exact h.replies closure
      · exact .none
    · have hmove : move ∈ Controlled.awaited list t.replies closure := hmove
      unfold Controlled.awaited at hmove
      split at hmove
      · exact h.loads closure move hmove
      · cases hmove

/-- The replies after that of one closure has changed. -/
theorem Tracks.replies_update (h : Tracks s t) (closure : Closure) {body : Option (List UInt8)}
    {move : Option Move}
    (hreply : Option.Rel (fun body move => closure.returns (readResponse body) = move) body move)
    (other : Closure) :
    Option.Rel (fun body move => other.returns (readResponse body) = move)
      (Function.update s.replies closure body other)
      (Function.update t.replies closure move other) := by
  by_cases heq : other = closure
  · subst heq
    rw [Function.update_self, Function.update_self]
    exact hreply
  · rw [Function.update_of_ne heq, Function.update_of_ne heq]
    exact h.replies other

theorem Tracks.loads_update (h : Tracks s t) (closure : Closure) {reply : Option Move}
    (hreply : ∀ move ∈ reply, ActionList.Move.Loads TuiItem.HasId move) (other : Closure) :
    ∀ move ∈ Function.update t.replies closure reply other,
      ActionList.Move.Loads TuiItem.HasId move := by
  by_cases heq : other = closure
  · subst heq
    rw [Function.update_self]
    exact hreply
  · rw [Function.update_of_ne heq]
    exact h.loads other

/-- What is loaded without the socket has ids. -/
theorem loads_performRequest (request : ControlRequest) :
    ActionList.Move.Loads TuiItem.HasId
      (result env n (performRequest endpoint managedPorts request)).reply := by
  cases request with
  | status =>
    rw [performRequest, result_bind, result_ret]
    cases hitems : result env n (snapshot endpoint) with
    | ok items => exact hasId_snapshot hitems
    | error err => trivial
  | toggle busId =>
    rw [performRequest, result_bind]
    trivial
  | shutdown =>
    rw [performRequest, result_bind]
    trivial

theorem Tracks.serve (h : Tracks s t) (closure : Closure) (env : Environment) :
    Option.Rel Tracks (controllerStep endpoint s (.serve closure env))
      (directStep endpoint t (.serve closure env)) := by
  unfold controllerStep directStep Controlled.step
  dsimp only
  rw [h.same.list, h.same.managedPorts, h.same.stopped]
  have hreplies := h.replies closure
  cases hrequest : closure.request t.list with
  | none => exact .none
  | some request =>
    generalize hbody : s.replies closure = body, hmove : t.replies closure = move at hreplies
    cases hreplies with
    | some hreply => exact .none
    | none =>
      dsimp only
      split
      · exact .none
      · have hsame : SameAnswer closure
            (result env 0 (sendRequest endpoint t.managedPorts request))
            (result env 0 (performRequest endpoint t.managedPorts request)) :=
          sameAnswer h.rows hrequest
        refine .some ⟨⟨rfl, hsame.managedPorts, hsame.stop⟩,
          h.replies_update closure (.some hsame.reply), h.rows, h.loads_update closure ?_⟩
        rintro move ⟨⟩
        exact loads_performRequest request

theorem Tracks.receive (h : Tracks s t) (closure : Closure) :
    Option.Rel Tracks (controllerStep endpoint s (.receive closure))
      (directStep endpoint t (.receive closure)) := by
  unfold controllerStep directStep Controlled.step
  dsimp only
  have hreplies := h.replies closure
  have hloads := h.loads closure
  generalize s.replies closure = body, t.replies closure = move at hreplies hloads
  cases hreplies with
  | none => exact .none
  | some hreply =>
    dsimp only
    rw [hreply]
    exact h.list_step (hloads _ rfl) fun list hlist =>
      ⟨⟨rfl, h.same.managedPorts, h.same.stopped⟩, h.replies_update closure .none, hlist,
        h.loads_update closure fun move hm => nomatch hm⟩

theorem Tracks.disconnect (h : Tracks s t) (closure : Closure) (err : Text) :
    Option.Rel Tracks (controllerStep endpoint s (.disconnect closure err))
      (directStep endpoint t (.disconnect closure err)) := by
  unfold controllerStep directStep Controlled.step
  dsimp only
  rw [h.same.list]
  have hreplies := h.replies closure
  cases closure.request t.list with
  | none => exact .none
  | some request =>
    generalize s.replies closure = body, t.replies closure = move at hreplies
    cases hreplies with
    | some hreply => exact .none
    | none =>
      have hmove : ActionList.Move.Loads TuiItem.HasId (closure.returns (.error err)) := by
        cases closure <;> trivial
      have hnext : Option.Rel Tracks
          ((s.list.step (closure.returns (.error err))).map fun list => { s with list })
          ((t.list.step (closure.returns (.error err))).map fun list => { t with list }) :=
        h.list_step hmove fun list hlist =>
          ⟨⟨rfl, h.same.managedPorts, h.same.stopped⟩, h.replies, hlist, h.loads⟩
      rw [h.same.list] at hnext
      exact hnext

theorem Tracks.other (h : Tracks s t) (request : List UInt8) (env : Environment) :
    Option.Rel Tracks (controllerStep endpoint s (.other request env))
      (directStep endpoint t (.other request env)) := by
  unfold controllerStep directStep Controlled.step
  dsimp only
  rw [h.same.managedPorts, h.same.stopped]
  split
  · exact .none
  · exact .some ⟨⟨h.same.list, rfl, rfl⟩, h.replies, h.rows, h.loads⟩

theorem Tracks.step (h : Tracks s t) (action : Controlled.Action) :
    Option.Rel Tracks (controllerStep endpoint s action) (directStep endpoint t action) := by
  cases action with
  | move move => exact h.move move
  | serve closure env => exact h.serve closure env
  | receive closure => exact h.receive closure
  | disconnect closure err => exact h.disconnect closure err
  | other request env => exact h.other request env

theorem tracks_start (endpoint : ClientEndpoint) (managedPorts : PortSet) (env : Environment) :
    Option.Rel Tracks (startController endpoint managedPorts env)
      (startDirect endpoint managedPorts env) := by
  have hsame : SameAnswer .load (result env 0 (sendRequest endpoint managedPorts .status))
      (result env 0 (performRequest endpoint managedPorts .status)) := sameAnswer_status
  have hloads : ActionList.Move.Loads TuiItem.HasId
      (result env 0 (performRequest endpoint managedPorts .status)).reply :=
    loads_performRequest .status
  unfold startController startDirect Controlled.start
  dsimp only
  rw [hsame.reply, hsame.managedPorts, hsame.stop]
  split
  · rename_i items heq
    rw [heq] at hloads
    exact .some ⟨⟨rfl, rfl, rfl⟩, fun _ => .none, ActionList.holds_start hloads,
      fun _ _ hm => nomatch hm⟩
  · exact .none

/-- **The controller does what the agent would do itself.** However the threads of the list, the
    replies in flight, the other clients of the agent and failing connections take turns, and
    whatever the commands answer: the list over the socket and the list with the agent's own
    functions for its closures start and run alike, show the same, and leave the same managed
    ports. -/
theorem controller_runs_agent (endpoint : ClientEndpoint) (managedPorts : PortSet)
    (env : Environment) (actions : List Controlled.Action) :
    Option.Rel Controlled.SameView
      ((startController endpoint managedPorts env).bind fun s =>
        run (controllerStep endpoint) s actions)
      ((startDirect endpoint managedPorts env).bind fun t =>
        run (directStep endpoint) t actions) := by
  have hstart := tracks_start endpoint managedPorts env
  generalize startController endpoint managedPorts env = s,
    startDirect endpoint managedPorts env = t at hstart
  cases hstart with
  | none => exact .none
  | some h =>
    have hstep : ∀ s t a, Tracks s t →
        Option.Rel Tracks (controllerStep endpoint s a) (directStep endpoint t a) :=
      fun s t a h => h.step a
    have hrun := run_rel hstep h actions
    rw [Option.bind_some, Option.bind_some]
    generalize run (controllerStep endpoint) _ actions = u,
      run (directStep endpoint) _ actions = v at hrun
    cases hrun with
    | none => exact .none
    | some h => exact .some h.same

end Agent
end Lusbip
