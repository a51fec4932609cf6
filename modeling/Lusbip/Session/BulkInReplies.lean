import Lusbip.Session.BulkInLine
import Lusbip.Session.Orphans

/-!
# Replies to IN URBs

An IN URB waits in the line of its endpoint: at the worker that has taken it, or, where there
is none to take it, at the handler that serves it. From there it gets into the replies, those
on the wire and the events that are still queued. `Progress` says what a step can do to the
two, and which physical read it took the data from.
-/

namespace Lusbip

/-- A read of the device that has brought data. -/
structure PhysicalRead where
  session : Nat
  endpoint : UInt8
  /-- The URB that the read was for, if it still waited. -/
  urb : Option Urb
  data : List UInt8
  deriving DecidableEq

/-! ## The lines of a connection -/

namespace Connection

variable {prof : Profile} {c t : Connection} {a : Action} {endpoint : UInt8}

/-- The URBs that wait at the worker of the endpoint. -/
def workerLine (c : Connection) (endpoint : UInt8) : List Urb :=
  match c.ins endpoint with
  | some w => if w.phase = .stopped then [] else w.line
  | none => []

/-- The IN URB of the endpoint that the handler serves. -/
def servedAt (c : Connection) (endpoint : UInt8) : List Urb :=
  match c.phase with
  | .serving command urb _ _ => if command.header.direction = 1 ∧ urb.ep = endpoint then [urb] else []
  | _ => []

def lineAt (c : Connection) (endpoint : UInt8) : List Urb :=
  c.workerLine endpoint ++ c.servedAt endpoint

theorem workerLine_some {w : InWorker} (hw : c.ins endpoint = some w) :
    c.workerLine endpoint = if w.phase = .stopped then [] else w.line := by
  rw [workerLine, hw]

theorem servedAt_select (hp : c.phase = .select) (endpoint : UInt8) : c.servedAt endpoint = [] := by
  rw [servedAt, hp]

theorem servedAt_serving {command : SubmitCommand} {urb : Urb} {remaining : List UInt8}
    {awaiting : Option (UInt8 × Oneshot)}
    (hp : c.phase = .serving command urb remaining awaiting) (endpoint : UInt8) :
    c.servedAt endpoint =
      if command.header.direction = 1 ∧ urb.ep = endpoint then [urb] else [] := by
  rw [servedAt, hp]

/-- The lines are as long as they were, or a URB is not served any more. -/
theorem lineAt_sublist (hins : t.ins = c.ins)
    (hs : ∀ ep, (t.servedAt ep).Sublist (c.servedAt ep)) (ep : UInt8) :
    (t.lineAt ep).Sublist (c.lineAt ep) := by
  have hworker : t.workerLine ep = c.workerLine ep := by rw [workerLine, workerLine, hins]
  rw [lineAt, lineAt, hworker]
  exact (hs ep).append_left _

/-- The same for a worker that has changed in its line at most. -/
theorem lineAt_update {w : InWorker}
    (hins : t.ins = Function.update c.ins endpoint (some w)) (hphase : t.phase = c.phase)
    (hl : (t.workerLine endpoint).Sublist (c.workerLine endpoint)) (ep : UInt8) :
    (t.lineAt ep).Sublist (c.lineAt ep) := by
  have hserved : t.servedAt ep = c.servedAt ep := by rw [servedAt, servedAt, hphase]
  rw [lineAt, lineAt, hserved]
  refine List.Sublist.append_right ?_ _
  by_cases he : ep = endpoint
  · rw [he]
    exact hl
  · rw [workerLine, workerLine, hins, Function.update_of_ne he]

theorem lineAt_select (hp : c.phase = .select) (endpoint : UInt8) :
    c.lineAt endpoint = c.workerLine endpoint := by
  rw [lineAt, servedAt_select hp, List.append_nil]

/-- A URB that is sent to its worker. -/
theorem lineAt_joined {w : InWorker} (request : BulkInRequest) (hw : c.ins endpoint = some w)
    (hins : t.ins = Function.update c.ins endpoint (some (w.push (.submit request))))
    (hp : c.phase = .select) (hp' : t.phase = .select) (ep : UInt8) :
    (t.lineAt ep).Sublist (c.lineAt ep ++ if endpoint = ep then [request.urb] else []) := by
  rw [lineAt_select hp, lineAt_select hp']
  by_cases hep : endpoint = ep
  · subst hep
    have hw' : t.ins endpoint = some (w.push (.submit request)) := by
      rw [hins, Function.update_self]
    rw [if_pos rfl, workerLine_some hw, workerLine_some hw', InWorker.line_push_submit]
    by_cases hstopped : w.phase = .stopped
    · rw [if_pos (show (w.push (.submit request)).phase = .stopped from hstopped)]
      exact List.nil_sublist _
    · rw [if_neg (show ¬ (w.push (.submit request)).phase = .stopped from hstopped),
        if_neg hstopped]
  · rw [if_neg hep, List.append_nil, workerLine, workerLine, hins,
      Function.update_of_ne (Ne.symm hep)]

/-! ## URBs left to the handler -/

/-- The handler serves an IN URB where no worker can answer on its endpoint. -/
def LeftOver (c : Connection) : Prop :=
  ∀ command urb remaining awaiting, c.phase = .serving command urb remaining awaiting →
    command.header.direction = 1 →
      urb.session = c.session ∧ ∀ w, c.ins urb.ep = some w → w.phase = .stopped

theorem leftOver_init : LeftOver {} := fun _ _ _ _ h => nomatch h

/-- A worker that does not take a command has stopped. -/
theorem sendIn_closed {command : BulkInCommand} {w : InWorker}
    (h : c.sendIn endpoint command = .closed) (hw : c.ins endpoint = some w) :
    w.phase = .stopped := by
  unfold sendIn at h
  rw [hw] at h
  dsimp only [InWorker.send] at h
  split at h
  · assumption
  · split at h <;> cases h

/-- A URB for a running bulk-IN worker is not left to the handler. -/
theorem submitIn_closed {command : SubmitCommand} {urb : Urb} {w : InWorker}
    (h : c.submitIn command urb = .closed) (hdir : command.header.direction = 1)
    (hw : c.ins urb.ep = some w) : w.phase = .stopped := by
  unfold Connection.submitIn at h
  dsimp only at h
  rw [if_pos hdir] at h
  exact sendIn_closed (Sent.map_eq_closed h) hw

theorem submit_left {command : SubmitCommand} (hp : c.phase = .select)
    (h : c.submit command = some t) (ht : t.phase ≠ .select)
    (hdir : command.header.direction = 1) {w : InWorker}
    (hw : c.ins (realEp command.header) = some w) : w.phase = .stopped := by
  unfold submit at h
  split at h
  · cases h
    exact absurd hp ht
  · dsimp only at h
    split at h
    · rename_i u hu
      cases h
      -- The worker has taken the URB, and the handler goes on.
      unfold Connection.submitIn at hu
      dsimp only at hu
      rw [if_pos hdir] at hu
      obtain ⟨v, hv, rfl⟩ := Sent.map_eq_sent hu
      obtain ⟨w', hw', rfl⟩ := sendIn_sent hv
      exact absurd hp ht
    · cases h
    · rename_i hclosed
      exact submitIn_closed hclosed hdir hw

theorem LeftOver.step (h : LeftOver c) (hstep : Connection.step prof c a = some t) :
    LeftOver t := by
  intro command urb remaining awaiting hphase hdir
  have he := step_effect hstep
  cases he with
  | ignored command' hd hp => cases hp.symm.trans hphase
  | submitIn command' w hp hw hd hdir' => cases hp.symm.trans hphase
  | submitOut command' w hp hw hd hdir' => cases hp.symm.trans hphase
  | serve command' remaining' hp hr hd hn =>
    obtain ⟨rfl, rfl, -, -⟩ := HandlerPhase.serving.inj hphase
    refine ⟨rfl, fun w hw => ?_⟩
    simp only [Connection.step, hp] at hstep
    exact submit_left hp hstep (by simp) hdir hw
  | unlinkIn header seqnum endpoint ins hp hseq htold => cases hp.symm.trans hphase
  | unlinkOut header seqnum endpoint outs hp hseq htold => cases hp.symm.trans hphase
  | unlinkUnknown header seqnum hp => cases hp.symm.trans hphase
  | importRequest hp => cases hphase
  | shutdownSent endpoint remaining' outs hp htold => cases hphase
  | importDone outcome hp => cases (importDone_frame c outcome).2.2.symm.trans hphase
  | deliverIn event rest hp he =>
    cases ((deliverIn_outs c event rest).2.2.2.trans hp).symm.trans hphase
  | deliverOut event rest hp he =>
    cases ((deliverOut_ins c event rest).2.2.2.trans hp).symm.trans hphase
  | controlFlush command' urb' remaining' endpoint w hp hw =>
    obtain ⟨rfl, rfl, -, -⟩ := HandlerPhase.serving.inj hphase
    exact h _ _ _ _ hp hdir
  | controlFailed a command' urb' remaining' awaiting' endpoint err hp ha => cases hphase
  | controlPassed command' urb' remaining' endpoint sender w hp hw hr =>
    obtain ⟨rfl, rfl, -, -⟩ := HandlerPhase.serving.inj hphase
    exact h _ _ _ _ hp hdir
  | execute host command' urb' device hp hd =>
    rcases execute_phase prof c command' urb' device host with hsel | hpan
    · cases hsel.symm.trans hphase
    · cases hpan.symm.trans hphase
  -- A worker that has stopped does not move, so it is one of another endpoint.
  | inFlush endpoint w out o seqnum len hw ho hout hwp =>
    obtain ⟨hs, hstopped⟩ := h _ _ _ _ hphase hdir
    refine ⟨hs, ?_⟩
    have hne : urb.ep ≠ endpoint := by
      rintro rfl
      cases (hstopped w hw).symm.trans hwp
    intro v hv
    replace hv : Function.update c.ins endpoint _ urb.ep = some v := hv
    rw [Function.update_of_ne hne] at hv
    exact hstopped v hv
  | inMove endpoint move w w' events hw hs hf hb =>
    obtain ⟨hs', hstopped⟩ := h _ _ _ _ hphase hdir
    refine ⟨hs', ?_⟩
    have hne : urb.ep ≠ endpoint := by
      rintro rfl
      cases (InWorker.step_of_stopped (hstopped w hw) move).symm.trans hs
    intro v hv
    replace hv : Function.update c.ins endpoint _ urb.ep = some v := hv
    rw [Function.update_of_ne hne] at hv
    exact hstopped v hv
  | outMove endpoint move w w' events hw hs => exact h _ _ _ _ hphase hdir

/-- A read that the handler has to serve itself, since the worker of its endpoint has ended,
    finds none of the worker's events in the queue. -/
def WaitsItsTurn (c : Connection) : Action → Prop
  | .submit command => command.header.direction = 1 →
      (∀ w ∈ c.ins (realEp command.header), w.phase = .stopped) →
        ∀ event ∈ c.inEvents,
          ¬ (event.urb.session = c.session ∧ event.urb.ep = realEp command.header)
  | _ => True

instance (c : Connection) : ∀ a : Action, Decidable (c.WaitsItsTurn a)
  | .submit command => inferInstanceAs (Decidable (command.header.direction = 1 →
      (∀ w ∈ c.ins (realEp command.header), w.phase = .stopped) →
        ∀ event ∈ c.inEvents,
          ¬ (event.urb.session = c.session ∧ event.urb.ep = realEp command.header)))
  | .unlink _ _ | .importRequest | .shutdownSent _ | .importDone _ | .deliverIn | .deliverOut
  | .controlFlush _ | .controlResult | .execute _ | .inFlush _ | .inBarrier _ | .inOpened _ _
  | .inCommand _ | .inCompletion _ _ | .outMove _ _ => isTrue trivial

/-- No event that is queued is of the endpoint at which the handler serves a read. -/
def ServesBehind (c : Connection) : Prop :=
  ∀ command urb remaining awaiting, c.phase = .serving command urb remaining awaiting →
    command.header.direction = 1 → ∀ event ∈ c.inEvents,
      ¬ (event.urb.session = urb.session ∧ event.urb.ep = urb.ep)

theorem servesBehind_init : ServesBehind {} := fun _ _ _ _ h => nomatch h

/-- A worker that has ended sends no event, so none comes in behind the read's back. -/
theorem ServesBehind.step (h : ServesBehind c) (hleft : LeftOver c) (hturn : c.WaitsItsTurn a)
    (hown : ∀ ep w w' move events, c.ins ep = some w → w.step move = some (w', events) →
      ∀ event ∈ events, event.urb.ep = ep)
    (hstep : Connection.step prof c a = some t) : ServesBehind t := by
  intro command urb remaining awaiting hphase hdir event hm hkey
  have he := step_effect hstep
  rcases he.inEvent hm with hm | ⟨endpoint, move, w, w', events, ha, hw, hs, -, -, hevent⟩
  · rcases he.serving hphase with ⟨rfl, hp, rfl, -⟩ | ⟨remaining', awaiting', hp, -⟩
    · simp only [Connection.step, hp] at hstep
      have hclosed : ∀ w ∈ c.ins (realEp command.header), w.phase = .stopped :=
        fun w hw => submit_left hp hstep (by simp [hphase]) hdir hw
      exact hturn hdir hclosed event hm hkey
    · exact h command urb remaining' awaiting' hp hdir event hm hkey
  · rcases he.serving hphase with ⟨rfl, -⟩ | ⟨remaining', awaiting', hp, -⟩
    · cases move <;> cases ha
    · have hep : urb.ep = endpoint :=
        hkey.2.symm.trans (hown endpoint w w' move events hw hs event hevent)
      have hstopped := (hleft command urb remaining' awaiting' hp hdir).2 w (hep ▸ hw)
      cases (InWorker.step_of_stopped hstopped move).symm.trans hs

end Connection

/-! ## What is answered -/

namespace Chronicle

variable {prof : Profile} {torn : Urb → Nat} {s t : Chronicle} {a : Action}

/-- The URB is of an IN transfer. -/
def isRead (s : Chronicle) (urb : Urb) : Bool :=
  s.submits.any fun p => p.1 = urb ∧ p.2.header.direction = 1

/-- The IN URB that a reply answers, with the response. -/
def readReply? (s : Chronicle) : Reply → Option (Urb × UsbIpResponse)
  | .submit _ urb _ response => if s.isRead urb then some (urb, response) else none
  | _ => none

/-- The replies to IN URBs on the wire. -/
def answered (s : Chronicle) : List (Urb × UsbIpResponse) := s.conn.wire.filterMap s.readReply?

/-- The events that are not delivered yet. -/
def queued (s : Chronicle) : List (Urb × UsbIpResponse) :=
  s.conn.inEvents.map fun event => (event.urb, event.response)

/-- The replies to IN URBs, written or on their way. -/
def replies (s : Chronicle) : List (Urb × UsbIpResponse) := s.answered ++ s.queued

theorem Dated.isRead_eq (h : Dated s) {urb : Urb} {command : SubmitCommand}
    (hm : (urb, command) ∈ s.submits) : s.isRead urb = decide (command.header.direction = 1) := by
  rw [isRead, Bool.eq_iff_iff, List.any_eq_true, decide_eq_true_eq]
  constructor
  · rintro ⟨⟨urb', command'⟩, hm', heq⟩
    obtain ⟨rfl, hdir⟩ := of_decide_eq_true heq
    rwa [h.unique hm hm']
  · exact fun hdir => ⟨(urb, command), hm, decide_eq_true ⟨rfl, hdir⟩⟩

/-- What has been answered stays so, and the new replies come behind it. -/
theorem answered_append (h : Traced (fun _ _ => True) s) (hd : Dated s) (hd' : Dated t)
    (hsub : s.submits ⊆ t.submits) {new : List Reply} (hw : t.conn.wire = s.conn.wire ++ new) :
    t.answered = s.answered ++ new.filterMap t.readReply? := by
  rw [answered, hw, List.filterMap_append, answered]
  congr 1
  refine List.filterMap_congr fun reply hr => ?_
  cases reply with
  | submit n urb source response =>
    obtain ⟨command, hm, -⟩ := h.wire n urb source response hr
    rw [readReply?, readReply?, hd'.isRead_eq (hsub hm), hd.isRead_eq hm]
  | imported n response => rfl
  | unlink n seqnum response => rfl

theorem readReply_of_answers {R : SubmitCommand → UsbIpResponse → Prop} (hd : Dated t)
    {urb : Urb} {direction : UInt32} {response : UsbIpResponse}
    (h : Answers R t.submits urb (some direction) response) (n : Nat) (source : Source) :
    t.readReply? (.submit n urb source response) =
      if direction = 1 then some (urb, response) else none := by
  obtain ⟨command, hm, -, hdir⟩ := h
  rw [readReply?, hd.isRead_eq hm, hdir direction rfl]
  simp

/-- Every URB that is answered has been dispatched. -/
theorem Traced.replies_submitted (h : Traced (fun _ _ => True) s) {p : Urb × UsbIpResponse}
    (hp : p ∈ s.replies) : ∃ command, (p.1, command) ∈ s.submits := by
  rcases List.mem_append.mp hp with hp | hp
  · obtain ⟨reply, hr, heq⟩ := List.mem_filterMap.mp hp
    cases reply with
    | submit n urb source response =>
      rw [readReply?] at heq
      split at heq
      · cases heq
        obtain ⟨command, hm, -⟩ := h.wire n urb source response hr
        exact ⟨command, hm⟩
      · cases heq
    | imported n response => cases heq
    | unlink n seqnum response => cases heq
  · obtain ⟨event, he, rfl⟩ := List.mem_map.mp hp
    obtain ⟨command, hm, -⟩ := h.inEvents event he
    exact ⟨command, hm⟩

/-- So has every URB that waits; it is of the session, and of the endpoint it waits at. -/
theorem Traced.line_submitted (h : Traced (fun _ _ => True) s) (hl : s.conn.LeftOver)
    {endpoint : UInt8} {urb : Urb} (hu : urb ∈ s.conn.lineAt endpoint) :
    urb.session = s.conn.session ∧ urb.ep = endpoint ∧
      ∃ command, (urb, command) ∈ s.submits := by
  rcases List.mem_append.mp hu with hu | hu
  · cases hw : s.conn.ins endpoint with
    | none =>
      rw [Connection.workerLine, hw] at hu
      cases hu
    | some w =>
      rw [Connection.workerLine_some hw] at hu
      split at hu
      · cases hu
      · obtain ⟨request, hr, rfl⟩ := InWorker.mem_line hu
        obtain ⟨hsession, hep, command, hm, -⟩ := h.ins endpoint w hw request hr
        exact ⟨hsession, hep, command, hm⟩
  · unfold Connection.servedAt at hu
    split at hu
    · rename_i command urb' remaining awaiting hp
      split at hu
      · rename_i hserved
        obtain rfl := List.mem_singleton.mp hu
        exact ⟨(hl _ _ _ _ hp hserved.1).1, hserved.2, command, h.serving _ _ _ _ hp⟩
      · cases hu
    · cases hu

/-! ## The physical reads -/

/-- The read that a successful reply brings the data of. -/
def delivery? (p : Urb × UsbIpResponse) : Option PhysicalRead :=
  p.2.successPayload?.map fun data => ⟨p.1.session, p.1.ep, some p.1, data⟩

/-- The read that an action completes with data. A URB that the handler executes is read and
    answered in one step. -/
def readBy (prof : Profile) (c : Connection) : Action → List PhysicalRead
  | .inCompletion endpoint (.ok buffer) =>
      match c.ins endpoint with
      | some w => [⟨c.session, endpoint, w.activeRequest.map (·.urb), buffer⟩]
      | none => []
  | .execute host =>
      match c.phase, c.device with
      | .serving command urb _ _, some device =>
          match handleUsbipCmdSubmit prof command.header command.transferBufferLength
              command.setup command.data device host with
          | .ok response =>
              if command.header.direction = 1 then (delivery? (urb, response)).toList else []
          | .error _ => []
      | _, _ => []
  | _ => []

/-- A failed reply has no data, and no event has data but that of a completion. -/
theorem readBy_inMove {endpoint : UInt8} {move : InMove} {w w' : InWorker}
    {events : List BulkInEvent} (h : Traced (fun _ _ => True) s)
    (hw : s.conn.ins endpoint = some w) (hs : w.step move = some (w', events)) :
    ((events.map fun event => (event.urb, event.response)).filterMap delivery?).Sublist
      (readBy prof s.conn (move.action endpoint)) := by
  -- Any move but a completed read is answered with failures, which carry no data.
  have hfail : ∀ event ∈ events, (∀ buffer, move ≠ .completion (.ok buffer)) →
      delivery? (event.urb, event.response) = none := by
    intro event he hm
    obtain ⟨request, hr⟩ := InWorker.step_responds hs event he
    rcases hr.response with hresp | ⟨buffer, rfl, -⟩
    · rw [delivery?, hresp]
      rfl
    · exact absurd rfl (hm buffer)
  by_cases hm : ∃ buffer, move = .completion (.ok buffer)
  · obtain ⟨buffer, rfl⟩ := hm
    have hread : readBy prof s.conn ((InMove.completion (.ok buffer)).action endpoint) =
        [⟨s.conn.session, endpoint, w.activeRequest.map (·.urb), buffer⟩] := by
      simp only [InMove.action, readBy, hw]
    rw [hread]
    have hcomplete : (w.complete (.ok buffer)).2 = events := by
      cases InWorker.step_turn hs
      rfl
    cases ha : w.activeRequest with
    | none =>
      rw [← hcomplete, (InWorker.complete_of_none ha _).2]
      exact List.nil_sublist _
    | some request =>
      obtain ⟨-, -, seqnum, hevents⟩ := InWorker.complete_of_some ha (.ok buffer)
      obtain ⟨hsession, hep, -⟩ :=
        h.ins endpoint w hw request (InWorker.holds_of_activeRequest ha)
      have hdelivery : delivery? (request.urb,
          InWorker.completionResponse (.ok buffer) (bulkInResponseHeader request.header)) =
            some ⟨s.conn.session, endpoint, some request.urb, buffer⟩ := by
        rw [← hsession, ← hep]
        rfl
      rw [← hcomplete, hevents]
      simp only [List.map_cons, List.map_nil, List.filterMap_cons, InWorker.answer, hdelivery,
        List.filterMap_nil, Option.map_some]
      exact List.Sublist.refl _
  · have hnil : (events.map fun event => (event.urb, event.response)).filterMap delivery? = [] := by
      refine List.filterMap_eq_nil_iff.mpr fun p hp => ?_
      obtain ⟨event, he, rfl⟩ := List.mem_map.mp hp
      exact hfail event he fun buffer hbuffer => hm ⟨buffer, hbuffer⟩
    rw [hnil]
    exact List.nil_sublist _

/-! ## What a step does -/

/-- A step leaves replies and lines as they are or cuts them short, lets a URB join its line,
    or answers URBs: the handler the one that it serves, a worker those at its head. -/
inductive Progress (prof : Profile) (s : Chronicle) (a : Action) (t : Chronicle) : Prop where
  | passed (hr : t.replies.Sublist s.replies)
      (hl : ∀ ep, (t.conn.lineAt ep).Sublist (s.conn.lineAt ep))
  | joined (command : SubmitCommand) (hr : t.replies = s.replies)
      (hl : ∀ ep, (t.conn.lineAt ep).Sublist (s.conn.lineAt ep ++
        if realEp command.header = ep then [s.conn.urbOf command] else []))
  | served (command : SubmitCommand) (urb : Urb) (remaining : List UInt8)
      (awaiting : Option (UInt8 × Oneshot)) (response : UsbIpResponse)
      (hp : s.conn.phase = .serving command urb remaining awaiting)
      (hdir : command.header.direction = 1)
      (hr : t.replies = s.answered ++ (urb, response) :: s.queued)
      (hl : ∀ ep, t.conn.lineAt ep = s.conn.workerLine ep)
      (hread : (delivery? (urb, response)).toList.Sublist (readBy prof s.conn a))
  | moved (endpoint : UInt8) (w w' : InWorker) (move : InMove) (events : List BulkInEvent)
      (hw : s.conn.ins endpoint = some w) (hs : w.step move = some (w', events))
      (ha : a = move.action endpoint)
      (hr : t.replies = s.replies ++ events.map fun event => (event.urb, event.response))
      (hl : ∀ ep, ep ≠ endpoint → t.conn.lineAt ep = s.conn.lineAt ep)
      (hline : t.conn.lineAt endpoint =
        (if w'.phase = .stopped then [] else w'.line) ++ s.conn.servedAt endpoint)

/-- The lines after a step that leaves the IN workers and the served URB as they are. -/
theorem Progress.of_frame (hins : t.conn.ins = s.conn.ins)
    (hserved : ∀ ep, (t.conn.servedAt ep).Sublist (s.conn.servedAt ep))
    (hr : t.replies.Sublist s.replies) : Progress prof s a t :=
  .passed hr (Connection.lineAt_sublist hins hserved)

/-- A step that writes no reply to an IN URB, and queues no event, adds nothing. -/
theorem replies_same (h : Traced (fun _ _ => True) s) (hd : Dated s) (hd' : Dated t)
    (hsub : s.submits ⊆ t.submits) {new : List Reply} (hw : t.conn.wire = s.conn.wire ++ new)
    (hnew : new.filterMap t.readReply? = []) (hine : t.conn.inEvents = s.conn.inEvents) :
    t.replies = s.replies := by
  rw [replies, answered_append h hd hd' hsub hw, hnew, List.append_nil, queued, hine]
  rfl

/-- The reply of the handler comes after those that are written and before those queued. -/
theorem replies_handler (h : Traced (fun _ _ => True) s) (hd : Dated s) (hd' : Dated t)
    (hsub : s.submits ⊆ t.submits) {command : SubmitCommand} {urb : Urb} {n : Nat}
    {source : Source} {response : UsbIpResponse} (hm : (urb, command) ∈ s.submits)
    (hw : t.conn.wire = s.conn.wire ++ [.submit n urb source response])
    (hine : t.conn.inEvents = s.conn.inEvents) :
    t.replies = s.answered ++
      (if command.header.direction = 1 then [(urb, response)] else []) ++ s.queued := by
  rw [replies, answered_append h hd hd' hsub hw, List.filterMap_cons, readReply?,
    hd'.isRead_eq (hsub hm), queued, hine]
  by_cases hdir : command.header.direction = 1 <;> simp [hdir] <;> rfl

theorem progress_importDone {outcome : ImportOutcome} (h : Traced (fun _ _ => True) s)
    (hd : Dated s) (hd' : Dated t) (hsub : s.submits ⊆ t.submits)
    (hc : t.conn = s.conn.importDone outcome) : Progress prof s a t := by
  obtain ⟨hine, -, hphase⟩ := Connection.importDone_frame s.conn outcome
  have hwire : ∃ new, (s.conn.importDone outcome).wire = s.conn.wire ++ new ∧
      new.filterMap t.readReply? = [] := by
    cases outcome with
    | rejected => exact ⟨[], (List.append_nil _).symm, rfl⟩
    | refused => exact ⟨[_], rfl, rfl⟩
    | succeeded device opens => exact ⟨[_], rfl, rfl⟩
  rw [← hc] at hine hphase hwire
  obtain ⟨new, hwire, hnew⟩ := hwire
  refine .passed (replies_same h hd hd' hsub hwire hnew hine ▸ List.Sublist.refl _) fun ep => ?_
  -- The workers are new, so that no URB waits at them.
  have hline : t.conn.workerLine ep = [] := by
    cases hw : t.conn.ins ep with
    | none => rw [Connection.workerLine, hw]
    | some w =>
      obtain ⟨out, rfl⟩ := Connection.importDone_ins (hc ▸ hw)
      rw [Connection.workerLine_some hw]
      split <;> rfl
  rw [Connection.lineAt, hline, Connection.servedAt_select hphase]
  exact List.nil_sublist _

/-- An event that is delivered was the first one queued, and becomes the last one written, or
    is dropped. -/
theorem progress_deliverIn {event : BulkInEvent} {rest : List BulkInEvent}
    (h : Traced (fun _ _ => True) s) (hd : Dated s) (hd' : Dated t)
    (hsub : s.submits ⊆ t.submits) (he : s.conn.inEvents = event :: rest)
    (hc : t.conn = s.conn.deliverIn event rest) : Progress prof s a t := by
  obtain ⟨hrest, hins, -⟩ := Connection.deliverIn_frame s.conn event rest
  obtain ⟨-, -, -, hphase⟩ := Connection.deliverIn_outs s.conn event rest
  have hwire := Connection.deliverIn_wire s.conn event rest
  rw [← hc] at hrest hins hphase hwire
  refine .of_frame hins (fun ep => ?_) ?_
  · rw [Connection.servedAt, Connection.servedAt, hphase]
  · have hqueued : s.queued = (event.urb, event.response) :: rest.map fun event =>
        (event.urb, event.response) := by
      rw [queued, he]
      rfl
    rw [replies, answered_append h hd hd' hsub hwire, queued, hrest, replies, hqueued,
      List.append_assoc]
    refine List.Sublist.append_left ?_ _
    split
    · have hanswers := (h.inEvents event (he ▸ List.mem_cons_self)).mono hsub
      rw [List.filterMap_cons, readReply_of_answers hd' hanswers, if_pos rfl]
      exact List.Sublist.refl _
    · exact List.sublist_cons_self _ _

theorem progress_deliverOut {event : BulkOutEvent} {rest : List BulkOutEvent}
    (h : Traced (fun _ _ => True) s) (hd : Dated s) (hd' : Dated t)
    (hsub : s.submits ⊆ t.submits) (he : s.conn.outEvents = event :: rest)
    (hc : t.conn = s.conn.deliverOut event rest) : Progress prof s a t := by
  obtain ⟨hins, hine, -, hphase⟩ := Connection.deliverOut_ins s.conn event rest
  have hwire : ∃ new, (s.conn.deliverOut event rest).wire = s.conn.wire ++ new ∧
      ∀ reply ∈ new, reply = .submit s.conn.session event.urb .bulkOut event.response := by
    rw [Connection.deliverOut_eq]
    split
    · refine ⟨_, rfl, fun reply hr => ?_⟩
      split at hr
      · exact List.mem_singleton.mp hr
      · cases hr
    · exact ⟨[], (List.append_nil _).symm, fun _ hr => nomatch hr⟩
  rw [← hc] at hins hine hphase hwire
  obtain ⟨new, hwire, hnew⟩ := hwire
  have hanswers := (h.outEvents event (he ▸ List.mem_cons_self)).mono hsub
  have hnone : new.filterMap t.readReply? = [] := by
    refine List.filterMap_eq_nil_iff.mpr fun reply hr => ?_
    rw [hnew reply hr, readReply_of_answers hd' hanswers]
    rfl
  refine .of_frame hins (fun ep => ?_)
    (replies_same h hd hd' hsub hwire hnone hine ▸ List.Sublist.refl _)
  rw [Connection.servedAt, Connection.servedAt, hphase]

/-- The handler is through with the URB that it serves, and writes a reply to it. -/
theorem progress_answer {command : SubmitCommand} {urb : Urb} {remaining : List UInt8}
    {awaiting : Option (UInt8 × Oneshot)} {response : UsbIpResponse} {n : Nat} {source : Source}
    (h : Traced (fun _ _ => True) s) (hd : Dated s) (hd' : Dated t)
    (hsub : s.submits ⊆ t.submits)
    (hp : s.conn.phase = .serving command urb remaining awaiting)
    (hwire : t.conn.wire = s.conn.wire ++ [.submit n urb source response])
    (hine : t.conn.inEvents = s.conn.inEvents) (hins : t.conn.ins = s.conn.ins)
    (hserved : ∀ ep, t.conn.servedAt ep = [])
    (hread : command.header.direction = 1 →
      (delivery? (urb, response)).toList.Sublist (readBy prof s.conn a)) :
    Progress prof s a t := by
  have hreplies := replies_handler h hd hd' hsub (h.serving _ _ _ _ hp) hwire hine
  by_cases hdir : command.header.direction = 1
  · refine .served command urb remaining awaiting response hp hdir ?_ (fun ep => ?_) (hread hdir)
    · rw [hreplies, if_pos hdir, List.append_assoc]
      rfl
    · rw [Connection.lineAt, hserved, List.append_nil, Connection.workerLine,
        Connection.workerLine, hins]
  · refine .of_frame hins (fun ep => hserved ep ▸ List.nil_sublist _) ?_
    rw [hreplies, if_neg hdir, List.append_nil]
    exact List.Sublist.refl _

theorem progress_execute {command : SubmitCommand} {urb : Urb} {device : UsbDevice} {host : Host}
    (h : Traced (fun _ _ => True) s) (hd : Dated s) (hd' : Dated t)
    (hsub : s.submits ⊆ t.submits) (hp : s.conn.phase = .serving command urb [] none)
    (hdev : s.conn.device = some device)
    (hc : t.conn = s.conn.execute prof command urb device host) :
    Progress prof s (.execute host) t := by
  obtain ⟨hins, -, hine, -, -⟩ := Connection.execute_frame prof s.conn command urb device host
  have hphase := Connection.execute_phase prof s.conn command urb device host
  rw [← hc] at hins hine hphase
  have hserved : ∀ ep, t.conn.servedAt ep = [] := by
    intro ep
    rw [Connection.servedAt]
    rcases hphase with hphase | hphase
    · rw [hphase]
    · rw [hphase]
  cases hresult : handleUsbipCmdSubmit prof command.header command.transferBufferLength
      command.setup command.data device host with
  | error err =>
    have hwire : t.conn.wire = s.conn.wire ++ [] := by
      rw [hc, Connection.execute]
      dsimp only
      rw [hresult, List.append_nil]
      cases err <;> rfl
    exact .of_frame hins (fun ep => hserved ep ▸ List.nil_sublist _)
      (replies_same h hd hd' hsub hwire rfl hine ▸ List.Sublist.refl _)
  | ok response =>
    have hwire : t.conn.wire =
        s.conn.wire ++ [.submit s.conn.session urb .handler response] := by
      rw [hc, Connection.execute]
      dsimp only
      rw [hresult]
      rfl
    refine progress_answer h hd hd' hsub hp hwire hine hins hserved fun hdir => ?_
    simp only [readBy, hp, hdev, hresult, hdir, if_true]
    exact List.Sublist.refl _

theorem progress_inMove {endpoint : UInt8} {move : InMove} {w w' : InWorker}
    {events : List BulkInEvent} (h : Traced (fun _ _ => True) s) (hd : Dated s) (hd' : Dated t)
    (hsub : s.submits ⊆ t.submits) (hw : s.conn.ins endpoint = some w)
    (hs : w.step move = some (w', events))
    (hc : t.conn = { s.conn with
      ins := Function.update s.conn.ins endpoint (some w')
      inEvents := s.conn.inEvents ++ events }) :
    Progress prof s (move.action endpoint) t := by
  obtain ⟨c, submits, handed⟩ := t
  subst hc
  refine .moved endpoint w w' move events hw hs rfl ?_ (fun ep hep => ?_) ?_
  · have hanswered : (Chronicle.mk _ submits handed).answered = s.answered :=
      (answered_append h hd hd' hsub (List.append_nil _).symm).trans (List.append_nil _)
    rw [replies, hanswered, queued, List.map_append, ← List.append_assoc]
    rfl
  · rw [Connection.lineAt, Connection.lineAt, Connection.workerLine, Connection.workerLine]
    dsimp only
    rw [Function.update_of_ne hep]
    rfl
  · rw [Connection.lineAt, Connection.workerLine_some (Function.update_self ..)]
    rfl

theorem progress (h : Traced (fun _ _ => True) s) (hd : Dated s) (hd' : Dated t)
    (ht : step prof torn s a = some t) : Progress prof s a t := by
  obtain ⟨c, submits, handed⟩ := t
  obtain ⟨he, rfl, rfl⟩ : Connection.Effect prof s.conn a c ∧
    submits = s.submits ++ dispatchedBy s.conn a ∧ handed = s.handedAfter torn a := step_eq_some ht
  have hsub : s.submits ⊆ s.submits ++ dispatchedBy s.conn a := List.subset_append_left _ _
  -- Most steps leave the replies to reads as they are, and only their line may change.
  have hsame : ∀ new : List Reply, c.wire = s.conn.wire ++ new →
      new.filterMap (Chronicle.mk c (s.submits ++ dispatchedBy s.conn a)
        (s.handedAfter torn a)).readReply? = [] → c.inEvents = s.conn.inEvents →
      (Chronicle.mk c (s.submits ++ dispatchedBy s.conn a) (s.handedAfter torn a)).replies =
        s.replies := fun _ hw hnew hine => replies_same h hd hd' hsub hw hnew hine
  cases he with
  | ignored command hdev hp =>
    exact .of_frame rfl (fun _ => List.Sublist.refl _)
      (hsame [] (List.append_nil _).symm rfl rfl ▸ List.Sublist.refl _)
  | submitIn command w hp hw hdev hdir =>
    refine .joined command (hsame [] (List.append_nil _).symm rfl rfl) fun ep => ?_
    refine Connection.lineAt_joined
      ⟨command.header, command.transferBufferLength, s.conn.urbOf command⟩ hw ?_ hp ?_ ep
    · rfl
    · exact hp
  | submitOut command w hp hw hdev hdir =>
    exact .of_frame rfl (fun _ => List.Sublist.refl _)
      (hsame [] (List.append_nil _).symm rfl rfl ▸ List.Sublist.refl _)
  | serve command remaining hp hr hdev hn =>
    refine .joined command (hsame [] (List.append_nil _).symm rfl rfl) fun ep => ?_
    have hserved : s.conn.servedAt ep = [] := Connection.servedAt_select hp ep
    rw [Connection.lineAt, Connection.lineAt, hserved, List.append_nil]
    refine List.Sublist.append_left ?_ _
    rw [Connection.servedAt]
    dsimp only
    split
    · rename_i hdir
      rw [if_pos (show realEp command.header = ep from hdir.2)]
    · exact List.nil_sublist _
  | unlinkIn header seqnum endpoint ins hp hseq htold =>
    refine .passed (hsame [_] rfl rfl rfl ▸ List.Sublist.refl _) ?_
    rcases htold with rfl | ⟨w, hw, rfl⟩
    · exact fun ep => List.Sublist.refl _
    · refine Connection.lineAt_update rfl rfl ?_
      rw [Connection.workerLine_some hw, Connection.workerLine_some (Function.update_self ..),
        InWorker.line_push_unlink]
      exact List.Sublist.refl _
  | unlinkOut header seqnum endpoint outs hp hseq htold =>
    exact .of_frame rfl (fun _ => List.Sublist.refl _)
      (hsame [_] rfl rfl rfl ▸ List.Sublist.refl _)
  | unlinkUnknown header seqnum hp =>
    exact .of_frame rfl (fun _ => List.Sublist.refl _)
      (hsame [_] rfl rfl rfl ▸ List.Sublist.refl _)
  | importRequest hp =>
    exact .passed (hsame [] (List.append_nil _).symm rfl rfl ▸ List.Sublist.refl _)
      fun ep => List.nil_sublist _
  | shutdownSent endpoint remaining outs hp htold =>
    exact .of_frame rfl (fun ep => List.nil_sublist _)
      (hsame [] (List.append_nil _).symm rfl rfl ▸ List.Sublist.refl _)
  | importDone outcome hp => exact progress_importDone h hd hd' hsub rfl
  | deliverIn event rest hp he => exact progress_deliverIn h hd hd' hsub he rfl
  | deliverOut event rest hp he => exact progress_deliverOut h hd hd' hsub he rfl
  | controlFlush command urb remaining endpoint w hp hw =>
    refine .of_frame rfl (fun ep => ?_)
      (hsame [] (List.append_nil _).symm rfl rfl ▸ List.Sublist.refl _)
    rw [Connection.servedAt_serving hp]
    exact List.Sublist.refl _
  | controlFailed a command urb remaining awaiting endpoint err hp ha =>
    exact progress_answer h hd hd' hsub hp rfl rfl rfl (fun _ => rfl) fun _ => List.nil_sublist _
  | controlPassed command urb remaining endpoint sender w hp hw hr =>
    refine .of_frame rfl (fun ep => ?_)
      (hsame [] (List.append_nil _).symm rfl rfl ▸ List.Sublist.refl _)
    rw [Connection.servedAt_serving hp]
    exact List.Sublist.refl _
  | execute host command urb device hp hdev => exact progress_execute h hd hd' hsub hp hdev rfl
  | inFlush endpoint w out o seqnum len hw ho hout hwp =>
    refine .passed (hsame [] (List.append_nil _).symm rfl rfl ▸ List.Sublist.refl _)
      (Connection.lineAt_update rfl rfl ?_)
    rw [Connection.workerLine_some hw, Connection.workerLine_some (Function.update_self ..),
      if_neg (by simp), if_neg (by simp [hwp])]
    exact List.Sublist.refl _
  | inMove endpoint move w w' events hw hs hf hb => exact progress_inMove h hd hd' hsub hw hs rfl
  | outMove endpoint move w w' events hw hs =>
    exact .of_frame rfl (fun _ => List.Sublist.refl _)
      (hsame [] (List.append_nil _).symm rfl rfl ▸ List.Sublist.refl _)

end Chronicle
end Lusbip
