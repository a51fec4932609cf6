import Lusbip.Usb.Performed
import Lusbip.Session.Outcomes
import Lusbip.Session.Workers

/-!
# Replies that report success

A URB is answered by the handler or by one of the bulk workers. `Reports` watches a connection and
notes whose transfers the host performs: a read of a worker that succeeds, the writes that a flush
puts through or that the writer sends by itself, a URB of the handler whose last call succeeds or
that the handler can answer alone. A `RET_SUBMIT` with status 0 should be about one of them.

Two things speak against it. The handler drops an error here and there, and the next reply is then
a lie. And a bulk-OUT worker answers a write once its own buffer has taken the bytes; the device
gets them when the buffer is full, or with a flush that comes later, or fails. So no reply lies
exactly if nothing is dropped along the run, and the event of a write is delivered when its bytes
have left the buffer.
-/

namespace Lusbip

/-- The URB whose bytes a move of the worker puts into the buffer of its writer. -/
def OutWorker.takenBy (w : OutWorker) (move : OutMove) : List Urb :=
  match w.phase, move with
  | .busy (.submit request), .io (.ok ()) => [request.urb]
  | _, _ => []

/-- The URBs whose bytes a move of the worker gets to the device: a flush that succeeds empties
    the buffer. -/
def OutWorker.flushedBy (w : OutWorker) (move : OutMove) : List Urb :=
  match w.phase, move with
  | .busy (.flush _), .io (.ok ()) => w.buffered
  | .busy (.shutdown _), .io (.ok ()) => w.buffered
  | .receiving, .idleFlush (.ok ()) => w.buffered
  | _, _ => []

/-- What comes next of a connection and its device. -/
inductive ReportsAction where
  | run (a : Action)
  /-- The writer of an OUT worker has got the bytes of its oldest writes to the device by itself:
      it sends a buffer that is full without being asked to. -/
  | drained (endpoint : UInt8) (count : Nat)

/-- A connection, with what its device has done. -/
structure Reports where
  conn : Connection := {}
  /-- The URBs whose bytes the writer of a bulk-OUT worker has taken. -/
  taken : List Urb := []
  /-- The URBs whose transfers the host has performed, with who had them. -/
  performed : List (Urb × Source) := []

namespace Reports

open Lib.Transition

/-- The URBs whose bytes an action puts into the buffer of a writer. -/
def takenBy (c : Connection) : Action → List Urb
  | .outMove endpoint move =>
      match c.outs endpoint with
      | some w => w.takenBy move
      | none => []
  | _ => []

/-- The URBs whose transfers an action performs. -/
def performedBy (prof : Profile) (c : Connection) : Action → List (Urb × Source)
  | .execute host =>
      match c.phase, c.device with
      | .serving command urb _ _, some device =>
          if urbPerformed prof command.header command.transferBufferLength command.setup
            command.data device host then [(urb, .handler)] else []
      | _, _ => []
  | .inCompletion endpoint (.ok _) =>
      match (c.ins endpoint).bind fun w => w.activeSeqnum.bind w.requests with
      | some request => [(request.urb, .bulkIn endpoint)]
      | none => []
  | .outMove endpoint move =>
      match c.outs endpoint with
      | some w => (w.flushedBy move).map (·, .bulkOut)
      | none => []
  | _ => []

def step (prof : Profile) (s : Reports) : ReportsAction → Option Reports
  | .run a =>
      (s.conn.step prof a).map fun c =>
        { conn := c
          taken := s.taken ++ takenBy s.conn a
          performed := s.performed ++ performedBy prof s.conn a }
  | .drained endpoint count =>
      (s.conn.outs endpoint).map fun w =>
        { s with performed := s.performed ++ (w.buffered.take count).map (·, .bulkOut) }

/-- The bytes of the URB are in the buffer of a writer, or have been lost with it. -/
def Buffered (s : Reports) (urb : Urb) : Prop := urb ∈ s.taken ∧ (urb, .bulkOut) ∉ s.performed

/-- A URB that is told to have succeeded has been performed, by who had it. -/
def Honest (s : Reports) : Prop :=
  ∀ n urb source response, .submit n urb source response ∈ s.conn.wire →
    response.submitStatus? = some 0 → (urb, source) ∈ s.performed

/-- The handler drops nothing when it executes a URB, and takes a bulk-OUT URB for completed
    only once its bytes have left the buffer. -/
def Passes (prof : Profile) (s : Reports) : ReportsAction → Prop
  | .run (.execute host) => ∀ command urb device, s.conn.phase = .serving command urb [] none →
      s.conn.device = some device →
      NothingDropped prof command.header command.transferBufferLength command.setup command.data
        device host
  | .run .deliverOut => ∀ event rest, s.conn.outEvents = event :: rest →
      event.generation = s.conn.bulkOutGeneration → event.seqnum ∈ s.conn.pendingBulkOut →
      event.response.submitStatus? = some 0 → ¬ s.Buffered event.urb
  | _ => True

end Reports

/-! ## What the workers report -/

/-- At the barrier of a read, only failures are answered. -/
theorem InWorker.afterBarrier_failed {w : InWorker} {seqnum len : UInt32}
    {result : Except String Unit} {event : BulkInEvent}
    (hm : event ∈ (w.afterBarrier seqnum len result).2) :
    event.response.submitStatus? ≠ some 0 := by
  unfold afterBarrier at hm
  dsimp only at hm
  split at hm
  · cases result with
    | ok u => cases hm
    | error err =>
      dsimp only [failBarrier] at hm
      split at hm
      · rw [List.mem_singleton.mp hm]
        exact usbipRetSubmitFail_status _ _
      · cases hm
  · cases hm

theorem InWorker.step_honest {w w' : InWorker} {move : InMove} {events : List BulkInEvent}
    (h : w.step move = some (w', events)) {event : BulkInEvent} (hm : event ∈ events)
    (hstatus : event.response.submitStatus? = some 0) :
    ∃ buffer seqnum request, move = .completion (.ok buffer) ∧ w.activeSeqnum = some seqnum ∧
      w.requests seqnum = some request ∧ event.urb = request.urb ∧ event.endpoint = w.address := by
  cases step_turn h with
  | passed result seqnum len flush hp => exact absurd hstatus (afterBarrier_failed hm)
  | completed result hp =>
    unfold complete at hm
    cases hactive : w.activeSeqnum with
    | none =>
      rw [hactive] at hm
      cases hm
    | some seqnum =>
      rw [hactive] at hm
      dsimp only at hm
      split at hm
      · rename_i request _ hrequest
        have hevent := List.mem_singleton.mp hm
        cases result with
        | ok buffer =>
          exact ⟨buffer, seqnum, request, rfl, rfl, hrequest, by rw [hevent]; rfl,
            by rw [hevent]; rfl⟩
        | error err =>
          rw [hevent] at hstatus
          exact absurd hstatus (usbipRetSubmitFail_status _ _)
      · cases hm
  | _ => cases hm

theorem OutWorker.event_status {request : BulkOutRequest} {result : Except String Unit}
    (h : (event request (submitResponse request.data result)).response.submitStatus? = some 0) :
    result = .ok () := by
  cases result with
  | ok u => rfl
  | error err => exact absurd h (usbipRetSubmitFail_status _ _)

theorem OutWorker.step_honest {w w' : OutWorker} {move : OutMove} {events : List BulkOutEvent}
    (h : w.step move = some (w', events)) {event : BulkOutEvent} (hm : event ∈ events)
    (hstatus : event.response.submitStatus? = some 0) :
    ∃ request, move = .io (.ok ()) ∧ w.phase = .busy (.submit request) ∧
      event.urb = request.urb := by
  unfold step at h
  cases move with
  | command =>
    dsimp only at h
    split at h
    · rename_i command queue hp hq
      have hevents := congrArg Prod.snd (Option.some.inj h)
      dsimp only at hevents
      rw [← hevents] at hm
      unfold receive at hm
      split at hm
      · split at hm
        -- A URB that is rejected unwritten gets a status other than 0.
        · rw [List.mem_singleton.mp hm] at hstatus
          cases event_status hstatus
        · cases hm
      · split at hm
        · cases hm
        · split at hm <;> cases hm
      · split at hm
        · cases hm
        · split at hm <;> cases hm
      · cases hm
    · cases h
  | io result =>
    dsimp only [resume] at h
    split at h
    · rename_i request hp
      cases h
      have hevent := List.mem_singleton.mp hm
      rw [hevent] at hstatus ⊢
      rw [event_status hstatus]
      -- The write that succeeded is that of the URB in hand.
      exact ⟨request, rfl, hp, rfl⟩
    · cases h
      cases hm
    · cases h
      cases hm
    · cases h
  | idleFlush result =>
    dsimp only at h
    split at h
    · cases h
      cases hm
    · cases h

namespace Reports

open Lib.Transition

variable {prof : Profile} {s t : Reports} {a : Action}

/-- What is known of a run in which nothing has been dropped. -/
structure Kept (s : Reports) : Prop where
  honest : Honest s
  inEvents : ∀ event ∈ s.conn.inEvents, event.response.submitStatus? = some 0 →
    (event.urb, .bulkIn event.endpoint) ∈ s.performed
  outEvents : ∀ event ∈ s.conn.outEvents, event.response.submitStatus? = some 0 →
    event.urb ∈ s.taken
  address : ∀ ep w, s.conn.ins ep = some w → w.address = ep
  handled : ∀ urb, (urb, .handler) ∈ s.performed → urb.index < s.conn.clock
  serving : ∀ command urb remaining awaiting,
    s.conn.phase = .serving command urb remaining awaiting → urb.index < s.conn.clock ∧
      ∀ urb', (urb', .handler) ∈ s.performed → urb'.index < urb.index

theorem kept_init : Kept {} :=
  ⟨fun _ _ _ _ h => (nomatch h), fun _ h => (nomatch h), fun _ h => (nomatch h),
    fun _ _ h => (nomatch h), fun _ h => (nomatch h), fun _ _ _ _ h => (nomatch h)⟩

theorem step_eq_some (h : step prof s (.run a) = some t) :
    Connection.Effect prof s.conn a t.conn ∧ t.taken = s.taken ++ takenBy s.conn a ∧
      t.performed = s.performed ++ performedBy prof s.conn a := by
  obtain ⟨c, hc, rfl⟩ := Option.map_eq_some_iff.mp h
  exact ⟨Connection.step_effect hc, rfl, rfl⟩

/-- A read of a worker that succeeds is performed. -/
theorem mem_performedBy_in {prof : Profile} {c : Connection} {endpoint : UInt8} {w : InWorker}
    {buffer : List UInt8} {seqnum : UInt32} {request : BulkInRequest}
    (hw : c.ins endpoint = some w) (hactive : w.activeSeqnum = some seqnum)
    (hrequest : w.requests seqnum = some request) :
    (request.urb, .bulkIn endpoint) ∈ performedBy prof c (.inCompletion endpoint (.ok buffer)) := by
  dsimp only [performedBy]
  rw [hw, Option.bind_some, hactive, Option.bind_some, hrequest]
  exact List.mem_singleton_self _

/-- A write of a worker that succeeds is in its buffer. -/
theorem mem_takenBy {c : Connection} {endpoint : UInt8} {w : OutWorker}
    {request : BulkOutRequest} (hw : c.outs endpoint = some w)
    (hp : w.phase = .busy (.submit request)) :
    request.urb ∈ takenBy c (.outMove endpoint (.io (.ok ()))) := by
  dsimp only [takenBy]
  rw [hw]
  dsimp only [OutWorker.takenBy]
  rw [hp]
  exact List.mem_singleton_self _

/-- Only the URB that is executed is performed by the handler. -/
theorem performedBy_handler {prof : Profile} {c : Connection} {urb : Urb}
    (h : (urb, .handler) ∈ performedBy prof c a) :
    ∃ host command remaining awaiting device, a = .execute host ∧
      c.phase = .serving command urb remaining awaiting ∧ c.device = some device ∧
      urbPerformed prof command.header command.transferBufferLength command.setup command.data
        device host = true := by
  unfold performedBy at h
  split at h
  · split at h
    · rename_i command urb' remaining awaiting device hp hd
      split at h
      · rename_i hperformed
        cases List.mem_singleton.mp h
        exact ⟨_, command, remaining, awaiting, device, rfl, hp, hd, hperformed⟩
      · cases h
    · cases h
  · split at h
    · cases List.mem_singleton.mp h
    · cases h
  · split at h
    · obtain ⟨urb', hm, heq⟩ := List.mem_map.mp h
      cases heq
    · cases h
  · cases h

/-- A reply is honest where nothing is dropped. -/
theorem Kept.honest_step (h : Kept s) (hpass : Passes prof s (.run a))
    (he : Connection.Effect prof s.conn a t.conn)
    (hperformed : t.performed = s.performed ++ performedBy prof s.conn a) : Honest t := by
  intro n urb source response hm hstatus
  rw [hperformed]
  apply List.mem_append.mpr
  rcases he.reply hm with hm | ⟨-, hanswered⟩
  · exact Or.inl (h.honest n urb source response hm hstatus)
  · cases hanswered with
    | bulkIn event hevent => exact Or.inl (h.inEvents event hevent hstatus)
    | bulkOut event rest hevent hg hp =>
      have htaken := h.outEvents event (hevent ▸ List.mem_cons_self) hstatus
      exact Or.inl (not_not.mp fun hn => hpass event rest hevent hg hp hstatus ⟨htaken, hn⟩)
    | barrier a command urb remaining awaiting hp =>
      exact absurd hstatus (usbipRetSubmitFail_status _ _)
    | executed host command urb device response hp hd hr =>
      refine Or.inr ?_
      have hdone := told_iff.mp (hpass command urb device hp hd) response hr hstatus
      dsimp only [performedBy]
      rw [hp, hd]
      dsimp only
      rw [if_pos hdone]
      exact List.mem_singleton_self _

theorem Kept.run_step (h : Kept s) (hpass : Passes prof s (.run a))
    (hstep : step prof s (.run a) = some t) : Kept t := by
  obtain ⟨he, htaken, hperformed⟩ := step_eq_some hstep
  have hclock := he.mono.1
  refine ⟨h.honest_step hpass he hperformed, ?_, ?_, ?_, ?_, ?_⟩
  · intro event hm hstatus
    rw [hperformed]
    apply List.mem_append.mpr
    -- An event is an earlier one or what its worker has just reported of a transfer.
    rcases he.inEvent hm with hm | ⟨endpoint, move, w, w', events, ha, hw, hs, -, -, hm⟩
    · exact Or.inl (h.inEvents event hm hstatus)
    · obtain ⟨buffer, seqnum, request, rfl, hactive, hrequest, hurb, hend⟩ :=
        InWorker.step_honest hs hm hstatus
      rw [hurb, hend, h.address endpoint w hw, ha]
      exact Or.inr (mem_performedBy_in hw hactive hrequest)
  · intro event hm hstatus
    rw [htaken]
    apply List.mem_append.mpr
    rcases he.outEvent hm with hm | ⟨endpoint, move, w, w', events, ha, hw, hs, hm⟩
    · exact Or.inl (h.outEvents event hm hstatus)
    · obtain ⟨request, rfl, hp, hurb⟩ := OutWorker.step_honest hs hm hstatus
      rw [hurb, ha]
      exact Or.inr (mem_takenBy hw hp)
  · intro ep w hw
    -- A worker keeps its address through all that is done to it.
    cases he.in hw with
    | started device opens ha hp w hw =>
      obtain ⟨-, rfl⟩ := Connection.startBulkInWorkers_eq_some.mp hw
      rfl
    | kept w hw => exact h.address ep w hw
    | told w command hw' hc => exact h.address ep w hw'
    | flushing w seqnum len hw' ha hp => exact h.address ep w hw'
    | moved w w' move events hw' ha hs hb =>
      rw [(InWorker.step_moves hs).address]
      exact h.address ep w hw'
  · intro urb hm
    -- What has been executed and what is served carry times of the past.
    rw [hperformed] at hm
    rcases List.mem_append.mp hm with hm | hm
    · exact (h.handled urb hm).trans_le hclock
    · obtain ⟨host, command, remaining, awaiting, device, -, hp, -, -⟩ := performedBy_handler hm
      exact (h.serving command urb remaining awaiting hp).1.trans_le hclock
  · intro command urb remaining awaiting hp
    rcases he.serving hp with ⟨rfl, hselect, rfl, -⟩ | ⟨remaining', awaiting', hp', -⟩
    · refine ⟨?_, fun urb' hm => ?_⟩
      · rw [he.submit_clock rfl]
        exact Nat.lt_succ_self _
      · rw [hperformed] at hm
        rcases List.mem_append.mp hm with hm | hm
        · exact h.handled urb' hm
        · cases hm
    · obtain ⟨hlt, hbefore⟩ := h.serving command urb remaining' awaiting' hp'
      refine ⟨hlt.trans_le hclock, fun urb' hm => ?_⟩
      rw [hperformed] at hm
      rcases List.mem_append.mp hm with hm | hm
      · exact hbefore urb' hm
      · -- The URB is served no more once it has been executed.
        obtain ⟨host, command', remaining'', awaiting'', device, rfl, -, -, -⟩ :=
          performedBy_handler hm
        exact absurd hp (he.execute_phase rfl command urb remaining awaiting)

/-- The device has the bytes of more writes. -/
theorem Kept.drain (h : Kept s) (urbs : List Urb) :
    Kept { s with performed := s.performed ++ urbs.map (·, .bulkOut) } where
  honest n urb source response hm hstatus :=
    List.mem_append_left _ (h.honest n urb source response hm hstatus)
  inEvents event hm hstatus := List.mem_append_left _ (h.inEvents event hm hstatus)
  outEvents := h.outEvents
  address := h.address
  handled urb hm := by
    rcases List.mem_append.mp hm with hm | hm
    · exact h.handled urb hm
    · obtain ⟨urb', -, heq⟩ := List.mem_map.mp hm
      cases heq
  serving command urb remaining awaiting hp := by
    obtain ⟨hlt, hbefore⟩ := h.serving command urb remaining awaiting hp
    refine ⟨hlt, fun urb' hm => ?_⟩
    rcases List.mem_append.mp hm with hm | hm
    · exact hbefore urb' hm
    · obtain ⟨other, -, heq⟩ := List.mem_map.mp hm
      cases heq

theorem Kept.step {b : ReportsAction} (h : Kept s) (hpass : Passes prof s b)
    (hstep : step prof s b = some t) : Kept t := by
  cases b with
  | run a => exact h.run_step hpass hstep
  | drained endpoint count =>
    obtain ⟨w, -, rfl⟩ := Option.map_eq_some_iff.mp hstep
    exact h.drain (w.buffered.take count)

/-- What is dropped is told as a success right away. -/
theorem Kept.passes {b : ReportsAction} (h : Kept s) (hstep : Reports.step prof s b = some t)
    (ht : Honest t) : Passes prof s b := by
  rcases b with a | ⟨endpoint, count⟩
  swap
  · trivial
  cases a with
  | execute host =>
    intro command urb device hp hd
    apply told_iff.mpr
    intro response hr hstatus
    obtain ⟨he, -, hperformed⟩ := step_eq_some hstep
    have hreply : .submit s.conn.session urb .handler response ∈ t.conn.wire := by
      rw [he.execute_wire rfl hp hd hr]
      exact List.mem_append_right _ (List.mem_singleton_self _)
    have hm := ht _ _ _ _ hreply hstatus
    rw [hperformed] at hm
    rcases List.mem_append.mp hm with hm | hm
    · -- It was not performed before, since it was still being served.
      exact absurd ((h.serving command urb [] none hp).2 urb hm) (Nat.lt_irrefl _)
    · obtain ⟨host', command', remaining, awaiting, device', ha, hp', hd', hdone⟩ :=
        performedBy_handler hm
      cases ha
      cases hp.symm.trans hp'
      cases hd.symm.trans hd'
      exact hdone
  | deliverOut =>
    rintro event rest hq hg hpending hstatus ⟨-, hnot⟩
    obtain ⟨he, -, hperformed⟩ := step_eq_some hstep
    obtain ⟨event', rest', hq', htc⟩ := he.delivered_out rfl
    cases hq.symm.trans hq'
    have hreply : .submit s.conn.session event.urb .bulkOut event.response ∈ t.conn.wire := by
      rw [htc, Connection.deliverOut_written rest hg hpending]
      exact List.mem_append_right _ (List.mem_singleton_self _)
    have hm := ht _ _ _ _ hreply hstatus
    rw [hperformed, show performedBy prof s.conn .deliverOut = [] from rfl, List.append_nil] at hm
    exact hnot hm
  | _ => trivial

end Reports
end Lusbip
