import Lusbip.Session.Isolation

/-!
# The data of the bulk-IN reads

A read that completes brings data from the device, and the data is for the URB the read was
submitted for. There are two places where it can get lost. The worker drops the buffer if that
URB has been unlinked, even though others wait behind it; the handler drops the event if its
sequence number stands in `cancelledBulkInSeqnums`.

Where neither happens, nothing is lost and nothing is written twice: what was written for an
endpoint, followed by what its queued events carry, is what the endpoint's worker has received.
`Accounted` says so, and `accounted_iff_keepsData` that it is these two drops alone that break it.
-/

namespace Lusbip

open Lib.Transition

/-! ## Data on its way -/

/-- The data that a reply has for the client, from a read of the session and the endpoint. -/
def Reply.bulkInData? (session : Nat) (endpoint : UInt8) : Reply → Option (List UInt8)
  | .submit _ urb (.bulkIn ep) response =>
      if urb.session = session ∧ ep = endpoint then response.successPayload? else none
  | _ => none

def BulkInEvent.bulkInData? (session : Nat) (endpoint : UInt8) (event : BulkInEvent) :
    Option (List UInt8) :=
  if event.urb.session = session ∧ event.endpoint = endpoint then
    event.response.successPayload?
  else none

/-- A written event has the data it had in the queue. -/
theorem BulkInEvent.bulkInData?_reply (event : BulkInEvent) (n session : Nat)
    (endpoint : UInt8) :
    Reply.bulkInData? session endpoint
      (.submit n event.urb (.bulkIn event.endpoint) event.response) =
        event.bulkInData? session endpoint := rfl

namespace InWorker

variable {w w' : InWorker}

/-- Data that comes while requests are pending finds its own request among them. -/
def Delivers (w : InWorker) : InMove → Prop
  | .completion (.ok _) => w.pending.seqnums ≠ [] → w.activeRequest.isSome = true
  | _ => True

instance (w : InWorker) (move : InMove) : Decidable (w.Delivers move) := by
  cases move with
  | completion result =>
    cases result with
    | ok buffer => exact inferInstanceAs (Decidable (_ → _))
    | error err => exact isTrue trivial
  | _ => exact isTrue trivial

/-- The data the events carry. -/
def payloads (events : List BulkInEvent) : List (List UInt8) :=
  events.filterMap (·.response.successPayload?)

theorem failBarrier_received (w : InWorker) (seqnum : UInt32) :
    (w.failBarrier seqnum).1.received = w.received ∧
      payloads (w.failBarrier seqnum).2 = [] := by
  unfold failBarrier
  split
  · exact ⟨(settle_sheds _).received, rfl⟩
  · exact ⟨(settle_sheds _).received, rfl⟩

theorem afterBarrier_received (w : InWorker) (seqnum len : UInt32)
    (result : Except String Unit) :
    (w.afterBarrier seqnum len result).1.received = w.received ∧
      payloads (w.afterBarrier seqnum len result).2 = [] := by
  have hdrain := (drain_sheds w).received
  unfold afterBarrier
  dsimp only
  split
  · cases result with
    | error err =>
      obtain ⟨hr, hp⟩ := failBarrier_received w.drain seqnum
      exact ⟨hr.trans hdrain, hp⟩
    | ok u => exact ⟨(submitRead_sheds _ seqnum len).received.trans hdrain, rfl⟩
  · exact ⟨(settle_sheds _).received.trans hdrain, rfl⟩

theorem complete_received {result : Except TransferError (List UInt8)}
    (hd : w.Delivers (.completion result)) :
    (w.complete result).1.received = w.received ++ payloads (w.complete result).2 := by
  cases h : w.activeRequest with
  | none =>
    obtain ⟨hr, he⟩ := complete_of_none h result
    rw [hr, he]
    cases result with
    | error err => rfl
    | ok buffer =>
      have hnil : w.pending.seqnums = [] := by
        by_contra hne
        have := hd hne
        rw [h] at this
        cases this
      simp only [endRead, hnil, if_true]
      rfl
  | some request =>
    obtain ⟨hr, hne, seqnum, he⟩ := complete_of_some h result
    rw [hr, he]
    cases result with
    | error err => rfl
    | ok buffer =>
      simp only [endRead, if_neg hne]
      rfl

/-- **What the worker receives it sends.** -/
theorem step_received {move : InMove} {events : List BulkInEvent}
    (h : w.step move = some (w', events)) (hd : w.Delivers move) :
    w'.received = w.received ++ payloads events := by
  cases step_turn h with
  | opened size hp =>
    rw [(settle_sheds _).received]
    exact (List.append_nil _).symm
  | unopened hp => exact (List.append_nil _).symm
  | received v hv =>
    rw [(receive_sheds hv).received]
    exact (List.append_nil _).symm
  | flushing reply seqnum len hp => exact (List.append_nil _).symm
  | passed result seqnum len flush hp =>
    obtain ⟨hr, hp⟩ := afterBarrier_received w seqnum len result
    rw [hr, hp, List.append_nil]
  | completed result hp => exact complete_received hd

/-- Data that finds other requests, but not its own, is received and not sent. -/
theorem completion_lost {buffer : List UInt8} {events : List BulkInEvent}
    (h : w.step (.completion (.ok buffer)) = some (w', events))
    (hd : ¬ w.Delivers (.completion (.ok buffer))) :
    w'.received = w.received ++ [buffer] ∧ events = [] := by
  obtain ⟨hne, hnone⟩ := Classical.not_imp.mp hd
  cases step_turn h with
  | completed result hp =>
    obtain ⟨hr, he⟩ := complete_of_none (Option.not_isSome_iff_eq_none.mp hnone) (.ok buffer)
    simp only [endRead, if_neg hne] at hr
    exact ⟨hr, he⟩

/-- `w'` has the data of `w`, and no request but from `w` or from the session. -/
structure Keeps (session : Nat) (w w' : InWorker) : Prop where
  address : w'.address = w.address
  received : w'.received = w.received
  holds : ∀ request, w'.Holds request → w.Holds request ∨ request.urb.session = session

theorem Keeps.refl (session : Nat) (w : InWorker) : Keeps session w w :=
  ⟨rfl, rfl, fun _ h => Or.inl h⟩

theorem keeps_push_submit {session : Nat} (w : InWorker) {request : BulkInRequest}
    (h : request.urb.session = session) : Keeps session w (w.push (.submit request)) := by
  refine ⟨rfl, rfl, fun r hr => ?_⟩
  rcases hr with hr | hr
  · rcases List.mem_append.mp hr with hr | hr
    · exact Or.inl (Or.inl hr)
    · obtain rfl := BulkInCommand.submit.inj (List.mem_singleton.mp hr)
      exact Or.inr h
  · exact Or.inl (Or.inr hr)

theorem keeps_push_unlink (session : Nat) (w : InWorker) (seqnum : UInt32) :
    Keeps session w (w.push (.unlink seqnum)) := by
  refine ⟨rfl, rfl, fun r hr => Or.inl ?_⟩
  rcases hr with hr | hr
  · rcases List.mem_append.mp hr with hr | hr
    · exact Or.inl hr
    · simp at hr
  · exact Or.inr hr

end InWorker

namespace Connection

variable {prof : Profile} {c t : Connection} {a : Action}

/-! ## What becomes of it -/

/-- The data of the current session written to the client for an endpoint. -/
def written (c : Connection) (endpoint : UInt8) : List (List UInt8) :=
  c.wire.filterMap (Reply.bulkInData? c.session endpoint)

/-- The data of the current session that the queued events of an endpoint carry. -/
def queued (c : Connection) (endpoint : UInt8) : List (List UInt8) :=
  c.inEvents.filterMap (BulkInEvent.bulkInData? c.session endpoint)

/-- Every buffer received is written or queued, once and in order. -/
def Accounted (c : Connection) : Prop :=
  ∀ endpoint w, c.ins endpoint = some w → c.written endpoint ++ c.queued endpoint = w.received

/-- When no event is queued any more, every buffer received has been written, as the payload
    of one `RET_SUBMIT`, in the order of the completions. -/
def AllWritten (c : Connection) : Prop :=
  ∀ endpoint w, c.ins endpoint = some w →
    (∀ event ∈ c.inEvents, ¬ (event.urb.session = c.session ∧ event.endpoint = endpoint)) →
      c.written endpoint = w.received

/-- A read completes with data only while its own request waits, or none does, and an event
    with data is not taken off the queue while its sequence number is cancelled. -/
def KeepsData (c : Connection) : Action → Prop
  | .inCompletion endpoint result => ∀ w ∈ c.ins endpoint, w.Delivers (.completion result)
  | .deliverIn => ∀ event ∈ c.inEvents.head?,
      (event.bulkInData? c.session event.endpoint).isSome = true →
        shouldWriteBulkInResponse c.cancelledBulkInSeqnums event.seqnum = true
  | _ => True

instance (c : Connection) : ∀ a : Action, Decidable (c.KeepsData a)
  | .inCompletion endpoint _ => inferInstanceAs (Decidable (∀ w ∈ c.ins endpoint, _))
  | .deliverIn => inferInstanceAs (Decidable (∀ event ∈ c.inEvents.head?, _))
  | .submit _ | .unlink _ _ | .importRequest | .shutdownSent _ | .importDone _ | .deliverOut
  | .controlFlush _ | .controlResult | .execute _ | .inFlush _ | .inBarrier _ | .inOpened _ _
  | .inCommand _ | .outMove _ _ => isTrue trivial

theorem Accounted.allWritten (h : c.Accounted) : c.AllWritten := by
  intro endpoint w hw hnone
  have hqueued : c.queued endpoint = [] := by
    refine List.filterMap_eq_nil_iff.mpr fun event he => ?_
    exact if_neg (hnone event he)
  have := h endpoint w hw
  rwa [hqueued, List.append_nil] at this

/-! ## The invariant -/

structure Tracked (c : Connection) : Prop where
  accounted : c.Accounted
  address : ∀ ep w, c.ins ep = some w → w.address = ep
  requests : ∀ ep w, c.ins ep = some w → ∀ request, w.Holds request →
    request.urb.session = c.session
  inEvents : ∀ event ∈ c.inEvents, event.urb.session ≤ c.session
  /-- The worker of an event is there as long as its session is. -/
  workers : c.InSession → ∀ event ∈ c.inEvents, event.urb.session = c.session →
    ∃ w, c.ins event.endpoint = some w
  wire : ∀ reply ∈ c.wire, ∀ session endpoint,
    (reply.bulkInData? session endpoint).isSome = true → session ≤ c.session

theorem tracked_init : Tracked {} :=
  ⟨fun _ _ h => (nomatch h), fun _ _ h => (nomatch h), fun _ _ h => (nomatch h),
    fun _ h => (nomatch h), fun _ _ h => (nomatch h), fun _ h => (nomatch h)⟩

/-- The replies are of no read. -/
def NoData (replies : List Reply) : Prop :=
  ∀ reply ∈ replies, ∀ session endpoint, reply.bulkInData? session endpoint = none

theorem noData_nil : NoData [] := fun _ h => nomatch h

theorem noData_singleton {reply : Reply}
    (h : ∀ session endpoint, reply.bulkInData? session endpoint = none) : NoData [reply] := by
  intro r hr
  rw [List.mem_singleton.mp hr]
  exact h

theorem NoData.filterMap {replies : List Reply} (h : NoData replies) (session : Nat)
    (endpoint : UInt8) : replies.filterMap (Reply.bulkInData? session endpoint) = [] :=
  List.filterMap_eq_nil_iff.mpr fun reply hr => h reply hr session endpoint

/-- A step that touches neither the data nor the queue of events. -/
theorem Tracked.frame (h : Tracked c) (hsession : t.session = c.session)
    (hevents : t.inEvents = c.inEvents) {replies : List Reply}
    (hwire : t.wire = c.wire ++ replies) (hdata : NoData replies)
    (hins : ∀ ep w', t.ins ep = some w' → ∃ w, c.ins ep = some w ∧ w.Keeps c.session w')
    (hphase : t.InSession → c.InSession ∧
      ∀ ep w, c.ins ep = some w → ∃ w', t.ins ep = some w') : Tracked t where
  accounted ep w' hw' := by
    obtain ⟨w, hw, hk⟩ := hins ep w' hw'
    rw [hk.received, ← h.accounted ep w hw, written, queued, hsession, hevents, hwire,
      List.filterMap_append, hdata.filterMap, List.append_nil, written, queued]
  address ep w' hw' := by
    obtain ⟨w, hw, hk⟩ := hins ep w' hw'
    exact hk.address.trans (h.address ep w hw)
  requests ep w' hw' request hr := by
    obtain ⟨w, hw, hk⟩ := hins ep w' hw'
    rw [hsession]
    exact (hk.holds request hr).elim (h.requests ep w hw request) id
  inEvents event he := by
    rw [hsession]
    exact h.inEvents event (hevents ▸ he)
  workers ht event he hs := by
    obtain ⟨hc, hw⟩ := hphase ht
    obtain ⟨w, hin⟩ := h.workers hc event (hevents ▸ he) (hsession ▸ hs)
    exact hw _ w hin
  wire reply hr session endpoint hsome := by
    rw [hsession]
    rw [hwire] at hr
    rcases List.mem_append.mp hr with hr | hr
    · exact h.wire reply hr session endpoint hsome
    · rw [hdata reply hr] at hsome
      cases hsome

/-- The same where the workers are as they were. -/
theorem Tracked.rest (h : Tracked c) (hsession : t.session = c.session)
    (hevents : t.inEvents = c.inEvents) {replies : List Reply}
    (hwire : t.wire = c.wire ++ replies) (hdata : NoData replies) (hins : t.ins = c.ins)
    (hphase : t.InSession → c.InSession) : Tracked t := by
  refine h.frame hsession hevents hwire hdata ?_ ?_
  · intro ep w hw
    exact ⟨w, hins ▸ hw, InWorker.Keeps.refl _ w⟩
  · intro ht
    exact ⟨hphase ht, fun ep w hw => ⟨w, hins.symm ▸ hw⟩⟩

/-- The same where one worker has changed. -/
theorem Tracked.swap (h : Tracked c) {endpoint : UInt8} {w w' : InWorker}
    (hw : c.ins endpoint = some w) (hk : w.Keeps c.session w')
    (hsession : t.session = c.session) (hevents : t.inEvents = c.inEvents)
    {replies : List Reply} (hwire : t.wire = c.wire ++ replies) (hdata : NoData replies)
    (hins : t.ins = Function.update c.ins endpoint (some w'))
    (hphase : t.InSession → c.InSession) : Tracked t := by
  refine h.frame hsession hevents hwire hdata ?_ ?_
  · rw [hins]
    exact forall_update_some (fun ep v _ hv => ⟨v, hv, InWorker.Keeps.refl _ v⟩) ⟨w, hw, hk⟩
  · intro ht
    refine ⟨hphase ht, fun ep v hv => ?_⟩
    rw [hins]
    by_cases he : ep = endpoint
    · subst he
      exact ⟨w', Function.update_self ..⟩
    · exact ⟨v, by rw [Function.update_of_ne he, hv]⟩

/-! ## A step -/

/-- A new session starts with nothing written, queued or received. -/
theorem Tracked.opened (h : Tracked c) {replies : List Reply}
    (hsession : t.session = c.session + 1) (hevents : t.inEvents = c.inEvents)
    (hwire : t.wire = c.wire ++ replies) (hdata : NoData replies)
    (hins : ∀ ep w, t.ins ep = some w →
      w.address = ep ∧ w.received = [] ∧ ∀ request, ¬ w.Holds request) : Tracked t where
  accounted ep w hw := by
    have hw' : t.written ep = [] := by
      refine List.filterMap_eq_nil_iff.mpr fun reply hr => ?_
      rw [hwire] at hr
      rcases List.mem_append.mp hr with hr | hr
      · by_contra hsome
        have := h.wire reply hr _ ep (Option.isSome_iff_ne_none.mpr hsome)
        omega
      · exact hdata reply hr _ ep
    have hq : t.queued ep = [] := by
      refine List.filterMap_eq_nil_iff.mpr fun event he => if_neg fun hev => ?_
      have := h.inEvents event (hevents ▸ he)
      omega
    rw [hw', hq, (hins ep w hw).2.1]
    rfl
  address ep w hw := (hins ep w hw).1
  requests ep w hw request hr := absurd hr ((hins ep w hw).2.2 request)
  inEvents event he := by
    have := h.inEvents event (hevents ▸ he)
    omega
  workers _ event he hs := by
    have := h.inEvents event (hevents ▸ he)
    omega
  wire reply hr session endpoint hsome := by
    rw [hwire] at hr
    rcases List.mem_append.mp hr with hr | hr
    · have := h.wire reply hr session endpoint hsome
      omega
    · rw [hdata reply hr] at hsome
      cases hsome

theorem Tracked.importDone (h : Tracked c) (outcome : ImportOutcome) :
    Tracked (c.importDone outcome) := by
  unfold Connection.importDone
  cases outcome with
  | rejected =>
    exact h.opened rfl rfl (List.append_nil _).symm noData_nil fun _ _ h => nomatch h
  | refused =>
    exact h.opened rfl rfl rfl (noData_singleton fun _ _ => rfl) fun _ _ h => nomatch h
  | succeeded device opens =>
    refine h.opened rfl rfl rfl (noData_singleton fun _ _ => rfl) fun ep w hw => ?_
    obtain ⟨-, rfl⟩ := startBulkInWorkers_eq_some.mp hw
    refine ⟨rfl, rfl, fun request hr => ?_⟩
    rcases hr with hr | ⟨s, hr⟩
    · cases hr
    · cases hr

/-- The data of an event goes to the client, unless its sequence number is cancelled. -/
theorem deliverIn_written (c : Connection) (event : BulkInEvent) (rest : List BulkInEvent)
    (endpoint : UInt8) : (c.deliverIn event rest).written endpoint = c.written endpoint ++
      if shouldWriteBulkInResponse c.cancelledBulkInSeqnums event.seqnum = true then
        (event.bulkInData? c.session endpoint).toList
      else [] := by
  obtain ⟨-, -, hs⟩ := deliverIn_frame c event rest
  rw [written, hs, deliverIn_wire, List.filterMap_append, written]
  congr 1
  split
  · rw [List.filterMap_cons, BulkInEvent.bulkInData?_reply]
    cases event.bulkInData? c.session endpoint <;> rfl
  · rfl

theorem queued_cons {event : BulkInEvent} {rest : List BulkInEvent}
    (he : c.inEvents = event :: rest) (endpoint : UInt8) :
    c.queued endpoint = (event.bulkInData? c.session endpoint).toList ++
      (c.deliverIn event rest).queued endpoint := by
  obtain ⟨hrest, -, hs⟩ := deliverIn_frame c event rest
  rw [queued, queued, hrest, hs, he, List.filterMap_cons]
  cases event.bulkInData? c.session endpoint <;> rfl

theorem Tracked.deliverIn (h : Tracked c) {event : BulkInEvent} {rest : List BulkInEvent}
    (he : c.inEvents = event :: rest) (hp : c.phase = .select)
    (hk : c.KeepsData .deliverIn) : Tracked (c.deliverIn event rest) := by
  obtain ⟨hrest, hins, hsession⟩ := deliverIn_frame c event rest
  have hmem : ∀ e ∈ rest, e ∈ c.inEvents := fun e hr => he ▸ List.mem_cons_of_mem _ hr
  have hin := inSession_select hp
  refine ⟨?_, fun ep w hw => h.address ep w (hins ▸ hw), ?_, ?_, ?_, ?_⟩
  · intro ep w hw
    rw [hins] at hw
    rw [← h.accounted ep w hw, queued_cons he, deliverIn_written, List.append_assoc]
    congr 2
    split
    · rfl
    · rename_i hcancelled
      -- What is dropped carries no data.
      cases hd : event.bulkInData? c.session ep with
      | none => rfl
      | some payload =>
        have hep : event.endpoint = ep := by
          unfold BulkInEvent.bulkInData? at hd
          split at hd
          · exact (‹_ ∧ _›).2
          · cases hd
        refine absurd (hk event (by rw [he]; rfl) ?_) hcancelled
        rw [hep, hd]
        rfl
  · intro ep w hw
    rw [hsession]
    exact h.requests ep w (hins ▸ hw)
  · intro e hr
    rw [hsession]
    exact h.inEvents e (hmem e (hrest ▸ hr))
  · intro _ e hr hs
    rw [hins]
    exact h.workers hin e (hmem e (hrest ▸ hr)) (hsession ▸ hs)
  · intro reply hr session endpoint hsome
    rw [hsession]
    rw [deliverIn_wire] at hr
    rcases List.mem_append.mp hr with hr | hr
    · exact h.wire reply hr session endpoint hsome
    · split at hr
      · rw [List.mem_singleton.mp hr] at hsome
        have hurb := h.inEvents event (he ▸ List.mem_cons_self)
        simp only [Reply.bulkInData?] at hsome
        split at hsome
        · rename_i hev
          exact hev.1 ▸ hurb
        · cases hsome
      · cases hr

/-- The events of a worker are of the session and of its endpoint. -/
theorem Tracked.events (h : Tracked c) {endpoint : UInt8} {move : InMove} {w w' : InWorker}
    {events : List BulkInEvent} (hw : c.ins endpoint = some w)
    (hs : w.step move = some (w', events)) :
    ∀ event ∈ events, event.endpoint = endpoint ∧ event.urb.session = c.session := by
  intro event he
  obtain ⟨hend, request, hr, hurb, -⟩ := (InWorker.step_moves hs).answers event he
  refine ⟨hend.trans (h.address endpoint w hw), ?_⟩
  rw [hurb]
  exact h.requests endpoint w hw request hr

/-- What a worker sends is queued for its own endpoint. -/
theorem Tracked.queued_inMove (h : Tracked c) {endpoint : UInt8} {move : InMove}
    {w w' : InWorker} {events : List BulkInEvent} (hw : c.ins endpoint = some w)
    (hs : w.step move = some (w', events)) (ep : UInt8) :
    events.filterMap (BulkInEvent.bulkInData? c.session ep) =
      if ep = endpoint then InWorker.payloads events else [] := by
  split
  · refine List.filterMap_congr fun event he => ?_
    obtain ⟨hend, hurb⟩ := h.events hw hs event he
    exact if_pos ⟨hurb, hend.trans (Eq.symm ‹_›)⟩
  · refine List.filterMap_eq_nil_iff.mpr fun event he => if_neg fun hev => ?_
    exact ‹¬ _› (hev.2.symm.trans (h.events hw hs event he).1)

theorem Tracked.inMove (h : Tracked c) {endpoint : UInt8} {move : InMove} {w w' : InWorker}
    {events : List BulkInEvent} (hw : c.ins endpoint = some w)
    (hs : w.step move = some (w', events)) (hd : w.Delivers move) :
    Tracked { c with
      ins := Function.update c.ins endpoint (some w')
      inEvents := c.inEvents ++ events } := by
  have hm := InWorker.step_moves hs
  refine ⟨?_, ?_, ?_, ?_, ?_, h.wire⟩
  · have hq : ∀ ep, (c.inEvents ++ events).filterMap (BulkInEvent.bulkInData? c.session ep) =
        c.queued ep ++ if ep = endpoint then InWorker.payloads events else [] := by
      intro ep
      rw [List.filterMap_append, h.queued_inMove hw hs]
      rfl
    refine forall_update_some (P := fun ep (v : InWorker) =>
      c.written ep ++ (c.inEvents ++ events).filterMap (BulkInEvent.bulkInData? c.session ep)
        = v.received) ?_ ?_
    · intro ep v hne hv
      rw [hq, if_neg hne, List.append_nil]
      exact h.accounted ep v hv
    · rw [hq, if_pos rfl, ← List.append_assoc, h.accounted endpoint w hw,
        InWorker.step_received hs hd]
  · exact forall_update_some (fun ep v _ hv => h.address ep v hv)
      (hm.address.trans (h.address endpoint w hw))
  · exact forall_update_some (fun ep v _ hv => h.requests ep v hv)
      fun request hr => h.requests endpoint w hw request (hm.holds request hr)
  · intro event he
    rcases List.mem_append.mp he with he | he
    · exact h.inEvents event he
    · exact (h.events hw hs event he).2.le
  · intro hin event he hsession
    rcases List.mem_append.mp he with he | he
    · obtain ⟨v, hv⟩ := h.workers hin event he hsession
      by_cases hep : event.endpoint = endpoint
      · exact ⟨w', by rw [hep]; exact Function.update_self ..⟩
      · exact ⟨v, by simpa only [Function.update_of_ne hep] using hv⟩
    · exact ⟨w', by rw [(h.events hw hs event he).1]; exact Function.update_self ..⟩

theorem Tracked.step (h : Tracked c) (hk : c.KeepsData a) (he : Effect prof c a t) :
    Tracked t := by
  cases he with
  | ignored command hd hp =>
    exact h.rest rfl rfl (List.append_nil _).symm noData_nil rfl id
  -- Of all steps only those of a bulk-IN worker and the delivery of its events touch data.
  | submitIn command w hp hw =>
    exact h.swap hw (InWorker.keeps_push_submit w rfl) rfl rfl (List.append_nil _).symm
      noData_nil rfl id
  | submitOut command w hp hw =>
    exact h.rest rfl rfl (List.append_nil _).symm noData_nil rfl id
  | serve command remaining hp hr =>
    exact h.rest rfl rfl (List.append_nil _).symm noData_nil rfl fun _ => inSession_select hp
  | unlinkIn header seqnum endpoint ins hp hs hins =>
    have hdata : NoData [.unlink c.session seqnum (handleUsbipCmdUnlink header true)] :=
      noData_singleton fun _ _ => rfl
    rcases hins with rfl | ⟨w, hw, rfl⟩
    · exact h.rest rfl rfl rfl hdata rfl id
    · exact h.swap hw (InWorker.keeps_push_unlink _ w seqnum) rfl rfl rfl hdata rfl id
  | unlinkOut header seqnum endpoint outs hp hs houts =>
    exact h.rest rfl rfl rfl (noData_singleton fun _ _ => rfl) rfl id
  | unlinkUnknown header seqnum hp =>
    exact h.rest rfl rfl rfl (noData_singleton fun _ _ => rfl) rfl id
  | importRequest hp =>
    refine h.frame rfl rfl (List.append_nil _).symm noData_nil (fun _ _ h => nomatch h) ?_
    intro hin
    exact absurd rfl (hin _)
  | shutdownSent endpoint remaining outs hp houts =>
    refine h.rest rfl rfl (List.append_nil _).symm noData_nil rfl ?_
    intro hin
    exact absurd rfl (hin _)
  | importDone outcome hp => exact h.importDone outcome
  | deliverIn event rest hp he => exact h.deliverIn he hp hk
  | deliverOut event rest hp he =>
    unfold Connection.deliverOut
    dsimp only
    split
    · split
      · exact h.rest rfl rfl rfl (noData_singleton fun _ _ => rfl) rfl id
      · exact h.rest rfl rfl (List.append_nil _).symm noData_nil rfl id
    · exact h.rest rfl rfl (List.append_nil _).symm noData_nil rfl id
  | controlFlush command urb remaining endpoint w hp hw =>
    exact h.rest rfl rfl (List.append_nil _).symm noData_nil rfl fun _ => inSession_serving hp
  | controlFailed a command urb remaining awaiting endpoint err hp ha =>
    exact h.rest rfl rfl rfl (noData_singleton fun _ _ => rfl) rfl fun _ => inSession_serving hp
  | controlPassed command urb remaining endpoint sender w hp hw hr =>
    exact h.rest rfl rfl (List.append_nil _).symm noData_nil rfl fun _ => inSession_serving hp
  | execute host command urb device hp hd =>
    unfold Connection.execute
    dsimp only
    split
    · exact h.rest rfl rfl rfl (noData_singleton fun _ _ => rfl) rfl
        fun _ => inSession_serving hp
    · exact h.rest rfl rfl (List.append_nil _).symm noData_nil rfl fun _ => inSession_serving hp
    · exact h.rest rfl rfl (List.append_nil _).symm noData_nil rfl fun _ => inSession_serving hp
  | inFlush endpoint w out o seqnum len hw ho hout hwp =>
    have hk : w.Keeps c.session
        { w with phase := .barrier seqnum len (some ⟨c.nextReply, c.clock⟩) } :=
      ⟨rfl, rfl, fun _ hr => Or.inl hr⟩
    exact h.swap hw hk rfl rfl (List.append_nil _).symm noData_nil rfl id
  | inMove endpoint move w w' events hw hs hf hb =>
    refine h.inMove hw hs ?_
    cases move with
    | completion result => exact hk w hw
    | _ => trivial
  | outMove endpoint move w w' events hw hs =>
    exact h.rest rfl rfl (List.append_nil _).symm noData_nil rfl id

/-! ## The steps that lose data -/

/-- A completion without a request of its own: the worker has more than it has sent. -/
theorem Tracked.completion_not_accounted (h : Tracked c) {endpoint : UInt8}
    {buffer : List UInt8} {w w' : InWorker} {events : List BulkInEvent}
    (hw : c.ins endpoint = some w)
    (hs : w.step (.completion (.ok buffer)) = some (w', events))
    (hd : ¬ w.Delivers (.completion (.ok buffer))) :
    ¬ Accounted { c with
      ins := Function.update c.ins endpoint (some w')
      inEvents := c.inEvents ++ events } := by
  intro ht
  obtain ⟨hreceived, rfl⟩ := InWorker.completion_lost hs hd
  have hc := h.accounted endpoint w hw
  have ht := ht endpoint w' (Function.update_self ..)
  have hsame : (c.inEvents ++ []).filterMap (BulkInEvent.bulkInData? c.session endpoint) =
      c.queued endpoint := by
    rw [List.append_nil]
    rfl
  rw [queued, hsame, hreceived, ← hc] at ht
  have hlen := congrArg List.length ht
  simp [written] at hlen

/-- An event with data that is dropped: the endpoint's worker has more than is written or
    queued. -/
theorem Tracked.drop_not_accounted (h : Tracked c) {event : BulkInEvent}
    {rest : List BulkInEvent} (he : c.inEvents = event :: rest) (hp : c.phase = .select)
    (hsome : (event.bulkInData? c.session event.endpoint).isSome = true)
    (hcancelled : ¬ shouldWriteBulkInResponse c.cancelledBulkInSeqnums event.seqnum = true) :
    ¬ (c.deliverIn event rest).Accounted := by
  intro ht
  obtain ⟨payload, hpayload⟩ := Option.isSome_iff_exists.mp hsome
  have hs : event.urb.session = c.session := by
    unfold BulkInEvent.bulkInData? at hpayload
    split at hpayload
    · exact (‹_ ∧ _›).1
    · cases hpayload
  obtain ⟨w, hw⟩ := h.workers (inSession_select hp) event (he ▸ List.mem_cons_self) hs
  obtain ⟨-, hins, -⟩ := deliverIn_frame c event rest
  have hc := h.accounted _ w hw
  have ht := ht _ w (hins ▸ hw)
  rw [queued_cons he, hpayload] at hc
  rw [deliverIn_written, if_neg hcancelled, List.append_nil, ← hc] at ht
  have hlen := congrArg List.length ht
  simp at hlen

theorem Tracked.keepsData (h : Tracked c) (he : Effect prof c a t) (ht : t.Accounted) :
    c.KeepsData a := by
  cases he with
  | inMove endpoint move w w' events hw hs hf hb =>
    cases move with
    | completion result =>
      intro v hv
      rw [hw, Option.mem_some_iff] at hv
      subst hv
      cases result with
      | error err => trivial
      | ok buffer =>
        by_contra hd
        exact h.completion_not_accounted hw hs hd ht
    | _ => trivial
  | deliverIn event rest hp he =>
    intro e hhead hsome
    rw [he, List.head?_cons, Option.mem_some_iff] at hhead
    subst hhead
    by_contra hcancelled
    exact h.drop_not_accounted he hp hsome hcancelled ht
  | controlFailed a command urb remaining awaiting endpoint err hp ha =>
    rcases ha with rfl | rfl <;> trivial
  | _ => trivial

/-- **Data is accounted for exactly as long as no step drops any.** In a run with any number
    of imports, in every interleaving of submits, unlinks, completions and the delivery of
    events. -/
theorem accounted_iff_keepsData (prof : Profile) (acts : List Action) :
    Throughout (step prof) Accounted {} acts ↔ Along (step prof) KeepsData {} acts :=
  throughout_iff_along (fun _ _ _ hs hk hstep => Tracked.step hs hk (step_effect hstep))
    (fun _ hs => hs.accounted)
    (fun _ _ _ hs hstep ht => Tracked.keepsData hs (step_effect hstep) ht) tracked_init

/-- **Without a drop, all data is written.** Whenever no event of an endpoint is queued, the
    buffers received there in the session have all been written, each as the payload of one
    `RET_SUBMIT` and in the order of their completions. -/
theorem allWritten_of_keepsData (prof : Profile) (acts : List Action)
    (h : Along (step prof) KeepsData {} acts) : Throughout (step prof) AllWritten {} acts :=
  throughout_of_along (fun _ _ _ hs hk hstep => Tracked.step hs hk (step_effect hstep))
    (fun _ hs => hs.accounted.allWritten) tracked_init h

/-- The read before the unlinked one, and the one after it, bring their data to the client. -/
theorem unlinkOfWaiting_allWritten :
    Throughout (step .release) AllWritten {} (attach ++ [submitRead 1] ++ startRead ++
      [submitRead 2, submitRead 3, unlinkUrb 4 2, .inCommand 0x81, .inCommand 0x81,
        .inCommand 0x81, .inCompletion 0x81 (.ok [0x2A]), .deliverIn]) :=
  allWritten_of_keepsData .release _ (by decide +kernel)

/-- **Data is lost with the URB it came for.** Two reads are pending when the first is
    unlinked. Its transfer still completes with data before it is cancelled: the worker drops
    the buffer, although a second request waits for data of the endpoint. -/
theorem completionAfterUnlink_not_allWritten :
    ¬ ∀ acts, Throughout (step .release) AllWritten {} acts := by
  intro h
  have hrun : (run (step .release) {} (attach ++ [submitRead 1] ++ startRead ++
      [submitRead 2, unlinkUrb 3 1, .inCommand 0x81, .inCommand 0x81,
        .inCompletion 0x81 (.ok [0x2A])])).any
      (fun c => c.inEvents = [] ∧ c.written 0x81 = [] ∧
        (c.ins 0x81).any (fun w => w.received = [[0x2A]]) = true) = true := by decide +kernel
  obtain ⟨c, hc, hlost⟩ := (Option.any_eq_true _ _).mp hrun
  obtain ⟨hempty, hwritten, hreceived⟩ := of_decide_eq_true hlost
  obtain ⟨w, hw, hreceived⟩ := (Option.any_eq_true _ _).mp hreceived
  have hall := (h _).of_run hc 0x81 w hw fun event he => by
    rw [hempty] at he
    cases he
  rw [hwritten, of_decide_eq_true hreceived] at hall
  cases hall

end Connection
end Lusbip
