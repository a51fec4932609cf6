import Lusbip.Session.Accepted

/-!
# No accepted URB is orphaned

`NoOrphan` says of the books of the handler that every URB on record has exactly one place,
at its worker or on the way back. It holds throughout a session exactly as long as no
bulk-IN worker ends under a URB on record; a bulk-OUT worker never does.
-/

namespace Lusbip

open Lib.Transition

namespace Connection

variable {prof : Profile} {c t : Connection} {a : Action} {endpoint : UInt8}

/-- The URBs of an endpoint that are answered by an event of the session not yet delivered. -/
def inEventsAt (c : Connection) (endpoint : UInt8) : List UInt32 :=
  (c.inEvents.filter fun event => event.urb.session = c.session ∧ event.endpoint = endpoint).map
    (·.seqnum)

def outEventsAt (c : Connection) (endpoint : UInt8) : List UInt32 :=
  (c.outEvents.filter fun event => event.urb.session = c.session ∧ event.urb.ep = endpoint).map
    (·.seqnum)

/-- Nothing is queued, at work or on its way. -/
structure Idle (c : Connection) : Prop where
  ins : ∀ ep w, c.ins ep = some w → w.queue = [] ∧ w.pending.seqnums = []
  outs : ∀ ep w, c.outs ep = some w → w.commands = []
  inEvents : c.inEvents = []
  outEvents : c.outEvents = []

/-- Every URB on record is in one place: in the queue of its worker, pending there with its
    request, or in an event. So with all queues and workers idle, none is on record. -/
structure NoOrphan (c : Connection) : Prop where
  ins : ∀ k ep, c.bulkInSeqnums k = some ep → ∃ w, c.ins ep = some w ∧
    w.places k + (c.inEventsAt ep).count k = 1
  outs : ∀ k ∈ c.pendingBulkOut, ∃ ep w, c.bulkOutSeqnums k = some ep ∧ c.outs ep = some w ∧
    w.held.count k + (c.outEventsAt ep).count k = 1
  idle : c.Idle → (∀ k, c.bulkInSeqnums k = none) ∧ c.pendingBulkOut = ∅

/-- None of the URBs that the worker of the endpoint holds is on record. -/
def Unrecorded (c : Connection) (endpoint : UInt8) (w : InWorker) : Prop :=
  ∀ k ∈ w.held, c.bulkInSeqnums k ≠ some endpoint

instance (c : Connection) (endpoint : UInt8) (w : InWorker) : Decidable (c.Unrecorded endpoint w) :=
  List.decidableBAll _ _

/-- A worker ends only while none of its URBs is on record. -/
def EndsClean (c : Connection) : Action → Prop
  | .inOpened endpoint maxPacketSize => ∀ w ∈ c.ins endpoint, w.Ends (.opened maxPacketSize) →
      c.Unrecorded endpoint w
  | .inBarrier endpoint => ∀ w ∈ c.ins endpoint, ∀ result ∈ c.barrierResult w,
      w.Ends (.barrierResult result) → c.Unrecorded endpoint w
  | _ => True

instance (c : Connection) : ∀ a : Action, Decidable (c.EndsClean a)
  | .inOpened endpoint maxPacketSize =>
      inferInstanceAs (Decidable (∀ w ∈ c.ins endpoint, w.Ends (.opened maxPacketSize) → _))
  | .inBarrier endpoint =>
      inferInstanceAs (Decidable (∀ w ∈ c.ins endpoint, ∀ result ∈ c.barrierResult w,
        w.Ends (.barrierResult result) → _))
  | .submit _ | .unlink _ _ | .importRequest | .shutdownSent _ | .importDone _ | .deliverIn
  | .deliverOut | .controlFlush _ | .controlResult | .execute _ | .inFlush _ | .inCommand _
  | .inCompletion _ _ | .outMove _ _ => isTrue trivial

theorem noOrphan_of_books {seqnums : List UInt32} (hn : seqnums.Nodup)
    (hin : InBooks seqnums c.inEventsAt c.ins c.bulkInSeqnums)
    (hout : OutBooks seqnums c.outEventsAt c.outs c.pendingBulkOut c.bulkOutSeqnums) :
    c.NoOrphan := by
  have hone : ∀ k, seqnums.count k ≤ 1 := List.nodup_iff_count_le_one.mp hn
  -- A number on the books has at least one place, and having been issued once it has no second.
  have hins : ∀ k ep, c.bulkInSeqnums k = some ep → ∃ w, c.ins ep = some w ∧
      w.places k + (c.inEventsAt ep).count k = 1 := by
    intro k ep hr
    obtain ⟨w, hw, -, hplace⟩ := hin.kept k ep hr
    refine ⟨w, hw, ?_⟩
    have hle := hin.once ep w hw k
    have hheld := w.places_le_held k
    have hpos : 0 < w.places k + (c.inEventsAt ep).count k := by
      rcases hplace with hwaits | hevent
      · exact Nat.add_pos_left hwaits.places_pos _
      · exact Nat.add_pos_right _ (List.count_pos_iff.mpr hevent)
    have := hone k
    omega
  have houts : ∀ k ∈ c.pendingBulkOut, ∃ ep w, c.bulkOutSeqnums k = some ep ∧
      c.outs ep = some w ∧ w.held.count k + (c.outEventsAt ep).count k = 1 := by
    intro k hk
    obtain ⟨ep, w, hr, hw, hplace⟩ := hout.kept k hk
    refine ⟨ep, w, hr, hw, ?_⟩
    have hle := hout.once ep w hw k
    have hpos : 0 < w.held.count k + (c.outEventsAt ep).count k := by
      rcases hplace with hheld | hevent
      · exact Nat.add_pos_left (List.count_pos_iff.mpr hheld) _
      · exact Nat.add_pos_right _ (List.count_pos_iff.mpr hevent)
    have := hone k
    omega
  -- With the workers idle and no event queued there is no such place, so the books are empty.
  refine ⟨hins, houts, fun hidle => ⟨fun k => ?_, ?_⟩⟩
  · by_contra hne
    obtain ⟨ep, hr⟩ := Option.ne_none_iff_exists'.mp hne
    obtain ⟨w, hw, hone⟩ := hins k ep hr
    obtain ⟨hqueue, hpending⟩ := hidle.ins ep w hw
    simp [InWorker.places, inEventsAt, hqueue, hpending, hidle.inEvents] at hone
  · refine Finset.eq_empty_of_forall_notMem fun k hk => ?_
    obtain ⟨ep, w, -, hw, hone⟩ := houts k hk
    simp [OutWorker.held, outEventsAt, hidle.outs ep w hw, hidle.outEvents] at hone

/-! ## A step -/

section Events

variable {α : Type} {session : α → Nat} {place : α → UInt8} {seqnum : α → UInt32} {n : Nat}

/-- Events that are all of the session and of one endpoint are added to that endpoint's. -/
theorem eventsAt_append {events new : List α}
    (h : ∀ event ∈ new, session event = n ∧ place event = endpoint) :
    (fun ep => ((events ++ new).filter fun e => session e = n ∧ place e = ep).map seqnum) =
      Function.update (fun ep => (events.filter fun e => session e = n ∧ place e = ep).map seqnum)
        endpoint ((events.filter fun e => session e = n ∧ place e = endpoint).map seqnum ++
          new.map seqnum) := by
  funext ep
  rw [List.filter_append, List.map_append]
  by_cases hep : ep = endpoint
  · subst hep
    rw [Function.update_self, List.filter_eq_self.mpr fun e he => decide_eq_true (h e he)]
  · have hnil : new.filter (fun e => session e = n ∧ place e = ep) = [] := by
      refine List.filter_eq_nil_iff.mpr fun e he hd => hep ?_
      rw [← (h e he).2, (of_decide_eq_true hd).2]
    rw [Function.update_of_ne hep, hnil, List.map_nil, List.append_nil]

/-- Taking an event off the queue loses no other. -/
theorem mem_eventsAt_of_ne {event : α} {rest : List α} {p : α → Bool} {k : UInt32}
    (hk : k ≠ seqnum event) (hm : k ∈ ((event :: rest).filter p).map seqnum) :
    k ∈ (rest.filter p).map seqnum := by
  rw [List.filter_cons] at hm
  split at hm
  · exact (List.mem_cons.mp hm).resolve_left hk
  · exact hm

end Events

theorem inEventsAt_append {events : List BulkInEvent}
    (h : ∀ event ∈ events, event.urb.session = c.session ∧ event.endpoint = endpoint)
    (ins : UInt8 → Option InWorker) :
    inEventsAt { c with ins := ins, inEvents := c.inEvents ++ events } =
      Function.update c.inEventsAt endpoint (c.inEventsAt endpoint ++ events.map (·.seqnum)) :=
  eventsAt_append h

theorem outEventsAt_append {events : List BulkOutEvent}
    (h : ∀ event ∈ events, event.urb.session = c.session ∧ event.urb.ep = endpoint)
    (outs : UInt8 → Option OutWorker) :
    outEventsAt { c with outs := outs, outEvents := c.outEvents ++ events } =
      Function.update c.outEventsAt endpoint
        (c.outEventsAt endpoint ++ events.map (·.seqnum)) :=
  eventsAt_append h

/-- The books on the bulk-IN URBs. -/
theorem inBooks_step {seqnums : List UInt32}
    (h : c.InSession → InBooks seqnums c.inEventsAt c.ins c.bulkInSeqnums)
    (he : Effect prof c a t) (hs : ∀ outcome, a ≠ .importDone outcome)
    (hown : ∀ endpoint w w' move events, c.ins endpoint = some w →
      w.step move = some (w', events) →
        ∀ event ∈ events, event.urb.session = c.session ∧ event.endpoint = endpoint)
    (hends : c.EndsClean a)
    (hnew : ∀ command, a = .submit command → command.header.seqnum ∉ seqnums) :
    t.InSession →
      InBooks (seqnums ++ (Chronicle.dispatchedBy c a).map fun p => p.2.header.seqnum)
        t.inEventsAt t.ins t.bulkInSeqnums := by
  have hsub : seqnums.Sublist
      (seqnums ++ (Chronicle.dispatchedBy c a).map fun p => p.2.header.seqnum) :=
    List.sublist_append_left _ _
  intro ht
  cases he with
  | ignored command hd hp => exact (h ht).mono hsub
  -- A new number enters the queue of the worker and the books at once.
  | submitIn command w hp hw hd hdir =>
    rw [Chronicle.dispatchedBy_submit hd]
    exact (h ht).submit hw ⟨command.header, command.transferBufferLength, c.urbOf command⟩
      (hnew command rfl)
  | submitOut command w hp hw hd hdir => exact (h ht).mono hsub
  | serve command remaining hp hr hd hn => exact (h (inSession_select hp)).mono hsub
  -- The number on the books is one of those issued, and leaves the books.
  | unlinkIn header seqnum endpoint ins hp hseq htold =>
    have hbooks := h ht
    obtain ⟨w, hw, -, hplace⟩ := hbooks.kept seqnum endpoint hseq
    have hk : seqnum ∈ seqnums := by
      have hle := hbooks.once endpoint w hw seqnum
      have hpos : 0 < w.held.count seqnum + (c.inEventsAt endpoint).count seqnum := by
        rcases hplace with hwaits | hevent
        · exact Nat.add_pos_left (List.count_pos_iff.mpr hwaits.mem_held) _
        · exact Nat.add_pos_right _ (List.count_pos_iff.mpr hevent)
      exact List.count_pos_iff.mp (hpos.trans_le hle)
    exact (hbooks.unlink hk htold).mono hsub
  | unlinkOut header seqnum endpoint outs hp hseq htold => exact (h ht).mono hsub
  | unlinkUnknown header seqnum hp => exact (h ht).mono hsub
  | importRequest hp => exact absurd rfl (ht _)
  | shutdownSent endpoint remaining outs hp htold => exact absurd rfl (ht _)
  | importDone outcome hp => exact absurd rfl (hs outcome)
  -- The event delivered takes its number off the books with it.
  | deliverIn event rest hp he =>
    have hbooks := (h (inSession_select hp)).mono hsub
    obtain ⟨hrest, hins, hsession⟩ := deliverIn_frame c event rest
    have hrec : (c.deliverIn event rest).bulkInSeqnums =
        Function.update c.bulkInSeqnums event.seqnum none := by
      rw [deliverIn_eq]
    rw [hins, hrec]
    refine hbooks.deliver (fun ep k => ?_) fun ep k hk hm => ?_
    · rw [inEventsAt, inEventsAt, hrest, hsession, he]
      exact (((List.sublist_cons_self event rest).filter _).map _).count_le k
    · rw [inEventsAt, hrest, hsession]
      rw [inEventsAt, he] at hm
      exact mem_eventsAt_of_ne hk hm
  | deliverOut event rest hp he =>
    obtain ⟨hins, hine, -, -⟩ := deliverOut_ins c event rest
    have hsession := (deliverOut_clock (c := c) event rest).2
    obtain ⟨hrec, -⟩ := deliverOut_records c event rest
    have hev : (c.deliverOut event rest).inEventsAt = c.inEventsAt := by
      funext ep
      rw [inEventsAt, inEventsAt, hine, hsession]
    rw [hins, hrec, hev]
    exact (h (inSession_select hp)).mono hsub
  | controlFlush command urb remaining endpoint w hp hw => exact (h (inSession_serving hp)).mono hsub
  | controlFailed a command urb remaining awaiting endpoint err hp ha =>
    exact (h (inSession_serving hp)).mono hsub
  | controlPassed command urb remaining endpoint sender w hp hw hr =>
    exact (h (inSession_serving hp)).mono hsub
  | execute host command urb device hp hd =>
    obtain ⟨hins, -, hine, -, -⟩ := execute_frame prof c command urb device host
    have hsession : (c.execute prof command urb device host).session = c.session :=
      (execute_clock command urb device host).2
    obtain ⟨hrec, -⟩ := execute_records prof c command urb device host
    have hev : (c.execute prof command urb device host).inEventsAt = c.inEventsAt := by
      funext ep
      rw [inEventsAt, inEventsAt, hine, hsession]
    rw [hins, hrec, hev]
    exact (h (inSession_serving hp)).mono hsub
  | inFlush endpoint w out o seqnum len hw ho hout hwp =>
    have hst : w.step (.flushSent ⟨c.nextReply, c.clock⟩) =
        some ({ w with phase := .barrier seqnum len (some ⟨c.nextReply, c.clock⟩) }, []) := by
      unfold InWorker.step
      simp only [hwp]
    refine (InBooks.move (h ht) hw hst (fun hends => hends.elim) ?_).mono hsub
    rw [List.map_nil, List.append_nil, Function.update_eq_self]
    rfl
  -- What the worker lets go of it reports in an event, unless it ends.
  | inMove endpoint move w w' events hw hst hf hb =>
    refine (InBooks.move (h ht) hw hst (fun hmove => ?_) ?_).mono hsub
    · cases move with
      | opened maxPacketSize => exact hends w hw hmove
      | barrierResult result => exact hends w hw result (hb result rfl) hmove
      | _ => exact hmove.elim
    · exact inEventsAt_append (hown endpoint w w' move events hw hst) _
  | outMove endpoint move w w' events hw hst => exact (h ht).mono hsub

/-- The books on the bulk-OUT URBs. -/
theorem outBooks_step {seqnums : List UInt32}
    (h : c.InSession → OutBooks seqnums c.outEventsAt c.outs c.pendingBulkOut c.bulkOutSeqnums)
    (he : Effect prof c a t) (hs : ∀ outcome, a ≠ .importDone outcome) (hrun : c.Running)
    (hown : ∀ endpoint w w' events, c.outs endpoint = some w → OutWorker.Turn w w' events →
      ∀ event ∈ events, event.urb.session = c.session ∧ event.urb.ep = endpoint)
    (hgen : ∀ event ∈ c.outEvents, event.urb.session = c.session →
      event.generation = c.bulkOutGeneration) :
    t.InSession →
      OutBooks (seqnums ++ (Chronicle.dispatchedBy c a).map fun p => p.2.header.seqnum)
        t.outEventsAt t.outs t.pendingBulkOut t.bulkOutSeqnums := by
  have hsub : seqnums.Sublist
      (seqnums ++ (Chronicle.dispatchedBy c a).map fun p => p.2.header.seqnum) :=
    List.sublist_append_left _ _
  intro ht
  cases he with
  | ignored command hd hp => exact (h ht).mono hsub
  | submitIn command w hp hw hd hdir => exact (h ht).mono hsub
  | submitOut command w hp hw hd hdir =>
    rw [Chronicle.dispatchedBy_submit hd]
    exact (h ht).submit hw ⟨command.header, command.data, c.bulkOutGeneration, c.urbOf command⟩
  | serve command remaining hp hr hd hn => exact (h (inSession_select hp)).mono hsub
  | unlinkIn header seqnum endpoint ins hp hseq htold => exact (h ht).mono hsub
  | unlinkOut header seqnum endpoint outs hp hseq htold =>
    have hbooks := ((h ht).told htold rfl).mono hsub
    exact hbooks.forget seqnum (fun _ _ => le_rfl) fun _ _ _ hm => hm
  | unlinkUnknown header seqnum hp => exact (h ht).mono hsub
  | importRequest hp => exact absurd rfl (ht _)
  | shutdownSent endpoint remaining outs hp htold => exact absurd rfl (ht _)
  | importDone outcome hp => exact absurd rfl (hs outcome)
  | deliverIn event rest hp he =>
    obtain ⟨houts, houte, -, -⟩ := deliverIn_outs c event rest
    have hsession := (deliverIn_clock (c := c) event rest).2
    have hrec : (c.deliverIn event rest).pendingBulkOut = c.pendingBulkOut ∧
        (c.deliverIn event rest).bulkOutSeqnums = c.bulkOutSeqnums := by
      rw [deliverIn_eq]
      exact ⟨rfl, rfl⟩
    have hev : (c.deliverIn event rest).outEventsAt = c.outEventsAt := by
      funext ep
      rw [outEventsAt, outEventsAt, houte, hsession]
    rw [houts, hrec.1, hrec.2, hev]
    exact (h (inSession_select hp)).mono hsub
  | deliverOut event rest hp he =>
    have hbooks := (h (inSession_select hp)).mono hsub
    obtain ⟨hrest, houts, hsession⟩ := deliverOut_frame c event rest
    have hcount : ∀ ep k, ((c.deliverOut event rest).outEventsAt ep).count k ≤
        (c.outEventsAt ep).count k := by
      intro ep k
      rw [outEventsAt, outEventsAt, hrest, hsession, he]
      exact (((List.sublist_cons_self event rest).filter _).map _).count_le k
    rw [houts]
    by_cases hg : shouldWriteBulkOutResponse c.bulkOutGeneration event.generation = true
    · have hrec : (c.deliverOut event rest).pendingBulkOut = c.pendingBulkOut.erase event.seqnum ∧
          (c.deliverOut event rest).bulkOutSeqnums =
            Function.update c.bulkOutSeqnums event.seqnum none := by
        rw [deliverOut_eq, if_pos hg]
        exact ⟨rfl, rfl⟩
      rw [hrec.1, hrec.2]
      refine hbooks.forget event.seqnum hcount fun ep k hk hm => ?_
      rw [outEventsAt, hrest, hsession]
      rw [outEventsAt, he] at hm
      exact mem_eventsAt_of_ne hk hm
    · -- An event that is dropped is one of an earlier session.
      have hold : event.urb.session ≠ c.session := by
        intro hs
        refine hg (decide_eq_true ?_)
        exact (hgen event (he ▸ List.mem_cons_self) hs).symm
      have hrec : (c.deliverOut event rest).pendingBulkOut = c.pendingBulkOut ∧
          (c.deliverOut event rest).bulkOutSeqnums = c.bulkOutSeqnums := by
        rw [deliverOut_eq, if_neg hg]
        exact ⟨rfl, rfl⟩
      have hev : (c.deliverOut event rest).outEventsAt = c.outEventsAt := by
        funext ep
        rw [outEventsAt, outEventsAt, hrest, hsession, he, List.filter_cons, if_neg]
        simp [hold]
      rw [hrec.1, hrec.2, hev]
      exact hbooks
  | controlFlush command urb remaining endpoint w hp hw =>
    exact ((h (inSession_serving hp)).told (toldOut_push hw (.flush _)) rfl).mono hsub
  | controlFailed a command urb remaining awaiting endpoint err hp ha =>
    exact (h (inSession_serving hp)).mono hsub
  | controlPassed command urb remaining endpoint sender w hp hw hr =>
    exact (h (inSession_serving hp)).mono hsub
  | execute host command urb device hp hd =>
    obtain ⟨-, houts, -, houte, -⟩ := execute_frame prof c command urb device host
    have hsession : (c.execute prof command urb device host).session = c.session :=
      (execute_clock command urb device host).2
    obtain ⟨-, hpending, hrec, -⟩ := execute_records prof c command urb device host
    have hev : (c.execute prof command urb device host).outEventsAt = c.outEventsAt := by
      funext ep
      rw [outEventsAt, outEventsAt, houte, hsession]
    rw [houts, hpending, hrec, hev]
    exact (h (inSession_serving hp)).mono hsub
  | inFlush endpoint w out o seqnum len hw ho hout hwp =>
    exact ((h ht).told (toldOut_push hout (.flush _)) rfl).mono hsub
  | inMove endpoint move w w' events hw hst hf hb => exact (h ht).mono hsub
  | outMove endpoint move w w' events hw hst =>
    have hturn := OutWorker.step_turn hst
    refine (OutBooks.move (h ht) hw (hrun ht endpoint w hw) hturn ?_).mono hsub
    exact outEventsAt_append (hown endpoint w w' events hw hturn) _

/-! ## Generations -/

/-- The bulk-OUT URBs of a session carry its generation. -/
structure Generations (c : Connection) : Prop where
  outs : ∀ ep w, c.outs ep = some w → ∀ request, .submit request ∈ w.commands →
    request.generation = c.bulkOutGeneration
  events : ∀ event ∈ c.outEvents, event.urb.session = c.session →
    event.generation = c.bulkOutGeneration

theorem generations_init : Generations {} :=
  ⟨fun _ _ h => (nomatch h), fun _ h => (nomatch h)⟩

/-- Only new URBs are given a generation. -/
theorem Generations.step (h : Generations c) (he : Effect prof c a t)
    (hs : ∀ outcome, a ≠ .importDone outcome) : Generations t := by
  have hgen := he.generation hs
  have hsession : t.session = c.session :=
    he.session.resolve_left fun ⟨outcome, ha, _⟩ => hs outcome ha
  refine ⟨fun ep w hw request hr => ?_, fun event hevent hes => ?_⟩
  · rw [hgen]
    cases he.out hw with
    | started outcome ha hp => exact absurd ha (hs outcome)
    | kept w hw' => exact h.outs ep w hw' request hr
    | told w command hw' hc =>
      rw [OutWorker.commands_push] at hr
      rcases List.mem_append.mp hr with hr | hr
      · exact h.outs ep w hw' request hr
      · obtain rfl := List.mem_singleton.mp hr
        cases hc with
        | submit command hp hdir => rfl
    | moved w w' move events hw' ha hst =>
      exact h.outs ep w hw' request ((OutWorker.step_turn hst).moves.commands.subset hr)
  · rw [hgen]
    rcases he.outEvent hevent with hold | ⟨endpoint, move, w, w', events, -, hw, hst, hnew⟩
    · exact h.events event hold (hes.trans hsession)
    · obtain ⟨request, hr, -, hrequest⟩ := ((OutWorker.step_turn hst).moves.answers event hnew).held
      exact hrequest.trans (h.outs endpoint w hw request hr)

end Connection

namespace Chronicle

variable {prof : Profile} {torn : Urb → Nat} {s t : Chronicle} {a : Action}

/-- The sequence numbers that the client has used in the session. -/
def sessionSeqnums (s : Chronicle) : List UInt32 :=
  (s.submits.filter fun p => p.1.session = s.conn.session).map fun p => p.2.header.seqnum

/-- No sequence number is used again in its session. -/
def UsesNew (s : Chronicle) : Action → Prop
  | .submit command => command.header.seqnum ∉ s.sessionSeqnums
  | _ => True

instance (s : Chronicle) : ∀ a : Action, Decidable (s.UsesNew a)
  | .submit command => inferInstanceAs (Decidable (command.header.seqnum ∉ s.sessionSeqnums))
  | .unlink _ _ | .importRequest | .shutdownSent _ | .importDone _ | .deliverIn | .deliverOut
  | .controlFlush _ | .controlResult | .execute _ | .inFlush _ | .inBarrier _ | .inOpened _ _
  | .inCommand _ | .inCompletion _ _ | .outMove _ _ => isTrue trivial

/-- In a session, no URB is orphaned. -/
def Sound (s : Chronicle) : Prop := s.conn.InSession → s.conn.NoOrphan

structure Accepting (s : Chronicle) : Prop where
  traced : Traced (fun _ _ => True) s
  dated : Dated s
  running : s.conn.Running
  aborted : s.conn.Aborted
  generations : s.conn.Generations
  nodup : s.sessionSeqnums.Nodup
  ins : s.conn.InSession →
    InBooks s.sessionSeqnums s.conn.inEventsAt s.conn.ins s.conn.bulkInSeqnums
  outs : s.conn.InSession → OutBooks s.sessionSeqnums s.conn.outEventsAt s.conn.outs
    s.conn.pendingBulkOut s.conn.bulkOutSeqnums

theorem accepting_init : Accepting {} where
  traced := traced_init
  dated := dated_init
  running := Connection.running_init
  aborted _ _ _ := rfl
  generations := Connection.generations_init
  nodup := List.nodup_nil
  ins _ := ⟨fun _ _ h => (nomatch h), fun _ _ h => (nomatch h), fun _ _ h => (nomatch h)⟩
  outs _ := ⟨fun _ _ h => (nomatch h), fun _ h => absurd h (Finset.notMem_empty _)⟩

theorem Accepting.sound (h : Accepting s) : s.Sound := fun hin =>
  Connection.noOrphan_of_books h.nodup (h.ins hin) (h.outs hin)

/-- A step in a session appends what it dispatches. -/
theorem sessionSeqnums_append (s : Chronicle) (c : Connection)
    (hs : c.session = s.conn.session) (a : Action) (handed : UInt8 → List UInt8) :
    (Chronicle.mk c (s.submits ++ dispatchedBy s.conn a) handed).sessionSeqnums =
      s.sessionSeqnums ++ (dispatchedBy s.conn a).map fun p => p.2.header.seqnum := by
  have hnew : (dispatchedBy s.conn a).filter (fun p => p.1.session = s.conn.session) =
      dispatchedBy s.conn a := by
    refine List.filter_eq_self.mpr fun p hp => decide_eq_true ?_
    cases a with
    | submit command =>
      unfold dispatchedBy at hp
      dsimp only at hp
      split at hp
      · cases hp
      · rw [List.mem_singleton.mp hp]
        rfl
    | _ => cases hp
  simp only [sessionSeqnums, hs, List.filter_append, List.map_append, hnew]

/-- A new session begins with no URB at all. -/
theorem Dated.sessionSeqnums_eq_nil (h : Dated s) (c : Connection)
    (hs : c.session = s.conn.session + 1) (handed : UInt8 → List UInt8) :
    (Chronicle.mk c s.submits handed).sessionSeqnums = [] := by
  have hnil : s.submits.filter (fun p => p.1.session = c.session) = [] := by
    refine List.filter_eq_nil_iff.mpr fun p hp hd => ?_
    have := h.session p hp
    have := of_decide_eq_true hd
    omega
  rw [sessionSeqnums, hnil, List.map_nil]

/-- An import leaves no URB on record. -/
theorem Accepting.import_step (h : Accepting s) {outcome : ImportOutcome}
    (ht : step prof torn s (.importDone outcome) = some t) : Accepting t := by
  have htraced := h.traced.step admits_true (makes_true prof s _) ht
  have hdated := h.dated.step ht
  obtain ⟨c, submits, handed⟩ := t
  obtain ⟨he, rfl, rfl⟩ : Connection.Effect prof s.conn (.importDone outcome) c ∧
    submits = s.submits ++ [] ∧ handed = s.handedAfter torn (.importDone outcome) :=
    step_eq_some ht
  have hrunning := h.running.step he
  have haborted := h.aborted.step he
  obtain ⟨rfl, -⟩ := he.importDone_eq rfl
  have hsession : (s.conn.importDone outcome).session = s.conn.session + 1 :=
    Connection.importDone_session outcome
  have hseqnums : (Chronicle.mk (s.conn.importDone outcome) (s.submits ++ [])
      (s.handedAfter torn (.importDone outcome))).sessionSeqnums = [] := by
    rw [List.append_nil]
    exact h.dated.sessionSeqnums_eq_nil _ hsession _
  -- The events that are still queued are of earlier sessions.
  have hold : ∀ urb command, (urb, command) ∈ s.submits →
      urb.session ≠ (s.conn.importDone outcome).session := by
    intro urb command hm heq
    have := h.dated.session _ hm
    simp only [heq, hsession] at this
    omega
  have hin : ∀ ep, (s.conn.importDone outcome).inEventsAt ep = [] := by
    intro ep
    rw [Connection.inEventsAt, (Connection.importDone_frame s.conn outcome).1]
    refine List.map_eq_nil_iff.mpr (List.filter_eq_nil_iff.mpr fun e he hd => ?_)
    obtain ⟨command, hm, -⟩ := h.traced.inEvents e he
    exact hold _ command hm (of_decide_eq_true hd).1
  have hout : ∀ ep, (s.conn.importDone outcome).outEventsAt ep = [] := by
    intro ep
    rw [Connection.outEventsAt, (Connection.importDone_frame s.conn outcome).2.1]
    refine List.map_eq_nil_iff.mpr (List.filter_eq_nil_iff.mpr fun e he hd => ?_)
    obtain ⟨command, hm, -⟩ := h.traced.outEvents e he
    exact hold _ command hm (of_decide_eq_true hd).1
  refine ⟨htraced, hdated, hrunning, haborted, ⟨?_, ?_⟩, ?_, fun _ => ?_, fun _ => ?_⟩
  · intro ep w hw request hr
    rw [Connection.importDone_outs hw] at hr
    cases hr
  · intro event he hs
    have he' : event ∈ s.conn.outEvents :=
      (Connection.importDone_frame s.conn outcome).2.1 ▸ he
    obtain ⟨command, hm, -⟩ := h.traced.outEvents event he'
    exact absurd hs (hold _ command hm)
  · rw [hseqnums]
    exact List.nodup_nil
  · rw [hseqnums]
    refine ⟨fun ep w hw k => ?_, fun ep w hw k hm => ?_, fun k ep hr => ?_⟩
    · obtain ⟨out, rfl⟩ := Connection.importDone_ins hw
      simp [hin, InWorker.held]
    · obtain ⟨out, rfl⟩ := Connection.importDone_ins hw
      cases hm
    · cases outcome <;> cases hr
  · rw [hseqnums]
    refine ⟨fun ep w hw k => ?_, fun k hk => ?_⟩
    · rw [Connection.importDone_outs hw]
      simp [hout, OutWorker.held, OutWorker.commands]
    · cases outcome <;> exact absurd hk (Finset.notMem_empty _)

/-- **The step lemma.** -/
theorem Accepting.step (h : Accepting s) (hnew : s.UsesNew a) (hends : s.conn.EndsClean a)
    (ht : step prof torn s a = some t) : Accepting t := by
  by_cases himport : ∃ outcome, a = .importDone outcome
  · obtain ⟨outcome, rfl⟩ := himport
    exact h.import_step ht
  have hno : ∀ outcome, a ≠ .importDone outcome := fun outcome ha => himport ⟨outcome, ha⟩
  have htraced := h.traced.step admits_true (makes_true prof s a) ht
  have hdated := h.dated.step ht
  obtain ⟨c, submits, handed⟩ := t
  obtain ⟨he, rfl, rfl⟩ : Connection.Effect prof s.conn a c ∧
    submits = s.submits ++ dispatchedBy s.conn a ∧ handed = s.handedAfter torn a := step_eq_some ht
  have hsession : c.session = s.conn.session :=
    he.session.resolve_left fun ⟨outcome, ha, _⟩ => hno outcome ha
  have hfresh : ∀ command, a = .submit command →
      command.header.seqnum ∉ s.sessionSeqnums := by
    rintro command rfl
    exact hnew
  refine ⟨htraced, hdated, h.running.step he, h.aborted.step he, h.generations.step he hno,
    ?_, ?_, ?_⟩
  · rw [sessionSeqnums_append s c hsession]
    refine h.nodup.append ?_ ?_
    · unfold dispatchedBy
      split
      · split
        · exact List.nodup_nil
        · exact List.nodup_singleton _
      · exact List.nodup_nil
    · intro k hk hk'
      obtain ⟨p, hp, rfl⟩ := List.mem_map.mp hk'
      unfold dispatchedBy at hp
      split at hp
      · rename_i command
        split at hp
        · cases hp
        · rw [List.mem_singleton.mp hp] at hk
          exact hfresh command rfl hk
      · cases hp
  · rw [sessionSeqnums_append s c hsession]
    exact Connection.inBooks_step h.ins he hno
      (fun endpoint w w' move events hw hs => h.traced.inEvents_own hw hs) hends hfresh
  · rw [sessionSeqnums_append s c hsession]
    exact Connection.outBooks_step h.outs he hno h.running
      (fun endpoint w w' events hw hs => h.traced.outEvents_own hw hs) h.generations.events

/-- A worker that ends under a URB on record orphans it: the URB is nowhere any more. -/
theorem Accepting.endsClean (h : Accepting s) (ht : Chronicle.step prof torn s a = some t)
    (hq : t.Sound) : s.conn.EndsClean a := by
  obtain ⟨c, submits, handed⟩ := t
  obtain ⟨he, -, -⟩ := step_eq_some ht
  replace he : Connection.Effect prof s.conn a c := he
  replace hq : c.InSession → c.NoOrphan := hq
  cases he with
  | inMove endpoint move w w' events hw hst hf hb =>
    have hin : s.conn.InSession := fun remaining hp =>
      nomatch hw.symm.trans (h.aborted remaining hp endpoint)
    -- All that would be left of the URB is its event, but the worker still had it.
    have hclean : w.Ends move → ∀ k ∈ w.held, s.conn.bulkInSeqnums k ≠ some endpoint := by
      intro hends k hk hr
      obtain ⟨hplaces, rfl⟩ := hends.step hst
      obtain ⟨v, hv, hone⟩ := (hq hin).ins k endpoint hr
      replace hv : Function.update s.conn.ins endpoint (some w') endpoint = some v := hv
      rw [Function.update_self, Option.some.injEq] at hv
      have hevents : (Connection.inEventsAt { s.conn with
          ins := Function.update s.conn.ins endpoint (some w')
          inEvents := s.conn.inEvents ++ [] } endpoint) = s.conn.inEventsAt endpoint := by
        simp only [Connection.inEventsAt, List.append_nil]
      rw [← hv, hplaces k, hevents] at hone
      have hle := (h.ins hin).once endpoint w hw k
      have hpos := List.count_pos_iff.mpr hk
      have hnodup := List.nodup_iff_count_le_one.mp h.nodup k
      omega
    cases move with
    | opened maxPacketSize =>
      intro v hv
      rw [hw, Option.mem_some_iff] at hv
      subst hv
      exact hclean
    | barrierResult result =>
      intro v hv result' hr'
      rw [hw, Option.mem_some_iff] at hv
      subst hv
      rw [hb result rfl, Option.mem_some_iff] at hr'
      subst hr'
      exact hclean
    | _ => trivial
  | controlFailed a command urb remaining awaiting endpoint err hp ha =>
    rcases ha with rfl | rfl <;> trivial
  | _ => trivial

/-- **URBs are orphaned exactly by workers that end under them.** In a run in which no
    sequence number comes twice in a session, every URB on record has its one place in every
    state, if and only if no step ends a bulk-IN worker that still has one. -/
theorem sound_iff_endsClean (prof : Profile) (torn : Urb → Nat) (acts : List Action)
    (hd : Along (step prof torn) UsesNew {} acts) :
    Throughout (step prof torn) Sound {} acts ↔
      Along (step prof torn) (fun s => s.conn.EndsClean) {} acts :=
  throughout_iff_along_within (I := Accepting)
    (fun _ _ _ h hnew hends ht => h.step hnew hends ht) (fun _ h => h.sound)
    (fun _ _ _ h _ ht hq => h.endsClean ht hq) accepting_init hd

/-- Reads are submitted, and one of them unlinked, before the endpoint is open. -/
theorem readBeforeOpen_sound :
    Throughout (step .release fun _ => 0) Sound {} ([.importRequest,
      .importDone (.succeeded Connection.serialPort fun _ => true), Connection.submitRead 1,
      Connection.submitRead 2, Connection.unlinkUrb 3 1, .inOpened 0x81 (some 64),
      .inCommand 0x81] ++ Connection.startRead ++ [.inCompletion 0x81 (.ok [0x2A]),
      .deliverIn]) :=
  (sound_iff_endsClean .release _ _ (by decide +kernel)).mpr (by decide +kernel)

/-- **A URB is lost when its endpoint cannot be opened.** The import is through and the read
    accepted when the worker finds out. -/
theorem openFails_not_sound :
    ¬ ∀ prof torn acts, Along (step prof torn) UsesNew {} acts →
      Throughout (step prof torn) Sound {} acts := by
  intro h
  have hsound := h .release (fun _ => 0) [.importRequest,
    .importDone (.succeeded Connection.serialPort fun _ => true), Connection.submitRead 1,
    .inOpened 0x81 none] (by decide +kernel)
  have hends : ¬ Along (step .release fun _ => 0) (fun s => s.conn.EndsClean) {}
      [.importRequest, .importDone (.succeeded Connection.serialPort fun _ => true),
        Connection.submitRead 1, .inOpened 0x81 none] := by decide +kernel
  exact hends ((sound_iff_endsClean .release _ _ (by decide +kernel)).mp hsound)

end Chronicle
end Lusbip
