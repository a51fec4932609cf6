import Lusbip.Session.BulkInReplies

/-!
# Bulk-IN completions keep their order

The replies to the IN URBs of an endpoint come in the order of their commands. `InTurn` is the
invariant: replies and line together are in that order, since a URB is answered from the head
of its line only. A URB that the handler serves itself is answered at once, before the events
that are still queued. Where one of them is of the same endpoint the order is lost: the worker
had completed a read, then panicked at a length that there is no buffer for, and the handler
took over. `WaitsItsTurn` leaves out just that.

With the replies the data stays in order as well: the payloads that are written are those of
the physical reads, some left out, each for the URB that its read was for.
-/

namespace Lusbip

open Lib.Transition

/-- `urb'` is of another session or endpoint, or comes later. -/
def Urb.Before (urb urb' : Urb) : Prop :=
  urb.session = urb'.session → urb.ep = urb'.ep → urb.index < urb'.index

namespace Chronicle

variable {prof : Profile} {torn : Urb → Nat} {s t : Chronicle} {a : Action}

/-! ## The invariant -/

/-- The workers of a session hold URBs of different numbers, among those that were used. -/
theorem orderly_step (h : ∀ ep w, s.conn.ins ep = some w → w.Orderly s.sessionSeqnums)
    (hnew : s.UsesNew a) (ht : step prof torn s a = some t) :
    ∀ ep w, t.conn.ins ep = some w → w.Orderly t.sessionSeqnums := by
  obtain ⟨c, submits, handed⟩ := t
  obtain ⟨he, rfl, rfl⟩ : Connection.Effect prof s.conn a c ∧
    submits = s.submits ++ dispatchedBy s.conn a ∧ handed = s.handedAfter torn a := step_eq_some ht
  by_cases himport : ∃ outcome, a = .importDone outcome
  · obtain ⟨outcome, rfl⟩ := himport
    obtain ⟨rfl, -⟩ := he.importDone_eq rfl
    intro ep w hw
    obtain ⟨out, rfl⟩ := Connection.importDone_ins hw
    exact InWorker.orderly_start _ _
  -- Only an import begins a session, and with it new numbers.
  have hsession : c.session = s.conn.session :=
    he.session.resolve_left fun ⟨outcome, ha, _⟩ => himport ⟨outcome, ha⟩
  rw [sessionSeqnums_append s c hsession]
  have hmono : ∀ ep w, s.conn.ins ep = some w →
      w.Orderly (s.sessionSeqnums ++ (dispatchedBy s.conn a).map fun p => p.2.header.seqnum) :=
    fun ep w hw => (h ep w hw).mono (List.subset_append_left _ _)
  cases he with
  | submitIn command w hp hw hdev hdir =>
    refine Connection.forall_update_some (fun ep v _ hv => hmono ep v hv) ?_
    rw [dispatchedBy_submit hdev]
    exact (h _ w hw).push_submit
      ⟨command.header, command.transferBufferLength, s.conn.urbOf command⟩ hnew
  | unlinkIn header seqnum endpoint ins hp hseq htold =>
    rcases htold with rfl | ⟨w, hw, rfl⟩
    · exact hmono
    · exact Connection.forall_update_some (fun ep v _ hv => hmono ep v hv)
        ((hmono _ w hw).push_unlink seqnum)
  | importRequest hp => exact fun _ _ hw => nomatch hw
  | importDone outcome hp => exact absurd ⟨outcome, rfl⟩ himport
  | deliverIn event rest hp he =>
    rw [(Connection.deliverIn_frame s.conn event rest).2.1]
    exact hmono
  | deliverOut event rest hp he =>
    rw [(Connection.deliverOut_ins s.conn event rest).1]
    exact hmono
  | execute host command urb device hp hdev =>
    rw [(Connection.execute_frame prof s.conn command urb device host).1]
    exact hmono
  | inFlush endpoint w out o seqnum len hw ho hout hwp =>
    have hst : w.step (.flushSent ⟨s.conn.nextReply, s.conn.clock⟩) =
        some ({ w with phase := .barrier seqnum len (some ⟨s.conn.nextReply, s.conn.clock⟩) },
          []) := by
      simp only [InWorker.step, hwp]
    exact Connection.forall_update_some (fun ep v _ hv => hmono ep v hv) ((hmono _ w hw).step hst)
  | inMove endpoint move w w' events hw hs hf hb =>
    exact Connection.forall_update_some (fun ep v _ hv => hmono ep v hv) ((hmono _ w hw).step hs)
  | _ => exact hmono

/-! ## Barriers of a client that uses no number twice -/

/-- A worker does not hold the number of its barrier in its queue as well. -/
theorem notResubmitted_of_orderly {seqnums : List UInt32} (hg : s.conn.Guarded)
    (h : ∀ ep w, s.conn.ins ep = some w → w.Orderly seqnums) (a : Action) :
    s.conn.NotResubmitted a := by
  cases a with
  | inBarrier endpoint =>
    intro w hw seqnum hs hm
    have hhead := (hg.ins _ w hw).head seqnum hs
    exact (List.nodup_append.mp (h _ w hw).nodup).2.2 seqnum hm seqnum hhead rfl
  | _ => trivial

/-- For a client that uses no sequence number twice in a session, writes come before reads in
    every run. -/
theorem writesFirst_of_usesNew (prof : Profile) (torn : Urb → Nat) (acts : List Action)
    (h : Along (step prof torn) UsesNew {} acts) :
    Throughout (step prof torn) (fun s => s.conn.WritesFirst) {} acts := by
  refine throughout_of_along
    (I := fun s => s.conn.Guarded ∧ ∀ ep w, s.conn.ins ep = some w → w.Orderly s.sessionSeqnums)
    (fun s a t hs hnew ht => ?_) (fun _ hs => hs.1.writesFirst) ⟨Connection.guarded_init, ?_⟩ h
  · obtain ⟨hg, ho⟩ := hs
    exact ⟨hg.step (notResubmitted_of_orderly hg ho a) (step_eq_some ht).1, orderly_step ho hnew ht⟩
  · exact fun _ _ hw => nomatch hw

/-! ## Replies in the order of the commands -/

/-- The replies to IN URBs and the lines behind them are in the order of the commands. -/
structure InTurn (s : Chronicle) : Prop where
  traced : Traced (fun _ _ => True) s
  dated : Dated s
  leftOver : s.conn.LeftOver
  servesBehind : s.conn.ServesBehind
  orderly : ∀ ep w, s.conn.ins ep = some w → w.Orderly s.sessionSeqnums
  order : ∀ ep, (s.replies.map Prod.fst ++ s.conn.lineAt ep).Pairwise Urb.Before

theorem inTurn_init : InTurn {} where
  traced := traced_init
  dated := dated_init
  leftOver := Connection.leftOver_init
  servesBehind := Connection.servesBehind_init
  orderly _ _ h := nomatch h
  order _ := List.Pairwise.nil

/-- A worker has stopped that leaves its endpoint to the handler. -/
theorem InTurn.workerLine_nil (h : InTurn s) {command : SubmitCommand} {urb : Urb}
    {remaining : List UInt8} {awaiting : Option (UInt8 × Oneshot)}
    (hp : s.conn.phase = .serving command urb remaining awaiting)
    (hdir : command.header.direction = 1) : s.conn.workerLine urb.ep = [] := by
  cases hw : s.conn.ins urb.ep with
  | none => rw [Connection.workerLine, hw]
  | some w =>
    rw [Connection.workerLine_some hw, if_pos ((h.leftOver _ _ _ _ hp hdir).2 w hw)]

/-- None of its events is queued any more. -/
theorem InTurn.queued_other (h : InTurn s) {command : SubmitCommand} {urb : Urb}
    {remaining : List UInt8} {awaiting : Option (UInt8 × Oneshot)}
    (hp : s.conn.phase = .serving command urb remaining awaiting)
    (hdir : command.header.direction = 1) {p : Urb × UsbIpResponse} (hm : p ∈ s.queued) :
    ¬ (urb.session = p.1.session ∧ urb.ep = p.1.ep) := by
  rintro ⟨hsession, hep⟩
  obtain ⟨event, he, rfl⟩ := List.mem_map.mp hm
  exact h.servesBehind _ _ _ _ hp hdir event he ⟨hsession.symm, hep.symm⟩

/-- The events of a step are for URBs of the endpoint. -/
theorem Traced.events_ep (h : Traced (fun _ _ => True) s) {endpoint : UInt8} {move : InMove}
    {w w' : InWorker} {events : List BulkInEvent} (hw : s.conn.ins endpoint = some w)
    (hs : w.step move = some (w', events)) : ∀ event ∈ events, event.urb.ep = endpoint := by
  intro event he
  obtain ⟨request, hr⟩ := InWorker.step_responds hs event he
  obtain ⟨-, hep, -⟩ := h.ins endpoint w hw request hr.holds
  rw [hr.urb]
  exact hep

/-- The URB that joins is younger than all there are. -/
theorem InTurn.before_new (h : InTurn s) (command : SubmitCommand) {endpoint : UInt8} {urb : Urb}
    (hu : urb ∈ s.replies.map Prod.fst ++ s.conn.lineAt endpoint) :
    urb.Before (s.conn.urbOf command) := by
  have hsub : ∃ command', (urb, command') ∈ s.submits := by
    rcases List.mem_append.mp hu with hu | hu
    · obtain ⟨p, hp, rfl⟩ := List.mem_map.mp hu
      exact h.traced.replies_submitted hp
    · exact (h.traced.line_submitted h.leftOver hu).2.2
  obtain ⟨command', hm⟩ := hsub
  exact fun _ _ => h.dated.index _ hm

/-- **The step lemma for the order.** -/
theorem InTurn.order_step (h : InTurn s) (hp : Progress prof s a t) (ep : UInt8) :
    (t.replies.map Prod.fst ++ t.conn.lineAt ep).Pairwise Urb.Before := by
  cases hp with
  | passed hr hl => exact (h.order ep).sublist ((hr.map _).append (hl ep))
  | joined command hr hl =>
    rw [hr]
    refine List.Pairwise.sublist ((hl ep).append_left _) ?_
    rw [← List.append_assoc]
    refine List.pairwise_append.mpr ⟨h.order ep, ?_, fun u hu v hv => ?_⟩
    · split
      · exact List.pairwise_singleton _ _
      · exact List.Pairwise.nil
    · split at hv
      · rw [List.mem_singleton.mp hv]
        exact h.before_new command hu
      · cases hv
  | served command urb remaining awaiting response hp hdir hr hl hread =>
    have hserved : s.conn.servedAt urb.ep = [urb] := by
      rw [Connection.servedAt_serving hp, if_pos ⟨hdir, rfl⟩]
    rw [hr, hl ep, List.map_append, List.map_cons, List.append_assoc, List.cons_append]
    have hrest : (s.answered.map Prod.fst ++
        (s.queued.map Prod.fst ++ s.conn.workerLine ep)).Pairwise Urb.Before := by
      refine (h.order ep).sublist ?_
      rw [replies, List.map_append, List.append_assoc]
      exact ((List.sublist_append_left _ _).append_left _).append_left _
    obtain ⟨hanswered, hbehind, hcross⟩ := List.pairwise_append.mp hrest
    refine List.pairwise_append.mpr ⟨hanswered, List.pairwise_cons.mpr ⟨?_, hbehind⟩, ?_⟩
    · -- Behind it: what is queued is of other endpoints, and its own line is empty.
      intro v hv hsession hep
      rcases List.mem_append.mp hv with hv | hv
      · obtain ⟨p, hm, rfl⟩ := List.mem_map.mp hv
        exact absurd ⟨hsession, hep⟩ (h.queued_other hp hdir hm)
      · have hvep : v.ep = ep :=
          (h.traced.line_submitted h.leftOver (List.mem_append_left _ hv)).2.1
        rw [← hvep, ← hep, h.workerLine_nil hp hdir] at hv
        cases hv
    · -- Before it: all that is written is older, as it stood in the line itself.
      intro u hu v hv
      rcases List.mem_cons.mp hv with rfl | hv
      · refine (List.pairwise_append.mp (h.order v.ep)).2.2 u ?_ v ?_
        · rw [replies, List.map_append]
          exact List.mem_append_left _ hu
        · rw [Connection.lineAt, hserved]
          exact List.mem_append_right _ List.mem_cons_self
      · exact hcross u hu v hv
  | moved endpoint w w' move events hw hs ha hr hl hline =>
    have hrunning : w.phase ≠ .stopped := by
      intro hp
      cases (InWorker.step_of_stopped hp move).symm.trans hs
    have hevents : (events.map fun event => (event.urb, event.response)).map Prod.fst =
        events.map (·.urb) := by
      rw [List.map_map]
      rfl
    -- At the worker's own endpoint the events and the line left are cut from the line before.
    have hown : ((s.replies.map Prod.fst ++ events.map (·.urb)) ++
        t.conn.lineAt endpoint).Pairwise Urb.Before := by
      refine (h.order endpoint).sublist ?_
      rw [hline, Connection.lineAt, Connection.workerLine_some hw, if_neg hrunning,
        List.append_assoc, ← List.append_assoc (events.map (·.urb))]
      refine List.Sublist.append_left (List.Sublist.append_right ?_ _) _
      refine List.Sublist.trans (List.Sublist.append_left ?_ _) ((h.orderly endpoint w hw).step_line hs)
      split
      · exact List.nil_sublist _
      · exact List.Sublist.refl _
    rw [hr, List.map_append, hevents]
    by_cases hep : ep = endpoint
    · rw [hep]
      exact hown
    · -- The events are of another endpoint than the line.
      rw [hl ep hep]
      obtain ⟨-, hline', hcross⟩ := List.pairwise_append.mp (h.order ep)
      refine List.pairwise_append.mpr ⟨(List.pairwise_append.mp hown).1, hline', ?_⟩
      intro u hu v hv
      rcases List.mem_append.mp hu with hu | hu
      · exact hcross u hu v hv
      · obtain ⟨event, he, rfl⟩ := List.mem_map.mp hu
        intro _ heq
        rw [h.traced.events_ep hw hs event he,
          (h.traced.line_submitted h.leftOver hv).2.1] at heq
        exact absurd heq.symm hep

theorem InTurn.step (h : InTurn s) (hnew : s.UsesNew a) (hturn : s.conn.WaitsItsTurn a)
    (ht : step prof torn s a = some t) : InTurn t := by
  have htraced := h.traced.step admits_true (makes_true prof s a) ht
  have hdated := h.dated.step ht
  obtain ⟨c, hc, rfl⟩ := Option.map_eq_some_iff.mp ht
  have hown : ∀ ep w w' move events, s.conn.ins ep = some w → w.step move = some (w', events) →
      ∀ event ∈ events, event.urb.ep = ep :=
    fun ep w w' move events hw hs => h.traced.events_ep hw hs
  exact {
    traced := htraced
    dated := hdated
    leftOver := h.leftOver.step hc
    servesBehind := h.servesBehind.step h.leftOver hturn hown hc
    orderly := orderly_step h.orderly hnew ht
    order := h.order_step (progress h.traced h.dated hdated ht) }

end Chronicle

/-! ## Reads and replies -/

/-- A chronicle with the physical reads that have brought data. -/
structure ReadChronicle where
  chron : Chronicle := {}
  reads : List PhysicalRead := []

namespace ReadChronicle

variable {prof : Profile} {torn : Urb → Nat} {s t : ReadChronicle} {a : Action}

def step (prof : Profile) (torn : Urb → Nat) (s : ReadChronicle) (a : Action) :
    Option ReadChronicle :=
  (s.chron.step prof torn a).map fun chron =>
    { chron := chron, reads := s.reads ++ Chronicle.readBy prof s.chron.conn a }

/-- The `RET_SUBMIT`s written for the IN URBs of an endpoint in a session. -/
def retSubmits (s : ReadChronicle) (session : Nat) (endpoint : UInt8) :
    List (Urb × UsbIpResponse) :=
  s.chron.answered.filter fun p => p.1.session = session ∧ p.1.ep = endpoint

/-- The physical reads of the endpoint in the session, in the order of their completions. -/
def readsAt (s : ReadChronicle) (session : Nat) (endpoint : UInt8) : List PhysicalRead :=
  s.reads.filter fun read => read.session = session ∧ read.endpoint = endpoint

/-- The replies come in the order of the commands, and those that succeed bring the data of
    the physical reads, in the order of their completions and each once at most. -/
structure InOrder (s : ReadChronicle) : Prop where
  submissions : ∀ session endpoint,
    (s.retSubmits session endpoint).Pairwise fun p q => p.1.index < q.1.index
  payloads : ∀ session endpoint,
    ((s.retSubmits session endpoint).filterMap Chronicle.delivery?).Sublist
      (s.readsAt session endpoint)

/-- The data that is written or on its way, for an endpoint in a session. -/
def Matched (s : ReadChronicle) : Prop :=
  ∀ session endpoint, ((s.chron.replies.filterMap Chronicle.delivery?).filter fun read =>
    read.session = session ∧ read.endpoint = endpoint).Sublist (s.readsAt session endpoint)

/-- The data of a reply is of the reply's own session and endpoint. -/
theorem filterMap_delivery (replies : List (Urb × UsbIpResponse)) (session : Nat)
    (endpoint : UInt8) :
    (replies.filter fun p => p.1.session = session ∧ p.1.ep = endpoint).filterMap
        Chronicle.delivery? =
      (replies.filterMap Chronicle.delivery?).filter fun read =>
        read.session = session ∧ read.endpoint = endpoint := by
  induction replies with
  | nil => rfl
  | cons p replies ih =>
    cases hp : p.2.successPayload? with
    | none =>
      have hnone : Chronicle.delivery? p = none := by rw [Chronicle.delivery?, hp]; rfl
      rw [List.filterMap_cons, hnone, List.filter_cons]
      split
      · rw [List.filterMap_cons, hnone]
        exact ih
      · exact ih
    | some data =>
      have hsome : Chronicle.delivery? p = some ⟨p.1.session, p.1.ep, some p.1, data⟩ := by
        rw [Chronicle.delivery?, hp]
        rfl
      rw [List.filterMap_cons, hsome, List.filter_cons, List.filter_cons]
      split
      · rw [List.filterMap_cons, hsome]
        exact congrArg _ ih
      · exact ih

theorem Matched.step (h : s.Matched) (hturn : s.chron.InTurn)
    (hp : Chronicle.Progress prof s.chron a t.chron)
    (hreads : t.reads = s.reads ++ Chronicle.readBy prof s.chron.conn a) : t.Matched := by
  intro session endpoint
  have hold := h session endpoint
  have hgrow : (s.readsAt session endpoint).Sublist (t.readsAt session endpoint) := by
    rw [readsAt, readsAt, hreads, List.filter_append]
    exact List.sublist_append_left _ _
  cases hp with
  | passed hr hl => exact ((hr.filterMap _).filter _).trans (hold.trans hgrow)
  | joined command hr hl =>
    rw [hr]
    exact hold.trans hgrow
  | served command urb remaining awaiting response hphase hdir hr hl hread =>
    rw [Chronicle.replies, List.filterMap_append, List.filter_append] at hold
    rw [hr, List.filterMap_append, List.filter_append, readsAt, hreads, List.filter_append]
    -- The reply that was served goes in front of what is queued.
    have hcons : ((urb, response) :: s.chron.queued).filterMap Chronicle.delivery? =
        (Chronicle.delivery? (urb, response)).toList ++
          s.chron.queued.filterMap Chronicle.delivery? := by
      rw [List.filterMap_cons]
      cases Chronicle.delivery? (urb, response) <;> rfl
    rw [hcons, List.filter_append]
    by_cases hkey : urb.session = session ∧ urb.ep = endpoint
    · -- No data of the endpoint is on its way, so this comes last.
      have hnone : (s.chron.queued.filterMap Chronicle.delivery?).filter (fun read =>
          read.session = session ∧ read.endpoint = endpoint) = [] := by
        rw [← filterMap_delivery]
        have hqueued : s.chron.queued.filter (fun p => p.1.session = session ∧
            p.1.ep = endpoint) = [] := by
          refine List.filter_eq_nil_iff.mpr fun p hm hq => ?_
          obtain ⟨hs, hep⟩ := of_decide_eq_true hq
          exact hturn.queued_other hphase hdir hm
            ⟨hkey.1.trans hs.symm, hkey.2.trans hep.symm⟩
        rw [hqueued]
        rfl
      rw [hnone, List.append_nil] at hold ⊢
      exact hold.append (hread.filter _)
    -- A reply of another endpoint adds nothing to this one's.
    · have hother : (Chronicle.delivery? (urb, response)).toList.filter (fun read =>
          read.session = session ∧ read.endpoint = endpoint) = [] := by
        unfold Chronicle.delivery?
        cases response.successPayload? with
        | none => rfl
        | some data => simpa [List.filter_cons] using hkey
      rw [hother, List.nil_append]
      exact hold.trans (List.sublist_append_left _ _)
  | moved ep w w' move events hw hs ha hr hl hline =>
    rw [hr, List.filterMap_append, List.filter_append, readsAt, hreads, List.filter_append, ha]
    exact hold.append ((Chronicle.readBy_inMove hturn.traced hw hs).filter _)

theorem inOrder (hturn : s.chron.InTurn) (h : s.Matched) : s.InOrder where
  submissions session endpoint := by
    have horder : s.chron.answered.Pairwise fun p q => p.1.Before q.1 := by
      refine List.pairwise_map.mp (((hturn.order 0).sublist ?_))
      rw [Chronicle.replies, List.map_append, List.append_assoc]
      exact List.sublist_append_left _ _
    refine List.Pairwise.imp_of_mem ?_ (horder.sublist List.filter_sublist)
    intro p q hp hq hbefore
    obtain ⟨hs, hep⟩ := of_decide_eq_true (List.mem_filter.mp hp).2
    obtain ⟨hs', hep'⟩ := of_decide_eq_true (List.mem_filter.mp hq).2
    exact hbefore (hs.trans hs'.symm) (hep.trans hep'.symm)
  payloads session endpoint := by
    rw [retSubmits, filterMap_delivery]
    refine List.Sublist.trans (List.Sublist.filter _ ?_) (h session endpoint)
    rw [Chronicle.replies, List.filterMap_append]
    exact List.sublist_append_left _ _

/-- A client that uses no sequence number twice in a session, and whose reads reach no handler
    that would answer them before what is queued. -/
def TakesTurns (s : ReadChronicle) (a : Action) : Prop :=
  s.chron.UsesNew a ∧ s.chron.conn.WaitsItsTurn a

instance (s : ReadChronicle) (a : Action) : Decidable (s.TakesTurns a) :=
  inferInstanceAs (Decidable (_ ∧ _))

/-- **Bulk-IN completions keep their order.** Where a client uses no sequence number twice in
    a session, and no read comes to the handler while an event of the ended worker of its
    endpoint is queued, in every interleaving of the handler and the workers: the replies to
    the IN URBs of an endpoint in a session come in the order of their commands, and the data
    of the successful ones is that of the physical reads, in the order of their completions, no
    read being used twice. -/
theorem inOrder_of_takesTurns (prof : Profile) (torn : Urb → Nat) (acts : List Action)
    (h : Along (step prof torn) TakesTurns {} acts) :
    Throughout (step prof torn) InOrder {} acts := by
  refine throughout_of_along (I := fun s => s.chron.InTurn ∧ s.Matched) ?_
    (fun s hs => inOrder hs.1 hs.2) ⟨Chronicle.inTurn_init, fun _ _ => List.Sublist.refl _⟩ h
  intro s a t hs hturns hstep
  obtain ⟨chron, hc, rfl⟩ := Option.map_eq_some_iff.mp hstep
  have hturn := hs.1.step hturns.1 hturns.2 hc
  exact ⟨hturn, hs.2.step hs.1 (Chronicle.progress hs.1.traced hs.1.dated hturn.dated hc) rfl⟩

/-- Three reads wait, the second is unlinked, and the others are answered in turn. -/
def readTwice : List Action :=
  Connection.attach ++ [Connection.submitRead 1] ++ Connection.startRead ++
    [Connection.submitRead 2, Connection.submitRead 3, Connection.unlinkUrb 4 2,
      .inCommand 0x81, .inCommand 0x81, .inCommand 0x81, .inCompletion 0x81 (.ok [0x2A])] ++
    [.inFlush 0x81, .outMove 1 .command, .inBarrier 0x81, .inCompletion 0x81 (.ok [0x2B]),
      .deliverIn, .deliverIn]

theorem readTwice_inOrder :
    Throughout (step .release fun _ => 0) InOrder {} readTwice :=
  inOrder_of_takesTurns .release _ readTwice (by decide +kernel)

example : (run (step .release fun _ => 0) {} readTwice).map (fun s =>
    (s.retSubmits 1 0x81).map fun p => (p.1.index, p.2.successPayload?)) =
      some [(1, some [0x2A]), (3, some [0x2B])] := by decide +kernel

/-- A read that is completed, a read of `0xFFFFFFFF` bytes that the worker panics at, and a
    third one that the handler executes before it takes the first one's event. -/
def readPastPanic : List Action :=
  Connection.attach ++ [Connection.submitRead 1] ++ Connection.startRead ++
    [.inCompletion 0x81 (.ok [0x2A]), Connection.submitLargeRead 2] ++ Connection.startRead ++
    [Connection.submitRead 3, .execute Connection.readyHost, .deliverIn]

/-- **A read overtakes a completion that is queued.** All numbers are different, and yet the
    third read is answered first. -/
theorem readPastPanic_not_inOrder :
    ¬ ∀ acts, Along (step .release fun _ => 0) (fun s a => s.chron.UsesNew a) {} acts →
      Throughout (step .release fun _ => 0) InOrder {} acts := by
  intro h
  have hrun : (run (step .release fun _ => 0) {} readPastPanic).any (fun s =>
      (s.retSubmits 1 0x81).map (·.1.index) = [3, 1]) = true := by decide +kernel
  obtain ⟨s, hs, hw⟩ := (Option.any_eq_true _ _).mp hrun
  have hdistinct : Along (step .release fun _ => 0) (fun s a => s.chron.UsesNew a) {}
      readPastPanic := by decide +kernel
  have horder := ((h _ hdistinct).of_run hs).submissions 1 0x81
  have hsorted : ((s.retSubmits 1 0x81).map (·.1.index)).Pairwise (· < ·) :=
    List.pairwise_map.mpr horder
  rw [of_decide_eq_true hw] at hsorted
  exact absurd hsorted (by decide)

end ReadChronicle
end Lusbip
